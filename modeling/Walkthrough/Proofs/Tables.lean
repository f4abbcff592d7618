import Mathlib.Data.List.Basic
import Walkthrough.Proofs.Parts
import Walkthrough.Report.Markdown

/-!
# Walkthrough.Proofs.Tables

The tables of the steps in a document for readers.

A reader cuts a row at its pipes, those aside that are escaped: right before such a pipe stands an
odd number of backslashes. A pipe of a text gets one backslash when the text is put into a cell, so
it is escaped if it had an even number of them.

* `length_columnsFrom`: a line has one column more than pipes that are not escaped.
* `pipes_cell`: the pipes of a cell that are not escaped are the escaped ones of its text.
* `columns_row`: a row is cut into the columns of its cells, one after the other.
* `rows_of_markdown`: the lines of a document with those of its tables, and the columns of each row
  of a step. `widened_of_backslash` is a step whose row has a column too many.
-/

namespace Walkthrough
namespace Report

open Text

/-! ## Pipes -/

/-- Do the backslashes at the end of what was read make the next character an escaped one? They do
if their number is odd. What was read is given backwards. -/
def isEscaping (read : List Char) : Bool := (read.takeWhile (· = '\\')).length % 2 = 1

theorem isEscaping_cons (c : Char) (read : List Char) :
    isEscaping (c :: read) = (c = '\\' && !isEscaping read) := by
  by_cases h : c = '\\'
  · simp only [isEscaping, h, decide_true, List.takeWhile_cons_of_pos, List.length_cons,
      Bool.true_and, ← decide_not, decide_eq_decide]
    omega
  · simp [isEscaping, h]

/-- Whether the next character is escaped tells the same of the one behind it. -/
theorem isEscaping_congr {read read' : List Char} (h : isEscaping read = isEscaping read')
    (c : Char) : isEscaping (c :: read) = isEscaping (c :: read') := by
  simp only [isEscaping_cons, h]

/-- How many pipes of a text are escaped, or are not. -/
def pipes (escaped : Bool) : List Char → List Char → Nat
  | _, [] => 0
  | read, c :: cs =>
    (if c = '|' ∧ isEscaping read = escaped then 1 else 0) + pipes escaped (c :: read) cs

/-- Cut a line at the pipes that are not escaped. -/
def columnsFrom : List Char → List Char → List (List Char)
  | _, [] => [[]]
  | read, c :: cs =>
    if c = '|' ∧ isEscaping read = false then [] :: columnsFrom (c :: read) cs
    else (columnsFrom (c :: read) cs).modifyHead (c :: ·)

section Pipes

variable {read read' : List Char}

theorem pipes_congr (h : isEscaping read = isEscaping read') (escaped : Bool) (cs : List Char) :
    pipes escaped read cs = pipes escaped read' cs := by
  induction cs generalizing read read' with
  | nil => rfl
  | cons c cs ih =>
    rw [pipes, pipes, h, ih (isEscaping_congr h c)]

theorem pipes_append (escaped : Bool) (read xs ys : List Char) :
    pipes escaped read (xs ++ ys) =
      pipes escaped read xs + pipes escaped (xs.reverse ++ read) ys := by
  induction xs generalizing read with
  | nil => simp [pipes]
  | cons x xs ih => simp [pipes, ih, Nat.add_assoc]

theorem pipes_of_notMem {cs : List Char} (h : '|' ∉ cs) (escaped : Bool) (read : List Char) :
    pipes escaped read cs = 0 := by
  induction cs generalizing read with
  | nil => rfl
  | cons c cs ih =>
    obtain ⟨hc, hcs⟩ := not_or.1 (mt List.mem_cons.2 h)
    simp [pipes, Ne.symm hc, ih hcs]

/-- The pipes of a cell that are not escaped are the escaped ones of its text. -/
theorem pipes_cell (h : isEscaping read = isEscaping read') (cs : List Char) :
    pipes false read (cs.flatMap cellChar) = pipes true read' cs := by
  induction cs generalizing read read' with
  | nil => rfl
  | cons c cs ih =>
    rw [List.flatMap_cons, pipes_append]
    by_cases hpipe : c = '|'
    · subst hpipe
      have hrest : isEscaping ('|' :: '\\' :: read) = isEscaping ('|' :: read') := by
        simp [isEscaping_cons]
      have hshown : isEscaping ('\\' :: read) = !isEscaping read' := by simp [isEscaping_cons, h]
      simp [cellChar, pipes, hshown, ih hrest]
    · by_cases hbreak : c = '\r' ∨ c = '\n'
      · have hrest : isEscaping (' ' :: read) = isEscaping (c :: read') := by
          rcases hbreak with rfl | rfl <;> simp [isEscaping_cons]
        simp [cellChar, hpipe, hbreak, pipes, ih hrest]
      · simp [cellChar, hpipe, hbreak, pipes, ih (isEscaping_congr h c)]

/-! ## Columns -/

theorem columnsFrom_ne_nil (read cs : List Char) : columnsFrom read cs ≠ [] := by
  cases cs with
  | nil => exact List.cons_ne_nil _ _
  | cons c cs =>
    rw [columnsFrom]
    split
    · exact List.cons_ne_nil _ _
    · simpa using columnsFrom_ne_nil (c :: read) cs

theorem columnsFrom_congr (h : isEscaping read = isEscaping read') (cs : List Char) :
    columnsFrom read cs = columnsFrom read' cs := by
  induction cs generalizing read read' with
  | nil => rfl
  | cons c cs ih =>
    rw [columnsFrom, columnsFrom, h, ih (isEscaping_congr h c)]

/-- A line has one column more than pipes that are not escaped. -/
theorem length_columnsFrom (read cs : List Char) :
    (columnsFrom read cs).length = pipes false read cs + 1 := by
  induction cs generalizing read with
  | nil => rfl
  | cons c cs ih =>
    rw [columnsFrom, pipes]
    split
    · rw [List.length_cons, ih, Nat.add_comm 1]
    · rw [List.length_modifyHead, ih, Nat.zero_add]

theorem columnsFrom_of_pipes_eq_zero {cs : List Char} (h : pipes false read cs = 0) :
    columnsFrom read cs = [cs] := by
  induction cs generalizing read with
  | nil => rfl
  | cons c cs ih =>
    obtain ⟨hc, hcs⟩ := Nat.add_eq_zero_iff.1 h
    rw [columnsFrom, ih hcs, if_neg (by simpa using hc)]
    rfl

/-- At a pipe that is not escaped a line is cut in two, and the columns of both are its own. -/
theorem columnsFrom_append {xs : List Char} (h : isEscaping (xs.reverse ++ read) = false)
    (ys : List Char) :
    columnsFrom read (xs ++ '|' :: ys) = columnsFrom read xs ++ columnsFrom [] ys := by
  induction xs generalizing read with
  | nil =>
    have hstart : isEscaping ('|' :: read) = isEscaping [] := by simp [isEscaping]
    have hread : isEscaping read = false := h
    simp [columnsFrom, hread, columnsFrom_congr hstart]
  | cons x xs ih =>
    have hrest : isEscaping (xs.reverse ++ x :: read) = false := by simpa using h
    rw [List.cons_append, columnsFrom, columnsFrom, ih hrest]
    split
    · rfl
    · cases hxs : columnsFrom (x :: read) xs with
      | nil => exact absurd hxs (columnsFrom_ne_nil _ _)
      | cons first rest => rfl

end Pipes

/-! ## Rows -/

/-- The columns of a line. In front of the first pipe of a row and behind its last there is an empty
one. -/
def columns (line : String) : List String := (columnsFrom [] line.toList).map String.ofList

/-- A text as it stands between two pipes. -/
def spaced (text : String) : String := " " ++ text ++ " "

/-- How many pipes of a text are escaped before it is put into a cell. -/
def escapedPipes (text : String) : Nat := pipes true [] text.toList

theorem toList_spaced (text : String) : (spaced text).toList = ' ' :: (text.toList ++ [' ']) := by
  simp [spaced]

theorem pipes_spaced (escaped : Bool) (text : String) :
    pipes escaped [] (spaced text).toList = pipes escaped [] text.toList := by
  have hstart : isEscaping [' '] = isEscaping [] := by simp [isEscaping]
  simp [toList_spaced, pipes, pipes_append, pipes_congr hstart]

theorem length_columns_cell (text : String) :
    (columns (spaced (cell text))).length = escapedPipes text + 1 := by
  have hcell : (cell text).toList = text.toList.flatMap cellChar := String.toList_ofList
  rw [columns, List.length_map, length_columnsFrom, pipes_spaced, hcell, pipes_cell rfl,
    escapedPipes]

theorem columns_of_pipes_eq_zero {line : String} (h : pipes false [] line.toList = 0) :
    columns line = [line] := by
  rw [columns, columnsFrom_of_pipes_eq_zero h, List.map_singleton, String.ofList_toList]

theorem columns_cell {text : String} (h : escapedPipes text = 0) :
    columns (spaced (cell text)) = [spaced (cell text)] := by
  have hlength := length_columns_cell text
  rw [columns, List.length_map, length_columnsFrom, h] at hlength
  exact columns_of_pipes_eq_zero (Nat.succ.inj hlength)

theorem columns_of_notMem {text : String} (h : '|' ∉ text.toList) :
    columns (spaced text) = [spaced text] := by
  refine columns_of_pipes_eq_zero ?_
  rw [pipes_spaced]
  exact pipes_of_notMem h false []

theorem toList_row {cells : List String} (h : cells ≠ []) :
    (row cells).toList = '|' :: cells.flatMap fun c => (spaced c).toList ++ ['|'] := by
  have hcells : ' ' :: (List.intercalate " | ".toList (cells.map String.toList) ++ [' ', '|']) =
      cells.flatMap fun c => (spaced c).toList ++ ['|'] := by
    induction cells with
    | nil => exact absurd rfl h
    | cons c cells ih =>
      cases cells with
      | nil => simp [toList_spaced]
      | cons d cells =>
        rw [List.flatMap_cons, ← ih (List.cons_ne_nil _ _)]
        simp [toList_spaced]
  simp [row, ← hcells]

/-- A row is cut into the columns of its cells, one after the other. -/
theorem columns_row {cells : List String} (h : cells ≠ []) :
    columns (row cells) = "" :: cells.flatMap (fun c => columns (spaced c)) ++ [""] := by
  have hcells (cs : List String) :
      columnsFrom [] (cs.flatMap fun c => (spaced c).toList ++ ['|']) =
        cs.flatMap (fun c => columnsFrom [] (spaced c).toList) ++ [[]] := by
    induction cs with
    | nil => rfl
    | cons c cs ih =>
      have hend : isEscaping ((spaced c).toList.reverse ++ []) = false := by
        simp [toList_spaced, isEscaping_cons]
      rw [List.flatMap_cons, List.append_assoc, List.singleton_append, columnsFrom_append hend, ih,
        List.flatMap_cons, List.append_assoc]
  have hstart : isEscaping ['|'] = isEscaping [] := by simp [isEscaping]
  rw [columns, toList_row h, columnsFrom, if_pos ⟨rfl, rfl⟩, columnsFrom_congr hstart, hcells]
  simp [columns, List.map_flatMap]

/-- Neither a pipe nor a break. -/
def IsInert (text : String) : Prop := ∀ c ∈ text.toList, c ≠ '|' ∧ c ≠ '\n' ∧ c ≠ '\r'

instance (text : String) : Decidable (IsInert text) :=
  List.decidableBAll (fun c => c ≠ '|' ∧ c ≠ '\n' ∧ c ≠ '\r') text.toList

theorem isInert_append {s t : String} : IsInert (s ++ t) ↔ IsInert s ∧ IsInert t := by
  rw [IsInert, String.toList_append]
  exact List.forall_mem_append

theorem isInert_repr (n : Nat) : IsInert (Nat.repr n) := by
  intro c hc
  rw [Nat.toList_repr] at hc
  have hdigit : c.isDigit = true := Nat.isDigit_of_mem_toDigits (by decide) (by decide) hc
  refine ⟨?_, ?_, ?_⟩ <;> rintro rfl <;> cases hdigit

theorem isInert_word (kind : Action.Kind) : IsInert kind.word := by
  cases kind <;> decide

theorem isInert_label (status : StepStatus) : IsInert status.label := by
  cases status <;> decide

theorem isInert_duration (millis : Nat) : IsInert (Nat.repr millis ++ " ms") :=
  isInert_append.2 ⟨isInert_repr millis, by decide⟩

theorem columns_plain {text : String} (h : IsInert text) :
    columns (spaced text) = [spaced text] :=
  columns_of_notMem fun hpipe => (h _ hpipe).1 rfl

/-- A text without a break. -/
def IsUnbroken (text : String) : Prop := ∀ c ∈ text.toList, c ≠ '\n' ∧ c ≠ '\r'

instance (text : String) : Decidable (IsUnbroken text) :=
  List.decidableBAll (fun c => c ≠ '\n' ∧ c ≠ '\r') text.toList

theorem IsInert.isUnbroken {text : String} (h : IsInert text) : IsUnbroken text :=
  fun c hc => (h c hc).2

theorem isUnbroken_cell (text : String) : IsUnbroken (cell text) := by
  intro c hc
  rw [cell, Text.expand, String.toList_ofList, List.mem_flatMap] at hc
  obtain ⟨d, -, hc⟩ := hc
  unfold cellChar at hc
  split at hc
  · simp only [List.mem_cons, List.not_mem_nil, or_false] at hc
    rcases hc with rfl | rfl <;> decide
  · split at hc
    · obtain rfl := List.mem_singleton.1 hc
      decide
    · next hbreak =>
      obtain rfl := List.mem_singleton.1 hc
      exact ⟨fun h => hbreak (.inr h), fun h => hbreak (.inl h)⟩

theorem isUnbroken_row {cells : List String} (hne : cells ≠ []) (h : ∀ c ∈ cells, IsUnbroken c) :
    IsUnbroken (row cells) := by
  intro c hc
  simp only [toList_row hne, toList_spaced, List.mem_cons, List.mem_flatMap, List.mem_append,
    List.not_mem_nil, or_false] at hc
  rcases hc with rfl | ⟨text, htext, (rfl | hc | rfl) | rfl⟩
  case inr.inl.inr.inl => exact h text htext c hc
  all_goals decide

/-! ## Steps -/

theorem columns_head : columns (row stepColumns) = "" :: stepColumns.map spaced ++ [""] := by
  have hplain : ∀ c ∈ stepColumns, IsInert c := by decide
  have hcells : stepColumns.flatMap (fun c => columns (spaced c)) = stepColumns.map spaced := by
    rw [List.map_eq_flatMap]
    exact List.flatMap_congr fun c hc => columns_plain (hplain c hc)
  rw [columns_row (by decide), hcells]

/-- What the last column of a step shows. -/
def StepResult.errorText (s : StepResult) : String := (s.error.map ErrorDetail.text).getD ""

/-- The line of a step. It has no break, and its columns are those of the head of the table as long
as no pipe of its name or its error is escaped already. Every such pipe adds a column. -/
structure IsRowOf (s : StepResult) (line : String) : Prop where
  unbroken : IsUnbroken line
  width : (columns line).length =
    2 + stepColumns.length + escapedPipes s.stepName + escapedPipes s.errorText
  aligned : columns line = "" :: (stepCells s).map spaced ++ [""] ↔
    escapedPipes s.stepName = 0 ∧ escapedPipes s.errorText = 0

theorem stepCells_ne_nil (s : StepResult) : stepCells s ≠ [] := List.cons_ne_nil _ _

theorem isUnbroken_stepCells (s : StepResult) : ∀ c ∈ stepCells s, IsUnbroken c := by
  simp [stepCells, isUnbroken_cell, (isInert_repr _).isUnbroken, (isInert_word _).isUnbroken,
    (isInert_label _).isUnbroken, (isInert_duration _).isUnbroken]

theorem columns_step (s : StepResult) : columns (row (stepCells s)) =
    "" :: spaced (Nat.repr s.stepId) :: columns (spaced (cell s.stepName)) ++
      [spaced s.action.word, spaced s.status.label, spaced (Nat.repr s.attempts),
        spaced (Nat.repr s.durationMs ++ " ms")] ++
      columns (spaced (cell s.errorText)) ++ [""] := by
  rw [columns_row (stepCells_ne_nil s)]
  simp [stepCells, columns_plain (isInert_repr _), columns_plain (isInert_word _),
    columns_plain (isInert_label _), columns_plain (isInert_duration _), StepResult.errorText]

theorem isRowOf_step (s : StepResult) : IsRowOf s (row (stepCells s)) := by
  have hwidth : (columns (row (stepCells s))).length =
      2 + stepColumns.length + escapedPipes s.stepName + escapedPipes s.errorText := by
    simp only [columns_step, List.length_append, List.length_cons, List.length_nil,
      length_columns_cell, stepColumns]
    omega
  refine ⟨isUnbroken_row (stepCells_ne_nil s) (isUnbroken_stepCells s), hwidth, ?only, ?aligned⟩
  case only =>
    intro h
    rw [h] at hwidth
    simp only [stepCells, List.map_cons, List.map_nil, List.length_append, List.length_cons,
      List.length_nil, stepColumns] at hwidth
    omega
  case aligned =>
    rintro ⟨hname, herror⟩
    rw [columns_step, columns_cell hname, columns_cell herror]
    rfl

/-! ## Documents -/

theorem isEnded_lines (ls : List String) : IsEnded (lines ls) := by
  refine isEnded_join fun s hs => ?_
  obtain ⟨l, -, rfl⟩ := List.mem_map.1 hs
  exact isEnded_break l

theorem linesOf_lines {ls : List String} (h : ∀ l ∈ ls, IsUnbroken l) :
    linesOf (lines ls) = ls := by
  induction ls with
  | nil => rfl
  | cons l ls ih =>
    obtain ⟨hl, hls⟩ := List.forall_mem_cons.1 h
    have hline : '\n' ∉ l.toList := fun hbreak => (hl _ hbreak).1 rfl
    have hlines : lines (l :: ls) = l ++ "\n" ++ lines ls := by simp [lines]
    rw [hlines, linesOf_append (isEnded_break l), linesOf_break hline, ih hls]
    rfl

/-- The lines of the table of the steps of a scenario: its head and its rule, one line for each
step, and an empty one behind them. -/
def tableLines (steps : List StepResult) : List String :=
  if steps.isEmpty then []
  else
    row stepColumns :: rule stepColumns.length :: steps.map (fun s => row (stepCells s)) ++ [""]

theorem isEnded_stepTable (steps : List StepResult) : IsEnded (stepTable steps) := by
  unfold stepTable
  split
  · exact isEnded_empty
  · exact isEnded_break _

theorem linesOf_stepTable (steps : List StepResult) :
    linesOf (stepTable steps) = tableLines steps := by
  unfold stepTable tableLines
  split
  · rfl
  · have hlines : ∀ l ∈ row stepColumns :: rule stepColumns.length ::
        steps.map (fun s => row (stepCells s)), IsUnbroken l := by
      simp only [List.forall_mem_cons, List.forall_mem_map]
      exact ⟨by decide, by decide, fun s _ => (isRowOf_step s).unbroken⟩
    have hempty : linesOf "\n" = [""] := rfl
    rw [linesOf_append (isEnded_lines _), linesOf_lines hlines, hempty]

theorem isEnded_evidenceSection (tree : Files.Tree) (embed : Bool) (shown : List Artifact) :
    IsEnded (evidenceSection tree embed shown) := by
  unfold evidenceSection
  split
  · exact isEnded_empty
  · exact isEnded_break _

/-- A scenario without its steps and its captures. -/
def ScenarioResult.bare (s : ScenarioResult) : ScenarioResult :=
  { s with steps := [], artifacts := [] }

section Documents

variable (tree : Files.Tree) (embed : Bool) (shown : List Artifact)

theorem scenarioSection_eq (number : Nat) (s : ScenarioResult) :
    scenarioSection tree embed shown number s =
      scenarioSection tree embed [] number s.bare ++ stepTable s.steps ++
        evidenceSection tree embed (s.evidence shown) := by
  have hevidence : evidenceSection tree embed (s.bare.evidence []) = "" := rfl
  have htable : stepTable s.bare.steps = "" := rfl
  rw [scenarioSection, scenarioSection, hevidence, htable, String.append_empty, String.append_empty]
  rfl

theorem isEnded_bare (number : Nat) (s : ScenarioResult) :
    IsEnded (scenarioSection tree embed [] number s.bare) :=
  ((isEnded_lines _).append (isEnded_stepTable _)).append (isEnded_evidenceSection tree embed _)

theorem linesOf_scenarioSection (number : Nat) (s : ScenarioResult) :
    linesOf (scenarioSection tree embed shown number s) =
      linesOf (scenarioSection tree embed [] number s.bare) ++ tableLines s.steps ++
        linesOf (evidenceSection tree embed (s.evidence shown)) := by
  have hbare := isEnded_bare tree embed number s
  rw [scenarioSection_eq, linesOf_append (hbare.append (isEnded_stepTable _)), linesOf_append hbare,
    linesOf_stepTable]

theorem markdown_eq (r : Report) :
    r.markdown tree shown embed = markdown { r with scenarios := [] } tree [] embed ++
      String.join (r.scenarios.zipIdx.map fun s =>
        scenarioSection tree embed shown (s.2 + 1) s.1) := by
  simp [markdown, verdict, passed]

theorem linesOf_markdown (r : Report) :
    linesOf (r.markdown tree shown embed) =
      linesOf (markdown { r with scenarios := [] } tree [] embed) ++
        r.scenarios.zipIdx.flatMap fun s =>
          linesOf (scenarioSection tree embed [] (s.2 + 1) s.1.bare) ++ tableLines s.1.steps ++
            linesOf (evidenceSection tree embed (s.1.evidence shown)) := by
  have hhead : IsEnded (markdown { r with scenarios := [] } tree [] embed) :=
    (isEnded_lines _).append isEnded_empty
  have hsections : ∀ s ∈ r.scenarios.zipIdx.map fun s =>
      scenarioSection tree embed shown (s.2 + 1) s.1, IsEnded s := by
    intro text htext
    obtain ⟨s, -, rfl⟩ := List.mem_map.1 htext
    rw [scenarioSection_eq]
    exact ((isEnded_bare tree embed _ s.1).append (isEnded_stepTable _)).append
      (isEnded_evidenceSection tree embed _)
  rw [markdown_eq, linesOf_append hhead, linesOf_join hsections, List.flatMap_map]
  exact congrArg _ (List.flatMap_congr fun s _ => linesOf_scenarioSection tree embed shown _ s.1)

end Documents

/-- A document has a line of its own for each step in the table of its scenario, in order, and every
one has the columns of the head of the table exactly if no pipe of the name or of the error of the
step is escaped already. -/
theorem rows_of_markdown (r : Report) (tree : Files.Tree) (shown : List Artifact) (embed : Bool) :
    linesOf (r.markdown tree shown embed) =
        linesOf (markdown { r with scenarios := [] } tree [] embed) ++
          r.scenarios.zipIdx.flatMap (fun s =>
            linesOf (scenarioSection tree embed [] (s.2 + 1) s.1.bare) ++ tableLines s.1.steps ++
              linesOf (evidenceSection tree embed (s.1.evidence shown))) ∧
      stepColumns.length = 7 ∧
      columns (row stepColumns) = "" :: stepColumns.map spaced ++ [""] ∧
      ∀ s : StepResult, IsRowOf s (row (stepCells s)) :=
  ⟨linesOf_markdown tree embed shown r, rfl, columns_head, isRowOf_step⟩

/-- The pipe in the name of the step has a backslash before it. The one that it gets takes the
escape away, and the row has a column too many. -/
theorem widened_of_backslash :
    let step : StepResult := ⟨1, "a\\|b", .click, .passed, 1, 12, [], none, default⟩
    let scenario : ScenarioResult := ⟨"A", "a.json", .passed, [step], 12, [], none, default⟩
    let report : Report :=
      ⟨"1", default, default, "dev", [scenario], .ofResults [scenario] false, false⟩
    row (stepCells step) ∈ linesOf (report.markdown .empty [] false) ∧
      columns (row (stepCells step)) =
        ["", " 1 ", " a\\\\", "b ", " click ", " PASSED ", " 1 ", " 12 ms ", "  ", ""] ∧
      (columns (row stepColumns)).length = 9 := by
  refine ⟨?_, by decide +kernel, by decide +kernel⟩
  rw [linesOf_markdown]
  simp [tableLines]

end Report
end Walkthrough
