import Mathlib.Data.List.DropRight
import Walkthrough.Capture.Key
import Walkthrough.Proofs.Moments
import Walkthrough.Proofs.Scenario

/-!
# Walkthrough.Proofs.FileNames

The names of the files of captures, and what they tell apart.

A name is put together from parts of several lengths. The parts are recognised from the front: a
number ends where its digits do, a time of day has nine digits. What is left is the name of the
scenario and an ending, and the ending is recognised from the back.

* `storesTaken_scenario`: a scenario keeps captures of four forms and no others.
* `isSafe_fileName`: a name has no characters but letters, digits and marks that separate nothing.
* `fileName_eq_iff`: two captures have the same name when their labels are the same, that is reason,
  step, attempt, time of day down to the millisecond and what `sanitize` leaves of the scenario.
-/

namespace Walkthrough

open Text

/-! ## Digits in front -/

section Digits

variable {width n m : Nat} {rest rest' : List Char}

theorem digits_append_inj {ds es : List Char} (hds : IsDigits ds) (hes : IsDigits es)
    (hrest : StopsDigits rest) (hrest' : StopsDigits rest') :
    ds ++ rest = es ++ rest' ↔ ds = es ∧ rest = rest' := by
  constructor
  · intro h
    have htake := congrArg (List.takeWhile Char.isDigit) h
    have hdrop := congrArg (List.dropWhile Char.isDigit) h
    rw [takeWhile_digits hds.all hrest, takeWhile_digits hes.all hrest'] at htake
    rw [dropWhile_digits hds.all hrest, dropWhile_digits hes.all hrest'] at hdrop
    exact ⟨htake, hdrop⟩
  · rintro ⟨rfl, rfl⟩
    rfl

theorem paddedDigits_inj : paddedDigits width n = paddedDigits width m ↔ n = m := by
  constructor
  · intro h
    have hread := congrArg Binary64.ofDigits h
    rwa [ofDigits_padded, ofDigits_padded] at hread
  · rintro rfl
    rfl

/-- A number is recognised by its digits when something else follows them. -/
theorem paddedDigits_append_inj (hrest : StopsDigits rest) (hrest' : StopsDigits rest') :
    paddedDigits width n ++ rest = paddedDigits width m ++ rest' ↔ n = m ∧ rest = rest' := by
  rw [digits_append_inj (isDigits_padded width n) (isDigits_padded width m) hrest hrest',
    paddedDigits_inj]

/-- Numbers that fit their width need nothing to end them. -/
theorem paddedDigits_append_inj_of_lt (hwidth : 0 < width) (hn : n < tenTo width)
    (hm : m < tenTo width) :
    paddedDigits width n ++ rest = paddedDigits width m ++ rest' ↔ n = m ∧ rest = rest' := by
  have hlength : (paddedDigits width n).length = (paddedDigits width m).length := by
    rw [length_padded hwidth hn, length_padded hwidth hm]
  rw [List.append_eq_append_iff_of_size_eq_left hlength, paddedDigits_inj]

theorem toList_padded (width n : Nat) : (padded width n).toList = paddedDigits width n := rfl

theorem toDigits_eq (n : Nat) : Nat.toDigits 10 n = paddedDigits 0 n := by
  rw [paddedDigits_eq, Nat.zero_sub, List.replicate_zero, List.nil_append]

end Digits

/-! ## The time of day -/

namespace Timestamp

/-- The time of day down to the millisecond. -/
def clock (t : Timestamp) : Nat × Nat × Nat × Nat := (t.hour, t.minute, t.second, t.nano / 1000000)

theorem toList_clockStamp (t : Timestamp) :
    t.clockStamp.toList = paddedDigits 2 t.hour ++ (paddedDigits 2 t.minute ++
      (paddedDigits 2 t.second ++ paddedDigits 3 (t.nano / 1000000))) := by
  simp only [clockStamp, String.toList_append, List.append_assoc, paddedDigits]

/-- Every part of the time of day has the digits that it is padded to. -/
theorem clock_lt (t : Timestamp) : t.hour < tenTo 2 ∧ t.minute < tenTo 2 ∧ t.second < tenTo 2 ∧
    t.nano / 1000000 < tenTo 3 := by
  have hhour := t.hour_lt
  have hminute := t.minute_lt
  have hsecond := t.second_le
  refine ⟨?_, ?_, ?_, Nat.div_lt_of_lt_mul t.nano_lt⟩
  all_goals
    change _ < 100
    omega

theorem length_clockStamp (t : Timestamp) : t.clockStamp.length = 9 := by
  obtain ⟨hhour, hminute, hsecond, hmillis⟩ := t.clock_lt
  rw [← String.length_toList, toList_clockStamp]
  simp only [List.length_append, length_padded (by decide : 0 < 2) hhour,
    length_padded (by decide : 0 < 2) hminute, length_padded (by decide : 0 < 2) hsecond,
    length_padded (by decide : 0 < 3) hmillis]

/-- Nine digits tell the time of day, whatever follows them. -/
theorem clockStamp_append_inj {t t' : Timestamp} {rest rest' : List Char} :
    t.clockStamp.toList ++ rest = t'.clockStamp.toList ++ rest' ↔
      t.clock = t'.clock ∧ rest = rest' := by
  obtain ⟨hhour, hminute, hsecond, hmillis⟩ := t.clock_lt
  obtain ⟨hhour', hminute', hsecond', hmillis'⟩ := t'.clock_lt
  simp only [toList_clockStamp, List.append_assoc, clock, Prod.mk.injEq, and_assoc,
    paddedDigits_append_inj_of_lt (by decide : 0 < 2) hhour hhour',
    paddedDigits_append_inj_of_lt (by decide : 0 < 2) hminute hminute',
    paddedDigits_append_inj_of_lt (by decide : 0 < 2) hsecond hsecond',
    paddedDigits_append_inj_of_lt (by decide : 0 < 3) hmillis hmillis']

end Timestamp

namespace Capture

open Report Run

/-! ## Captures that are taken -/

/-- Nothing is asked to be kept but captures that a recorder takes. -/
def StoresTaken : Request → Prop
  | .store key _ => key.IsTaken
  | _ => True

theorem Recorder.allows_storesTaken (r : Recorder) : r.AllowsCaptures StoresTaken where
  now := trivial
  store _ _ htaken := htaken
  picture := trivial
  start := trivial
  stop := trivial

/-- An attempt keeps nothing. -/
theorem storesTaken_of_isAttempt {session : Nat} {q : Request} (h : q.IsAttempt session) :
    StoresTaken q := by
  cases q with
  | store key bytes => exact h.elim
  | _ => trivial

theorem storesTaken_steps (p : Performer) : p.AllowsSteps StoresTaken where
  execute step := (p.session.asks_execute step).mono fun _ => storesTaken_of_isAttempt
  begins _ := trivial
  again _ _ := trivial
  captures := p.recorder.allows_storesTaken

/-- Whatever happens in a scenario, all captures that it keeps are of the four forms. -/
theorem storesTaken_scenario (plan : Config.Plan) (tree : Files.Tree) (entry : Config.Entry) :
    (scenario plan tree entry).Asks StoresTaken :=
  asks_scenario trivial trivial (fun _ => trivial) fun d _ =>
    (storesTaken_steps _).asks_runAll d.steps

/-! ## The name of the scenario -/

theorem mem_collapse {c : Char} {cs : List Char} {ended : Bool} (h : c ∈ collapse ended cs) :
    isKept c = true ∨ c = '_' := by
  induction cs generalizing ended with
  | nil => exact nomatch h
  | cons d cs ih =>
    simp only [collapse] at h
    split at h
    · next hkept =>
      rcases List.mem_cons.1 h with rfl | h
      · exact .inl hkept
      · exact ih h
    · split at h
      · exact ih h
      · rcases List.mem_cons.1 h with rfl | h
        · exact .inr rfl
        · exact ih h

/-- What is left of the name of a scenario needs no quotes anywhere. -/
theorem mem_sanitizeChars {c : Char} {cs : List Char} (h : c ∈ sanitizeChars cs) :
    isKept c = true ∨ c = '_' := by
  simp only [sanitizeChars] at h
  split at h
  · have hdefault : "scenario".toList.all isKept = true := by decide
    exact .inl (List.all_eq_true.1 hdefault c h)
  · have hinner := (List.rdropWhile_prefix _ _).subset (List.mem_of_mem_take h)
    exact mem_collapse ((List.dropWhile_sublist _).subset hinner)

/-! ## What a name is made of -/

/-- Letters, digits, dashes, dots and underscores. -/
def IsSafe (name : String) : Prop := ∀ c ∈ name.toList, isKept c = true ∨ c = '_'

instance (name : String) : Decidable (IsSafe name) :=
  List.decidableBAll (fun c => isKept c = true ∨ c = '_') name.toList

theorem isSafe_append {a b : String} : IsSafe (a ++ b) ↔ IsSafe a ∧ IsSafe b := by
  rw [IsSafe, String.toList_append]
  exact List.forall_mem_append

theorem isSafe_of_digits {name : String} (h : ∀ c ∈ name.toList, c.isDigit = true) :
    IsSafe name := by
  intro c hc
  simp [isKept, Char.isAlphanum, h c hc]

theorem isSafe_padded (width n : Nat) : IsSafe (padded width n) :=
  isSafe_of_digits (isDigits_padded width n).all

theorem isSafe_repr (n : Nat) : IsSafe (Nat.repr n) :=
  isSafe_of_digits (by simpa using (isDigits_toDigits n).all)

theorem isSafe_clockStamp (t : Timestamp) : IsSafe t.clockStamp := by
  simp only [Timestamp.clockStamp, isSafe_append, isSafe_padded, and_self]

theorem isSafe_sanitize (name : String) : IsSafe (sanitize name) := by
  intro c hc
  rw [sanitize, String.toList_ofList] at hc
  exact mem_sanitizeChars hc

namespace Key

/-- Whatever is captured, its name is safe. -/
theorem isSafe_fileName (k : Key) : IsSafe k.fileName := by
  unfold fileName
  repeat' split
  -- what is left are the literals between the parts
  all_goals
    simp only [isSafe_append, isSafe_padded, isSafe_repr, isSafe_clockStamp, isSafe_sanitize,
      and_true]
    decide

/-- A name begins with what was captured. -/
theorem head?_fileName (k : Key) :
    k.fileName.toList.head? = some 's' ∨ k.fileName.toList.head? = some 't' := by
  unfold fileName
  split
  case h_1 | h_2 | h_3 => exact .inl (by simp)
  case h_4 =>
    split
    · exact .inl (by simp)
    · exact .inr (by simp)

end Key

/-! ## The parts of a name -/

/-- Where a name says when a capture was taken, and of which scenario. -/
def tailChars (moment : Timestamp) (scenario : String) (ending : List Char) : List Char :=
  '_' :: (moment.clockStamp.toList ++ '_' :: ((sanitize scenario).toList ++ ending))

theorem tailChars_inj {t t' : Timestamp} {s s' : String} {e e' : List Char}
    (h : e.length = e'.length) : tailChars t s e = tailChars t' s' e' ↔
      t.clock = t'.clock ∧ sanitize s = sanitize s' ∧ e = e' := by
  simp only [tailChars, List.cons.injEq, true_and, Timestamp.clockStamp_append_inj,
    List.append_eq_append_iff_of_size_eq_right h, String.toList_inj]

theorem suffix_tailChars (t : Timestamp) (s : String) (e : List Char) : e <:+ tailChars t s e :=
  ⟨'_' :: (t.clockStamp.toList ++ '_' :: (sanitize s).toList), by simp [tailChars]⟩

theorem stopsDigits_tailChars (t : Timestamp) (s : String) (e : List Char) :
    StopsDigits (tailChars t s e) :=
  Timestamp.stopsDigits_cons rfl _

/-- The name of a screenshot. -/
def shotChars (id attempt : Nat) (tail : List Char) : List Char :=
  "step_".toList ++ (paddedDigits 2 id ++ ("_attempt_".toList ++ (paddedDigits 0 attempt ++ tail)))

theorem suffix_shotChars (id attempt : Nat) (tail : List Char) :
    tail <:+ shotChars id attempt tail :=
  ⟨"step_".toList ++ paddedDigits 2 id ++ "_attempt_".toList ++ paddedDigits 0 attempt,
    by simp [shotChars]⟩

theorem shotChars_inj {id id' attempt attempt' : Nat} {tail tail' : List Char}
    (htail : StopsDigits tail) (htail' : StopsDigits tail') :
    shotChars id attempt tail = shotChars id' attempt' tail' ↔
      id = id' ∧ attempt = attempt' ∧ tail = tail' := by
  have hmark (rest : List Char) : StopsDigits ("_attempt_".toList ++ rest) :=
    Timestamp.stopsDigits_cons rfl _
  simp only [shotChars, List.append_right_inj, paddedDigits_append_inj (hmark _) (hmark _),
    paddedDigits_append_inj htail htail']

/-- The name of the video of a step. -/
def segmentChars (id : Nat) (tail : List Char) : List Char :=
  "step_".toList ++ (paddedDigits 2 id ++ tail)

theorem suffix_segmentChars (id : Nat) (tail : List Char) : tail <:+ segmentChars id tail :=
  ⟨"step_".toList ++ paddedDigits 2 id, by simp [segmentChars]⟩

theorem segmentChars_inj {id id' : Nat} {tail tail' : List Char}
    (htail : StopsDigits tail) (htail' : StopsDigits tail') :
    segmentChars id tail = segmentChars id' tail' ↔ id = id' ∧ tail = tail' := by
  simp only [segmentChars, List.append_right_inj, paddedDigits_append_inj htail htail']

namespace Key

section Forms

variable (scenario : String) (id attempt : Nat) (moment : Timestamp)

theorem toList_fileName_passed :
    (fileName ⟨.screenshot, .stepPassed, scenario, some id, some attempt, moment⟩).toList =
      shotChars id attempt (tailChars moment scenario "_passed.png".toList) := by
  simp [fileName, shotChars, tailChars, toList_padded, toDigits_eq]

theorem toList_fileName_failed :
    (fileName ⟨.screenshot, .stepFailed, scenario, some id, some attempt, moment⟩).toList =
      shotChars id attempt (tailChars moment scenario "_failed.png".toList) := by
  simp [fileName, shotChars, tailChars, toList_padded, toDigits_eq]

theorem toList_fileName_segment :
    (fileName ⟨.video, .stepSegment, scenario, some id, none, moment⟩).toList =
      segmentChars id (tailChars moment scenario ".gif".toList) := by
  simp [fileName, segmentChars, tailChars, toList_padded]

theorem toList_fileName_scenario :
    (fileName ⟨.video, .scenario, scenario, none, none, moment⟩).toList =
      "test".toList ++ tailChars moment scenario ".gif".toList := by
  simp [fileName, tailChars]

end Forms

/-- The last character of the name of a capture. -/
def lastChar : ArtifactKind → Char
  | .screenshot => 'g'
  | .video => 'f'

/-- Screenshots and videos have endings of their own. -/
theorem lastChar_fileName {k : Key} (h : k.IsTaken) :
    [lastChar k.kind] <:+ k.fileName.toList := by
  have hpassed : ['g'] <:+ "_passed.png".toList := by decide
  have hfailed : ['g'] <:+ "_failed.png".toList := by decide
  have hvideo : ['f'] <:+ ".gif".toList := by decide
  cases h with
  | passed =>
    rw [toList_fileName_passed]
    exact (hpassed.trans (suffix_tailChars _ _ _)).trans (suffix_shotChars _ _ _)
  | failed =>
    rw [toList_fileName_failed]
    exact (hfailed.trans (suffix_tailChars _ _ _)).trans (suffix_shotChars _ _ _)
  | segment =>
    rw [toList_fileName_segment]
    exact (hvideo.trans (suffix_tailChars _ _ _)).trans (suffix_segmentChars _ _)
  | scenario =>
    rw [toList_fileName_scenario]
    exact (hvideo.trans (suffix_tailChars _ _ _)).trans (List.suffix_append _ _)

end Key

/-! ## Labels -/

/-- What the name of its file tells of a capture. -/
structure Label where
  reason : Reason
  stepId : Option Nat
  attempt : Option Nat
  clock : Nat × Nat × Nat × Nat
  scenario : String
deriving DecidableEq, Repr

namespace Key

def label (k : Key) : Label where
  reason := k.reason
  stepId := k.stepId
  attempt := k.attempt
  clock := k.capturedAt.clock
  scenario := sanitize k.scenario

/-- Captures of one kind have the same name when their labels are the same. -/
theorem fileName_eq_iff_of_kind {k k' : Key} (h : k.IsTaken) (h' : k'.IsTaken)
    (hkind : k.kind = k'.kind) : k.fileName = k'.fileName ↔ k.label = k'.label := by
  have htail (t : Timestamp) (s : String) (e : List Char) := stopsDigits_tailChars t s e
  rw [← String.toList_inj]
  cases h with
  | passed | failed =>
    cases h' with
    | passed | failed =>
      simp [toList_fileName_passed, toList_fileName_failed,
        shotChars_inj (htail _ _ _) (htail _ _ _), tailChars_inj, label]
    | segment | scenario => cases hkind
  | segment =>
    cases h' with
    | passed | failed => cases hkind
    | segment =>
      simp [toList_fileName_segment, segmentChars_inj (htail _ _ _) (htail _ _ _), tailChars_inj,
        label]
    | scenario =>
      simp [toList_fileName_segment, toList_fileName_scenario, segmentChars, label]
  | scenario =>
    cases h' with
    | passed | failed => cases hkind
    | segment =>
      simp [toList_fileName_segment, toList_fileName_scenario, segmentChars, label]
    | scenario => simp [toList_fileName_scenario, tailChars_inj, label]

theorem lastChar_inj {kind kind' : ArtifactKind} (h : lastChar kind = lastChar kind') :
    kind = kind' := by
  cases kind <;> cases kind' <;> first | rfl | cases h

/-- The ending of a text that ends in a name tells the kind of a capture. -/
theorem kind_eq_of_suffix {k k' : Key} (h : k.IsTaken) (h' : k'.IsTaken) {cs : List Char}
    (hname : k.fileName.toList <:+ cs) (hname' : k'.fileName.toList <:+ cs) : k.kind = k'.kind := by
  have hlast : [lastChar k.kind] <:+ cs := (lastChar_fileName h).trans hname
  have hlast' : [lastChar k'.kind] <:+ cs := (lastChar_fileName h').trans hname'
  have hsame := (List.suffix_of_suffix_length_le hlast hlast' (Nat.le_refl 1)).eq_of_length rfl
  exact lastChar_inj (List.cons.inj hsame).1

/-- Its label tells it too. -/
theorem kind_eq_of_label {k k' : Key} (h : k.IsTaken) (h' : k'.IsTaken)
    (hlabel : k.label = k'.label) : k.kind = k'.kind := by
  have hreason : k.reason = k'.reason := congrArg Label.reason hlabel
  cases h <;> cases h' <;> first | rfl | cases hreason

theorem fileName_eq_iff {k k' : Key} (h : k.IsTaken) (h' : k'.IsTaken) :
    k.fileName = k'.fileName ↔ k.label = k'.label :=
  ⟨fun hname =>
      have hkind := kind_eq_of_suffix h h' List.suffix_rfl (hname ▸ List.suffix_rfl)
      (fileName_eq_iff_of_kind h h' hkind).1 hname,
    fun hlabel => (fileName_eq_iff_of_kind h h' (kind_eq_of_label h h' hlabel)).2 hlabel⟩

end Key

end Capture
end Walkthrough
