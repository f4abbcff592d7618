import Mathlib.Data.List.Cycle
import Walkthrough.Proofs.Reporting

/-!
# Walkthrough.Proofs.Collecting

What a collector answers to any history of appending and freezing. Every operation holds the lock of
the collector from its beginning to its end, so what tasks do side by side is such a history, too.

* `ordered_spec`, `ordered_congr`: the results of a report are listed by their indices, those of one
  index in the order in which they came; with one result for an index it does not matter when it
  came.
* `after_of_open`, `after_of_frozen`: what a history leaves of a collector, before the report is
  frozen and afterwards.
* `getElem?_replies`: an operation is answered by the collector that the operations before it leave.
* `replies_of_history` puts them together.
* `total_after`: every result that is accepted waits for the report or is in it.
* `size_of_history`: how many results a collector has after a history, and when it has fewer.
-/

namespace Walkthrough
namespace Report
namespace Collector

/-- What may be done to a collector. -/
inductive Operation where
  | append (index : Nat) (result : ScenarioResult)
  | freeze (cancelled : Bool) (finishedAt : Timestamp)

def Operation.isFreeze : Operation → Bool
  | .append _ _ => false
  | .freeze _ _ => true

def Operation.entry? : Operation → Option (Nat × ScenarioResult)
  | .append index result => some (index, result)
  | .freeze _ _ => none

/-- What comes back from an operation. -/
inductive Reply where
  | accepted (isIn : Bool)
  | reported (report : Report)

def perform (c : Collector) : Operation → Reply × Collector
  | .append index result => (c.append index result).map .accepted id
  | .freeze cancelled finishedAt => (c.freeze cancelled finishedAt).map .reported id

/-- What a history leaves of a collector. -/
def after (c : Collector) (history : List Operation) : Collector :=
  history.foldl (fun c o => (c.perform o).2) c

/-- The replies to a history. -/
def replies (c : Collector) : List Operation → List Reply
  | [] => []
  | o :: rest => (c.perform o).1 :: (c.perform o).2.replies rest

/-- Is the report frozen in a history? -/
def freezes (history : List Operation) : Bool := history.any Operation.isFreeze

/-- What is appended in a history. -/
def appended (history : List Operation) : List (Nat × ScenarioResult) :=
  history.filterMap Operation.entry?

/-! ## The order of results -/

/-- The results of some entries by their indices, those of one index in the order of the entries. -/
def IsOrdered (entries : List (Nat × ScenarioResult)) (results : List ScenarioResult) : Prop :=
  ∃ sorted : List (Nat × ScenarioResult), results = sorted.map (·.2) ∧
    sorted.Pairwise (fun a b => a.1 ≤ b.1) ∧
    ∀ index, sorted.filter (·.1 = index) = entries.filter (·.1 = index)

theorem ordered_spec (entries : List (Nat × ScenarioResult)) :
    IsOrdered entries (ordered entries) := by
  have horder := isOrderedBy_mergeSort Prod.fst entries
  exact ⟨_, rfl, horder.ordered, horder.ties⟩

/-- With one result for every index, it does not matter in which order they came. -/
theorem ordered_congr {entries entries' : List (Nat × ScenarioResult)}
    (hperm : entries.Perm entries') (hindices : (entries'.map Prod.fst).Nodup) :
    ordered entries = ordered entries' := by
  have hmerge := List.mergeSort_perm entries' fun a b => a.1 ≤ b.1
  refine ordered_of_perm (hperm.trans hmerge.symm) ?_
  have hne := List.pairwise_map.1 ((hmerge.map Prod.fst).nodup_iff.2 hindices)
  exact (pairwise_sorted entries').imp₂ (fun _ _ hle hne => Nat.lt_of_le_of_ne hle hne) hne

/-! ## Histories -/

section History

variable {c : Collector} {entries : List (Nat × ScenarioResult)} {history : List Operation}

/-- The collector with some entries, before the report is frozen. -/
def holding (c : Collector) (entries : List (Nat × ScenarioResult)) : Collector :=
  { c with entries := entries, frozen := none }

/-- The report that a collector makes of some entries. -/
def reportOn (c : Collector) (entries : List (Nat × ScenarioResult)) (cancelled : Bool)
    (finishedAt : Timestamp) : Report where
  runId := c.runId
  startedAt := c.startedAt
  finishedAt := finishedAt
  environmentId := c.environmentId
  scenarios := ordered entries
  summary := Summary.ofResults (ordered entries) cancelled
  cancelled := cancelled

theorem perform_append (c : Collector) (entries : List (Nat × ScenarioResult)) (index : Nat)
    (result : ScenarioResult) : (c.holding entries).perform (.append index result) =
      (.accepted true, c.holding (entries ++ [(index, result)])) := rfl

theorem perform_freeze (c : Collector) (entries : List (Nat × ScenarioResult)) (cancelled : Bool)
    (finishedAt : Timestamp) : (c.holding entries).perform (.freeze cancelled finishedAt) =
      (.reported (c.reportOn entries cancelled finishedAt),
        { c with entries := [], frozen := some (c.reportOn entries cancelled finishedAt) }) := rfl

theorem perform_frozen {r : Report} (h : c.frozen = some r) (o : Operation) :
    c.perform o = (if o.isFreeze then .reported r else .accepted false, c) := by
  cases o with
  | append index result =>
    rw [perform, append_frozen h]
    rfl
  | freeze cancelled finishedAt =>
    rw [perform, freeze_frozen h]
    rfl

theorem after_cons (c : Collector) (o : Operation) (history : List Operation) :
    c.after (o :: history) = (c.perform o).2.after history := rfl

theorem after_append (c : Collector) (xs ys : List Operation) :
    c.after (xs ++ ys) = (c.after xs).after ys := List.foldl_append

/-- Once the report is frozen, nothing changes the collector. -/
theorem after_of_frozen {r : Report} (h : c.frozen = some r) (history : List Operation) :
    c.after history = c := by
  induction history with
  | nil => rfl
  | cons o rest ih => rw [after_cons, perform_frozen h, ih]

/-- Until the report is frozen, the collector keeps what is appended. -/
theorem after_of_open (hopen : freezes history = false) :
    (c.holding entries).after history = c.holding (entries ++ appended history) := by
  induction history generalizing entries with
  | nil => exact congrArg c.holding (List.append_nil _).symm
  | cons o rest ih =>
    cases o with
    | append index result =>
      rw [after_cons, perform_append, ih hopen, List.append_assoc]
      rfl
    | freeze cancelled finishedAt => cases hopen

/-- A history in which the report is frozen leaves the report and no entries. -/
theorem exists_after_eq (c : Collector) (entries : List (Nat × ScenarioResult))
    (hfreezes : freezes history = true) :
    ∃ r, (c.holding entries).after history = { c with entries := [], frozen := some r } := by
  induction history generalizing entries with
  | nil => cases hfreezes
  | cons o rest ih =>
    cases o with
    | append index result => exact ih _ hfreezes
    | freeze cancelled finishedAt =>
      rw [after_cons, perform_freeze, after_of_frozen rfl]
      exact ⟨_, rfl⟩

/-- An operation is answered by the collector that the operations before it leave. -/
theorem getElem?_replies (c : Collector) (history : List Operation) (k : Nat) :
    (c.replies history)[k]? =
      history[k]?.map fun o => ((c.after (history.take k)).perform o).1 := by
  induction history generalizing c k with
  | nil => rfl
  | cons o rest ih =>
    cases k with
    | zero => rfl
    | succ k => exact ih (c.perform o).2 k

/-- The first time that the report is asked for. -/
def IsFirstFreeze (history : List Operation) (k : Nat) (cancelled : Bool) (finishedAt : Timestamp) :
    Prop :=
  history[k]? = some (.freeze cancelled finishedAt) ∧ freezes (history.take k) = false

section First

variable {k : Nat} {cancelled : Bool} {finishedAt : Timestamp}

/-- The first time, the report is made of all that was appended before. -/
theorem replies_first (c : Collector) (entries : List (Nat × ScenarioResult))
    (hfirst : IsFirstFreeze history k cancelled finishedAt) :
    ((c.holding entries).replies history)[k]? = some (.reported
      (c.reportOn (entries ++ appended (history.take k)) cancelled finishedAt)) := by
  obtain ⟨hget, hopen⟩ := hfirst
  rw [getElem?_replies, hget, Option.map_some, after_of_open hopen, perform_freeze]

/-- From the first time on, the collector keeps that report. -/
theorem frozen_after (hfirst : IsFirstFreeze history k cancelled finishedAt) {j : Nat}
    (hlt : k < j) : ((c.holding entries).after (history.take j)).frozen =
      some (c.reportOn (entries ++ appended (history.take k)) cancelled finishedAt) := by
  obtain ⟨hget, hopen⟩ := hfirst
  obtain ⟨hk, hget⟩ := List.getElem?_eq_some_iff.1 hget
  -- What is done up to the later moment begins with what is done up to the first freeze.
  have hsplit : history.take j = history.take (k + 1) ++ (history.take j).drop (k + 1) := by
    conv_lhs => rw [← List.take_append_drop (k + 1) (history.take j)]
    rw [List.take_take, Nat.min_eq_left hlt]
  rw [hsplit, ← List.take_append_getElem hk, hget, after_append, after_append, after_of_open hopen,
    after_cons, perform_freeze]
  exact congrArg frozen (after_of_frozen rfl _)

end First

end History

/-! ## Replies -/

/-- The report lists some entries and sums them up. -/
structure IsReportOf (c : Collector) (entries : List (Nat × ScenarioResult)) (cancelled : Bool)
    (finishedAt : Timestamp) (r : Report) : Prop where
  runId : r.runId = c.runId
  environmentId : r.environmentId = c.environmentId
  startedAt : r.startedAt = c.startedAt
  finishedAt : r.finishedAt = finishedAt
  scenarios : IsOrdered entries r.scenarios
  summary : r.summary = Summary.ofResults r.scenarios cancelled
  isCancelled : r.cancelled = cancelled

/-- How a history is answered. -/
structure Answers (c : Collector) (history : List Operation) : Prop where
  /-- Results are accepted until the report is frozen. -/
  accepted : ∀ k index result, history[k]? = some (Operation.append index result) →
    (c.replies history)[k]? = some (Reply.accepted !freezes (history.take k))
  /-- The first time, the report is made of all that was accepted; from then on it is the same. -/
  reported : ∀ k cancelled finishedAt, IsFirstFreeze history k cancelled finishedAt →
    ∃ r, IsReportOf c (appended (history.take k)) cancelled finishedAt r ∧
      ∀ j cancelled' finishedAt', k ≤ j →
        history[j]? = some (Operation.freeze cancelled' finishedAt') →
          (c.replies history)[j]? = some (Reply.reported r)

theorem answers_of_holding (c : Collector) (history : List Operation) :
    Answers (c.holding []) history := by
  refine ⟨fun k index result hget => ?_, fun k cancelled finishedAt hfirst => ?_⟩
  · rw [getElem?_replies, hget, Option.map_some]
    cases hfreezes : freezes (history.take k) with
    | false =>
      rw [after_of_open hfreezes, perform_append]
      rfl
    | true =>
      obtain ⟨r, hr⟩ := exists_after_eq c [] hfreezes
      rw [hr, perform_frozen rfl]
      rfl
  · refine ⟨c.reportOn (appended (history.take k)) cancelled finishedAt,
      ⟨rfl, rfl, rfl, rfl, ordered_spec _, rfl, rfl⟩, ?_⟩
    intro j cancelled' finishedAt' hle hget
    rcases Nat.eq_or_lt_of_le hle with rfl | hlt
    · exact replies_first c [] hfirst
    · rw [getElem?_replies, hget, Option.map_some, perform_frozen (frozen_after hfirst hlt)]
      rfl

/-- In any history of a new collector all results before the report is frozen are accepted and none
afterwards. The report lists them by their indices, and does not change once it is frozen. With one
result for every index it depends, but for its moments, on which results there were and on nothing
else of the history. -/
theorem replies_of_history (runId environmentId : String) (startedAt : Timestamp)
    (history : List Operation) :
    Answers (new runId environmentId startedAt) history ∧
      ∀ startedAt' history' k k' cancelled finishedAt finishedAt',
        IsFirstFreeze history k cancelled finishedAt →
        IsFirstFreeze history' k' cancelled finishedAt' →
        ((appended (history.take k)).map Prod.fst).Nodup →
        ((appended (history'.take k')).map Prod.fst).Nodup →
        (∀ entry, entry ∈ appended (history.take k) ↔ entry ∈ appended (history'.take k')) →
        ∃ r, ((new runId environmentId startedAt).replies history)[k]? = some (.reported r) ∧
          ((new runId environmentId startedAt').replies history')[k']? =
            some (.reported { r with startedAt := startedAt', finishedAt := finishedAt' }) := by
  refine ⟨answers_of_holding (new runId environmentId startedAt) history, ?_⟩
  intro startedAt' history' k k' cancelled finishedAt finishedAt' hfirst hfirst' hindices hindices'
    hsame
  have hperm := (List.perm_ext_iff_of_nodup hindices.of_map hindices'.of_map).2 hsame
  have hreply' := replies_first (new runId environmentId startedAt') [] hfirst'
  rw [reportOn, List.nil_append, ← ordered_congr hperm hindices'] at hreply'
  exact ⟨_, replies_first (new runId environmentId startedAt) [] hfirst, hreply'⟩

/-! ## Sizes -/

/-- Was a result accepted? -/
def Reply.isAccepted : Reply → Bool
  | .accepted isIn => isIn
  | .reported _ => false

/-- How many results were accepted. -/
def acceptedIn (replies : List Reply) : Nat := replies.countP Reply.isAccepted

/-- How many results the frozen report lists. -/
def listed (c : Collector) : Nat := c.frozen.elim 0 fun r => r.scenarios.length

section Sizes

variable {history : List Operation}

theorem length_ordered (entries : List (Nat × ScenarioResult)) :
    (ordered entries).length = entries.length := by
  rw [ordered, List.length_map, List.length_mergeSort]

/-- A result that is accepted waits for the report, and the report takes all that wait for it. -/
theorem total_perform (c : Collector) (o : Operation) :
    (c.perform o).2.size + (c.perform o).2.listed =
      c.size + c.listed + acceptedIn [(c.perform o).1] := by
  cases hfrozen : c.frozen with
  | some r =>
    rw [perform_frozen hfrozen]
    cases o <;> rfl
  | none =>
    cases o with
    | append index result =>
      have happend : c.append index result =
          (true, { c with entries := c.entries ++ [(index, result)] }) := by
        simp [append, hfrozen]
      simp [perform, happend, size, listed, hfrozen, acceptedIn, Reply.isAccepted]
    | freeze cancelled finishedAt =>
      simp [perform, freeze, size, listed, hfrozen, acceptedIn, Reply.isAccepted, length_ordered]

theorem total_after (c : Collector) (history : List Operation) :
    (c.after history).size + (c.after history).listed =
      c.size + c.listed + acceptedIn (c.replies history) := by
  induction history generalizing c with
  | nil => rfl
  | cons o rest ih =>
    have hreplies : acceptedIn (c.replies (o :: rest)) =
        acceptedIn [(c.perform o).1] + acceptedIn ((c.perform o).2.replies rest) := by
      rw [replies, ← List.singleton_append]
      exact List.countP_append
    rw [after_cons, ih, total_perform, hreplies, Nat.add_assoc]

/-- An operation takes something off the size when it freezes the report and something waits. -/
theorem size_perform_lt_iff (c : Collector) (o : Operation) :
    (c.perform o).2.size < c.size ↔ c.frozen = none ∧ o.isFreeze = true ∧ c.size ≠ 0 := by
  cases hfrozen : c.frozen with
  | some r => simp [perform_frozen hfrozen]
  | none =>
    cases o with
    | append index result => simp [perform, append, hfrozen, size, Operation.isFreeze]
    | freeze cancelled finishedAt =>
      simp [perform, freeze, hfrozen, size, Operation.isFreeze, List.length_pos_iff]

theorem frozen_after_eq_none_iff (c : Collector) (entries : List (Nat × ScenarioResult))
    (history : List Operation) :
    ((c.holding entries).after history).frozen = none ↔ freezes history = false := by
  cases hfreezes : freezes history with
  | false => exact iff_of_true (congrArg frozen (after_of_open hfreezes)) rfl
  | true =>
    obtain ⟨r, hr⟩ := exists_after_eq c entries hfreezes
    simp [hr]

theorem exists_isFirstFreeze_iff (history : List Operation) (k : Nat) :
    (∃ cancelled finishedAt, IsFirstFreeze history k cancelled finishedAt) ↔
      ∃ o, history[k]? = some o ∧ o.isFreeze = true ∧ freezes (history.take k) = false := by
  constructor
  · rintro ⟨cancelled, finishedAt, hget, hopen⟩
    exact ⟨_, hget, rfl, hopen⟩
  · rintro ⟨o, hget, hfreeze, hopen⟩
    cases o with
    | append index result => cases hfreeze
    | freeze cancelled finishedAt => exact ⟨cancelled, finishedAt, hget, hopen⟩

/-- How many results a collector has after a history. -/
structure IsCounted (c : Collector) (history : List Operation) : Prop where
  /-- Until the report is frozen, all that were accepted wait for it. -/
  waiting : freezes history = false → (c.after history).size = acceptedIn (c.replies history)
  /-- From then on none waits, and the report lists them all. -/
  reported : freezes history = true → (c.after history).size = 0 ∧
    ∃ r, (c.after history).frozen = some r ∧ r.scenarios.length = acceptedIn (c.replies history)
  isEmpty_iff : (c.after history).isEmpty = true ↔
    freezes history = true ∨ acceptedIn (c.replies history) = 0
  /-- The size goes down when a report that lists something is frozen, and at no other time. -/
  less_iff : ∀ k, (c.after (history.take (k + 1))).size < (c.after (history.take k)).size ↔
    (∃ cancelled finishedAt, IsFirstFreeze history k cancelled finishedAt) ∧
      acceptedIn (c.replies (history.take k)) ≠ 0

theorem total_of_holding (c : Collector) (history : List Operation) :
    ((c.holding []).after history).size + ((c.holding []).after history).listed =
      acceptedIn ((c.holding []).replies history) := by
  rw [total_after]
  exact Nat.zero_add _

theorem size_of_open (c : Collector) (hopen : freezes history = false) :
    ((c.holding []).after history).size = acceptedIn ((c.holding []).replies history) := by
  have hlisted : ((c.holding []).after history).listed = 0 := by
    rw [listed, (frozen_after_eq_none_iff c [] history).2 hopen, Option.elim_none]
  rw [← total_of_holding, hlisted, Nat.add_zero]

/-- The report lists what was accepted, and nothing is left to wait. -/
theorem size_of_frozen (c : Collector) (hfreezes : freezes history = true) :
    ((c.holding []).after history).size = 0 ∧
      ∃ r, ((c.holding []).after history).frozen = some r ∧
        r.scenarios.length = acceptedIn ((c.holding []).replies history) := by
  have htotal := total_of_holding c history
  obtain ⟨r, hr⟩ := exists_after_eq c [] hfreezes
  rw [hr] at htotal ⊢
  exact ⟨rfl, r, rfl, (Nat.zero_add _).symm.trans htotal⟩

theorem size_take_lt_iff (c : Collector) (history : List Operation) (k : Nat) :
    ((c.holding []).after (history.take (k + 1))).size <
        ((c.holding []).after (history.take k)).size ↔
      (∃ cancelled finishedAt, IsFirstFreeze history k cancelled finishedAt) ∧
        acceptedIn ((c.holding []).replies (history.take k)) ≠ 0 := by
  rw [exists_isFirstFreeze_iff, List.take_add_one, after_append]
  cases hget : history[k]? with
  | none => simp [after]
  | some o =>
    have hlast : ((c.holding []).after (history.take k)).after (some o).toList =
        (((c.holding []).after (history.take k)).perform o).2 := rfl
    rw [hlast, size_perform_lt_iff, frozen_after_eq_none_iff]
    -- While the report is open, what waits and what was accepted are the same number.
    constructor
    · rintro ⟨hopen, hfreeze, hsize⟩
      exact ⟨⟨o, rfl, hfreeze, hopen⟩, size_of_open c hopen ▸ hsize⟩
    · rintro ⟨⟨_, ⟨⟩, hfreeze, hopen⟩, haccepted⟩
      exact ⟨hopen, hfreeze, (size_of_open c hopen).symm ▸ haccepted⟩

theorem isCounted_of_holding (c : Collector) (history : List Operation) :
    IsCounted (c.holding []) history := by
  refine ⟨size_of_open c, size_of_frozen c, ?_, size_take_lt_iff c history⟩
  rw [isEmpty, decide_eq_true_eq]
  cases hfreezes : freezes history with
  | false => simp [size_of_open c hfreezes]
  | true => simp [(size_of_frozen c hfreezes).1]

end Sizes

/-- In any history of a new collector its size is the number of results that were accepted, for as
long as the report is not frozen. That takes them all off the size: the report lists as many results
as were accepted, and the collector is empty from then on. Nothing else makes the size less. -/
theorem size_of_history (runId environmentId : String) (startedAt : Timestamp)
    (history : List Operation) : IsCounted (new runId environmentId startedAt) history :=
  isCounted_of_holding (new runId environmentId startedAt) history

/-- A result is accepted and the report that lists it is frozen, and then the collector has none. -/
theorem emptied_by_freeze :
    let result : ScenarioResult := ⟨"A", "a.json", .passed, [], 12, [], none, default⟩
    let history : List Operation := [.append 0 result, .freeze false default]
    let c := new "1" "dev" default
    acceptedIn (c.replies history) = 1 ∧ (c.after (history.take 1)).size = 1 ∧
      (c.after history).size = 0 ∧ (c.after history).isEmpty = true ∧
      ∃ r, (c.after history).frozen = some r ∧ r.scenarios = [result] := by
  intro result history c
  have hordered : ordered [(0, result)] = [result] := by simp [ordered]
  exact ⟨rfl, rfl, rfl, rfl, c.reportOn [(0, result)] false default, rfl, hordered⟩

end Collector
end Report
end Walkthrough
