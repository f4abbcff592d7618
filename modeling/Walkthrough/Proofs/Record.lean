import Walkthrough.Proofs.Requests

/-!
# Walkthrough.Proofs.Record

How the record of a run is read. Its notes stand the latest first; what happened for one scenario is
read from the first to the last.

* `IsLawful`: what may still be noted once the run is cancelled, and that the sessions that are
  asked for have increasing numbers.
* `Recounts`: the events that a course leaves in the record.
-/

namespace Walkthrough
namespace Run

open Browser

/-! ## Notes -/

/-- What happened for the scenario at a place, if the note is of it. -/
def Note.eventAt? (place : Nat) : Note → Option Event
  | .event _ p e => if p = place then some e else none
  | .cancelled _ => none

/-- What happened for the scenario at a place, in order. -/
def eventsAt (place : Nat) (notes : List Note) : List Event :=
  (notes.filterMap (Note.eventAt? place)).reverse

section EventsAt

variable {place p m : Nat} {e : Event} {notes earlier later : List Note}

@[simp] theorem eventsAt_nil : eventsAt place [] = [] := rfl

@[simp] theorem eventsAt_cancelled :
    eventsAt place (.cancelled m :: notes) = eventsAt place notes := rfl

@[simp] theorem eventsAt_event_self :
    eventsAt place (.event m place e :: notes) = eventsAt place notes ++ [e] := by
  simp [eventsAt, Note.eventAt?]

theorem eventsAt_event_of_ne (h : p ≠ place) :
    eventsAt place (.event m p e :: notes) = eventsAt place notes := by
  simp [eventsAt, Note.eventAt?, h]

theorem eventsAt_append :
    eventsAt place (later ++ earlier) = eventsAt place earlier ++ eventsAt place later := by
  simp [eventsAt]

theorem mem_eventsAt : e ∈ eventsAt place notes ↔ ∃ m, .event m place e ∈ notes := by
  simp only [eventsAt, List.mem_reverse, List.mem_filterMap]
  constructor
  · rintro ⟨n, hn, hat⟩
    cases n with
    | event m p e' =>
      simp only [Note.eventAt?, Option.ite_none_right_eq_some, Option.some.injEq] at hat
      obtain ⟨rfl, rfl⟩ := hat
      exact ⟨m, hn⟩
    | cancelled m => cases hat
  · rintro ⟨m, hm⟩
    exact ⟨_, hm, by simp [Note.eventAt?]⟩

end EventsAt

/-- The run was cancelled from the start or has been cancelled since. -/
def Stopped (start : Bool) (notes : List Note) : Prop :=
  start = true ∨ ∃ m, Note.cancelled m ∈ notes

/-- The run has just been cancelled, while a session was being opened. -/
def IsCutOff (moment place session : Nat) (earlier : List Note) : Prop :=
  ∃ rest, earlier = .cancelled moment :: .event moment place (.opening session) :: rest

/-- What may be noted after earlier notes. Once the run is cancelled nothing goes ahead, no session
is asked for, and the only calls are captures and the ends of sessions; a session that comes
nevertheless comes at once. -/
def Note.Follows (start : Bool) (earlier : List Note) : Note → Prop
  | .cancelled _ => ¬ Stopped start earlier
  | .event _ _ (.started _) => ¬ Stopped start earlier
  | .event _ _ (.opening session) =>
    ¬ Stopped start earlier ∧ ∀ m p s, .event m p (.opening s) ∈ earlier → s < session
  | .event moment place (.opened session) =>
    Stopped start earlier → IsCutOff moment place session earlier
  | .event moment place (.refused session) =>
    Stopped start earlier → IsCutOff moment place session earlier
  | .event _ _ (.called _ c) => Stopped start earlier → c.mayComeLate = true
  | .event _ _ (.abandoned _) => True
  | .event _ _ (.ended _ _) => True
  | .event _ _ (.stored _ _ _) => True

/-- Every note follows the ones before it. -/
def IsLawful (start : Bool) : List Note → Prop
  | [] => True
  | n :: earlier => n.Follows start earlier ∧ IsLawful start earlier

theorem IsLawful.follows {start : Bool} {n : Note} {later earlier : List Note}
    (h : IsLawful start (later ++ n :: earlier)) : n.Follows start earlier := by
  induction later with
  | nil => exact h.1
  | cons _ _ ih => exact ih h.2

/-- No session is asked for twice. -/
theorem IsLawful.opening_inj {start : Bool} {notes : List Note} (h : IsLawful start notes)
    {m m' p p' s : Nat} (hm : .event m p (.opening s) ∈ notes)
    (hm' : .event m' p' (.opening s) ∈ notes) : p = p' := by
  induction notes with
  | nil => cases hm
  | cons n earlier ih =>
    rcases List.mem_cons.1 hm with rfl | hold <;> rcases List.mem_cons.1 hm' with hnew | hold'
    · cases hnew
      rfl
    · exact absurd (h.1.2 _ _ _ hold') (Nat.lt_irrefl s)
    · subst hnew
      exact absurd (h.1.2 _ _ _ hold) (Nat.lt_irrefl s)
    · exact ih h.2 hold hold'

/-! ## Exchanges -/

/-- The events that an exchange leaves in the record. -/
inductive Exchange.Leaves : Exchange → List Event → Prop where
  | ahead (next : Undertaking) : Leaves ⟨.token next, false⟩ [.started next]
  | halt (next : Undertaking) : Leaves ⟨.token next, true⟩ []
  | now (moment : Moment) : Leaves ⟨.now, moment⟩ []
  | permit (a : Answer .permit) : Leaves ⟨.permit, a⟩ []
  /-- The run was cancelled before the session was asked for. -/
  | unasked : Leaves ⟨.openSession, none⟩ []
  | abandoned (s : Nat) : Leaves ⟨.openSession, none⟩ [.opening s, .abandoned s]
  | refused (s : Nat) (f : Browser.Fault) :
      Leaves ⟨.openSession, some (.error f)⟩ [.opening s, .refused s]
  | opened (s : Nat) : Leaves ⟨.openSession, some (.ok s)⟩ [.opening s, .opened s]
  /-- The run was cancelled before the call was made. -/
  | uncalled (s : Nat) (c : Call) (limit : Duration) (spent : Nat) :
      Leaves ⟨.call s c limit, (.cancelled, spent)⟩ []
  | called (s : Nat) (c : Call) (limit : Duration) (a : Answer (.call s c limit)) :
      Leaves ⟨.call s c limit, a⟩ [.called s c, .ended s c]
  | shielded (s : Nat) (c : Call) (limit : Duration) (a : Answer (.shielded s c limit)) :
      Leaves ⟨.shielded s c limit, a⟩ [.called s c, .ended s c]
  | rest (span : Duration) (a : Answer (.rest span)) : Leaves ⟨.rest span, a⟩ []
  | stored (key : Capture.Key) (bytes : ByteArray) (path? : Option String) :
      Leaves ⟨.store key bytes, path?⟩ [.stored key bytes path?]

namespace Exchange.Leaves

variable {x : Exchange} {es : List Event} {s : Nat} {c : Call}

/-- A session that was asked for came, was refused, or was waited for in vain. -/
theorem opening (h : x.Leaves es) (hs : .opening s ∈ es) :
    (x = ⟨.openSession, none⟩ ∧ .abandoned s ∈ es) ∨
      (∃ f, x = ⟨.openSession, some (.error f)⟩ ∧ .refused s ∈ es) ∨
      x = ⟨.openSession, some (.ok s)⟩ ∧ .opened s ∈ es := by
  cases h <;> simp at hs
  case abandoned t =>
    subst hs
    exact .inl ⟨rfl, by simp⟩
  case refused t f =>
    subst hs
    exact .inr (.inl ⟨f, rfl, by simp⟩)
  case opened t =>
    subst hs
    exact .inr (.inr ⟨rfl, by simp⟩)

theorem of_opened (h : x.Leaves es) (hs : .opened s ∈ es) : x = ⟨.openSession, some (.ok s)⟩ := by
  cases h <;> simp at hs
  subst hs
  rfl

theorem of_stored {key : Capture.Key} {bytes : ByteArray} {path? : Option String} (h : x.Leaves es)
    (hs : .stored key bytes path? ∈ es) : x = ⟨.store key bytes, path?⟩ := by
  cases h <;> simp at hs
  obtain ⟨rfl, rfl, rfl⟩ := hs
  rfl

end Exchange.Leaves

/-- The events that a course leaves in the record, in order. -/
inductive Recounts : List Exchange → List Event → Prop where
  | nil : Recounts [] []
  | cons {x : Exchange} {xs : List Exchange} {es fs : List Event} :
      x.Leaves es → Recounts xs fs → Recounts (x :: xs) (es ++ fs)

namespace Recounts

variable {x : Exchange} {xs ys : List Exchange} {es fs : List Event} {e : Event}

theorem single (h : x.Leaves es) : Recounts [x] es := by
  simpa using Recounts.cons h .nil

theorem append (h : Recounts xs es) (g : Recounts ys fs) : Recounts (xs ++ ys) (es ++ fs) := by
  induction h with
  | nil => exact g
  | cons hx _ ih =>
    rw [List.cons_append, List.append_assoc]
    exact .cons hx ih

theorem nil_iff : Recounts [] es ↔ es = [] := by
  constructor
  · intro h
    cases h
    rfl
  · rintro rfl
    exact .nil

theorem cons_iff : Recounts (x :: xs) es ↔ ∃ es₁ es₂, x.Leaves es₁ ∧ Recounts xs es₂ ∧
    es = es₁ ++ es₂ := by
  constructor
  · intro h
    cases h with
    | cons hx hxs => exact ⟨_, _, hx, hxs, rfl⟩
  · rintro ⟨es₁, es₂, hx, hxs, rfl⟩
    exact .cons hx hxs

theorem now_cons_iff {moment : Moment} :
    Recounts (⟨.now, moment⟩ :: xs) es ↔ Recounts xs es := by
  rw [cons_iff]
  constructor
  · rintro ⟨es₁, es₂, hx, hxs, rfl⟩
    cases hx
    exact hxs
  · intro h
    exact ⟨[], es, .now moment, h, rfl⟩

theorem append_iff : Recounts (xs ++ ys) es ↔ ∃ es₁ es₂, Recounts xs es₁ ∧ Recounts ys es₂ ∧
    es = es₁ ++ es₂ := by
  constructor
  · intro h
    induction xs generalizing es with
    | nil => exact ⟨[], es, .nil, h, rfl⟩
    | cons x xs ih =>
      obtain ⟨es₁, es₂, hx, hxs, rfl⟩ := cons_iff.1 h
      obtain ⟨fs₁, fs₂, hxs₁, hys, rfl⟩ := ih hxs
      exact ⟨es₁ ++ fs₁, fs₂, .cons hx hxs₁, hys, (List.append_assoc _ _ _).symm⟩
  · rintro ⟨es₁, es₂, hxs, hys, rfl⟩
    exact hxs.append hys

/-- Every event is of an exchange, whose other events are there, too. -/
theorem exists_of_mem (h : Recounts xs es) (he : e ∈ es) :
    ∃ x ∈ xs, ∃ fs, x.Leaves fs ∧ e ∈ fs ∧ fs ⊆ es := by
  induction h with
  | nil => cases he
  | cons hx _ ih =>
    rcases List.mem_append.1 he with he | he
    · exact ⟨_, List.mem_cons_self, _, hx, he, List.subset_append_left _ _⟩
    · obtain ⟨y, hy, fs, hleaves, hmem, hsub⟩ := ih he
      exact ⟨y, List.mem_cons_of_mem _ hy, fs, hleaves, hmem,
        List.subset_append_of_subset_right _ hsub⟩

end Recounts

end Run
end Walkthrough
