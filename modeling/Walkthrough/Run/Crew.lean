import Walkthrough.Run.World

/-!
# Walkthrough.Run.Crew

Several programs side by side in one world, of which only so many may work at the same time. Each
stands in a slot; a schedule chooses which slot goes on next.

The clock is that of a single program: it never runs past a moment at which somebody may go on. So
a schedule chooses among the slots that go on first, in whatever order. How long an answer takes is
up to the world.

* `Crew.move` lets one slot ask its next request, or have the answer to the last one.
* `Crew.due` are the slots that go on first, and `endAt_le_of_pick` says that one of them goes on.
* `Crew.run` moves until nothing can; it ends because every move leaves less of a program
  (`Shrinks`) or fewer programs that are about to ask.
* `Crew.earliest` is the schedule under which nobody who is about to ask waits.
-/

namespace Walkthrough
namespace Run

/-- A list of programs of which one has gone on. -/
inductive Shrinks {α : Type} : List (Program α) → List (Program α) → Prop where
  | head {p q : Program α} (rest : List (Program α)) :
      p.Below q → Shrinks (p :: rest) (q :: rest)
  | tail (p : Program α) {ps qs : List (Program α)} : Shrinks ps qs → Shrinks (p :: ps) (p :: qs)

theorem acc_shrinks_cons {α : Type} {p : Program α} (hp : Acc Program.Below p)
    {ps : List (Program α)} (hps : Acc Shrinks ps) : Acc Shrinks (p :: ps) := by
  induction hp generalizing ps with
  | intro p _ ihp =>
    induction hps with
    | intro ps hps ihps =>
      refine ⟨_, fun qs h => ?_⟩
      cases h with
      | head _ h => exact ihp _ h ⟨_, hps⟩
      | tail _ h => exact ihps _ h

theorem shrinks_wf {α : Type} : WellFounded (Shrinks (α := α)) := by
  constructor
  intro ps
  induction ps with
  | nil => exact ⟨_, fun _ h => nomatch h⟩
  | cons p ps ih => exact acc_shrinks_cons (Program.below_wf.apply p) ih

theorem shrinks_set {α : Type} {p q : Program α} (h : p.Below q) :
    ∀ {ps : List (Program α)} {i : Nat}, ps[i]? = some q → Shrinks (ps.set i p) ps
  | _ :: rest, 0, hi => by
    obtain rfl := Option.some.inj hi
    exact .head rest h
  | _ :: _, _ + 1, hi => .tail _ (shrinks_set h hi)

/-- Where a program stands; `working` says that it has a place among the workers. -/
inductive Slot (α : Type) where
  /-- It is about to ask. -/
  | asking (working : Bool) (r : Request) (k : Answer r → Program α)
  /-- It waits for an answer. -/
  | flying (working : Bool) (r : Request) (flight : Flight r) (k : Answer r → Program α)
  | done (a : α)

namespace Slot

variable {α : Type}

/-- The slot of a program that goes on. -/
def ofProgram (working : Bool) : Program α → Slot α
  | .pure a => .done a
  | .perform r k => .asking working r k

/-- What is left of the program. -/
def rest : Slot α → Program α
  | .asking _ r k => .perform r k
  | .flying _ r _ k => .perform r k
  | .done a => .pure a

def isWorking : Slot α → Bool
  | .asking working _ _ => working
  | .flying working _ _ _ => working
  | .done _ => false

def isAsking : Slot α → Bool
  | .asking _ _ _ => true
  | _ => false

def value? : Slot α → Option α
  | .done a => some a
  | _ => none

@[simp] theorem rest_ofProgram (working : Bool) (p : Program α) : (ofProgram working p).rest = p := by
  cases p <;> rfl

end Slot

/-- Does the flight wait for a place among the workers? -/
def Flight.isQueued {r : Request} (f : Flight r) : Bool :=
  match f.landing with
  | .placed => true
  | _ => false

/-- The moment at which a flight ends if nothing else happens before. -/
def Flight.endAt {σ : Type} {r : Request} (f : Flight r) (st : State σ) : Nat :=
  match f.cutShort, f.cutAt? st with
  | some _, some c => c
  | _, _ => max f.due st.now

/-- Programs side by side. -/
structure Crew (σ α : Type) where
  /-- How many may work at the same time. -/
  workers : Nat
  slots : List (Slot α)
  state : State σ
  /-- The values of the programs that are done, in the order in which they were done, with their
  places in the list. -/
  finished : List (Nat × α)

namespace Crew

variable {σ α : Type}

/-- What is left of every program. -/
def rests (c : Crew σ α) : List (Program α) := c.slots.map Slot.rest

/-- How many programs are about to ask. -/
def askers (c : Crew σ α) : Nat := c.slots.countP Slot.isAsking

/-- Is there a place for another worker? -/
def hasPlace (c : Crew σ α) : Bool := c.slots.countP Slot.isWorking < c.workers

/-- May the slot go on? -/
def mayMove (c : Crew σ α) : Slot α → Bool
  | .asking _ _ _ => true
  | .flying _ _ f _ => !f.isQueued || c.hasPlace
  | .done _ => false

/-- The numbers of the slots that may go on. -/
def enabled (c : Crew σ α) : List Nat :=
  c.slots.zipIdx.filterMap fun s => if c.mayMove s.1 then some s.2 else none

/-- The state in which the program of a slot goes on. -/
def stateOf (c : Crew σ α) (i : Nat) : State σ := { c.state with place := i }

/-- Put a slot into its place, and note the value of one that is done. -/
def put (c : Crew σ α) (i : Nat) (slot : Slot α) (st : State σ) : Crew σ α :=
  { c with
    slots := c.slots.set i slot
    state := st
    finished := c.finished ++ (slot.value?.map fun a => (i, a)).toList }

/-- Let a slot go on: ask its next request, or wait for the answer to the last one. -/
def move (w : World σ) (c : Crew σ α) (i : Nat) : Crew σ α :=
  match c.slots[i]? with
  | some (.asking working r k) =>
    match begin w (c.stateOf i) r with
    | (.done a, st) => c.put i (.ofProgram working (k a)) st
    | (.flying f, st) => c.put i (.flying working r f k) st
  | some (.flying working _ f k) =>
    let (a, st) := finish w (c.stateOf i) f
    c.put i (.ofProgram (working || f.isQueued) (k a)) st
  | _ => c

/-- The moment at which a slot goes on. -/
def endAt (c : Crew σ α) (i : Nat) : Nat :=
  match c.slots[i]? with
  | some (.flying _ _ f _) => f.endAt c.state
  | _ => c.state.now

/-- Of some slots the one that goes on first, and of two the first. -/
def firstOf (c : Crew σ α) : List Nat → Nat
  | [] => 0
  | [i] => i
  | i :: j :: rest =>
    let k := c.firstOf (j :: rest)
    if c.endAt i ≤ c.endAt k then i else k

theorem firstOf_mem {c : Crew σ α} {l : List Nat} (hl : l ≠ []) : c.firstOf l ∈ l := by
  fun_induction firstOf c l with
  | case1 => exact absurd rfl hl
  | case2 i => exact List.mem_singleton_self i
  | case3 => exact List.mem_cons_self
  | case4 i j rest k hle ih => exact List.mem_cons_of_mem _ (ih nofun)

theorem firstOf_le {c : Crew σ α} {l : List Nat} {j : Nat} (hj : j ∈ l) :
    c.endAt (c.firstOf l) ≤ c.endAt j := by
  fun_induction firstOf c l with
  | case1 => cases hj
  | case2 i => exact Nat.le_of_eq (congrArg c.endAt (List.mem_singleton.1 hj).symm)
  | case3 i k rest first hle ih =>
    rcases List.mem_cons.1 hj with rfl | hj
    · exact Nat.le_refl _
    · exact Nat.le_trans hle (ih hj)
  | case4 i k rest first hle ih =>
    rcases List.mem_cons.1 hj with rfl | hj
    · exact Nat.le_of_lt (Nat.lt_of_not_le hle)
    · exact ih hj

/-- The numbers of the slots that go on first: of those that may go on, none goes on earlier. -/
def due (c : Crew σ α) : List Nat :=
  let first := c.endAt (c.firstOf c.enabled)
  c.enabled.filter fun i => c.endAt i ≤ first

theorem mem_due_iff {c : Crew σ α} {i : Nat} :
    i ∈ c.due ↔ i ∈ c.enabled ∧ ∀ j ∈ c.enabled, c.endAt i ≤ c.endAt j := by
  simp only [due, List.mem_filter, decide_eq_true_eq, and_congr_right_iff]
  exact fun hi => ⟨fun hle j hj => Nat.le_trans hle (firstOf_le hj),
    fun hall => hall _ (firstOf_mem (List.ne_nil_of_mem hi))⟩

/-- As long as somebody may go on, somebody goes on first. -/
theorem due_eq_nil_iff {c : Crew σ α} : c.due = [] ↔ c.enabled = [] := by
  constructor
  · intro h
    cases henabled : c.enabled with
    | nil => rfl
    | cons i rest =>
      have hne : c.enabled ≠ [] := by simp [henabled]
      have hfirst : c.firstOf c.enabled ∈ c.due :=
        mem_due_iff.2 ⟨firstOf_mem hne, fun _ => firstOf_le⟩
      rw [h] at hfirst
      cases hfirst
  · intro h
    simp [due, h]

/-- A choice among the slots that go on first. -/
abbrev Schedule (σ α : Type) : Type := Crew σ α → Nat

/-- The slot that goes on: the one that the schedule chooses, if it is among the first. -/
def pick (schedule : Schedule σ α) (c : Crew σ α) : Option Nat :=
  if schedule c ∈ c.due then some (schedule c) else c.due.head?

theorem pick_mem_due {schedule : Schedule σ α} {c : Crew σ α} {i : Nat}
    (h : c.pick schedule = some i) : i ∈ c.due := by
  unfold pick at h
  split at h
  · next hs => exact Option.some.inj h ▸ hs
  · exact List.mem_of_mem_head? h

theorem pick_mem {schedule : Schedule σ α} {c : Crew σ α} {i : Nat}
    (h : c.pick schedule = some i) : i ∈ c.enabled :=
  (mem_due_iff.1 (pick_mem_due h)).1

theorem mem_enabled_iff {c : Crew σ α} {i : Nat} :
    i ∈ c.enabled ↔ ∃ slot, c.slots[i]? = some slot ∧ c.mayMove slot = true := by
  simp only [enabled, List.mem_filterMap, Option.ite_none_right_eq_some, Option.some.injEq]
  constructor
  · rintro ⟨⟨slot, j⟩, hm, hmay, rfl⟩
    exact ⟨slot, List.mem_zipIdx_iff_getElem?.1 hm, hmay⟩
  · rintro ⟨slot, hget, hmay⟩
    exact ⟨(slot, i), List.mem_zipIdx_iff_getElem?.2 hget, hmay, rfl⟩

/-- What is left of every program, and how many of them are about to ask. -/
structure Rests (α : Type) where
  programs : List (Program α)
  askers : Nat

/-- A program has gone on, or one more of the same programs has asked. -/
def Rests.Less (a b : Rests α) : Prop :=
  Prod.Lex Shrinks (· < ·) (a.programs, a.askers) (b.programs, b.askers)

instance : WellFoundedRelation (Rests α) :=
  invImage (fun r => (r.programs, r.askers)) (Prod.lex ⟨Shrinks, shrinks_wf⟩ Nat.lt_wfRel)

/-- The measure that every move makes smaller. -/
def measure (c : Crew σ α) : Rests α := ⟨c.rests, c.askers⟩

theorem less_put_ofProgram {c : Crew σ α} {i : Nat} {slot : Slot α} {r : Request}
    {k : Answer r → Program α} (hget : c.slots[i]? = some slot) (hrest : slot.rest = .perform r k)
    (working : Bool) (a : Answer r) (st : State σ) :
    (c.put i (.ofProgram working (k a)) st).measure.Less c.measure := by
  refine Prod.Lex.left _ _ ?_
  simp only [measure, rests, put, List.map_set, Slot.rest_ofProgram]
  exact shrinks_set (.here r k a) (by rw [List.getElem?_map, hget, Option.map_some, hrest])

theorem less_put_flying {c : Crew σ α} {i : Nat} {working : Bool} {r : Request}
    {k : Answer r → Program α} (hget : c.slots[i]? = some (.asking working r k)) (f : Flight r)
    (st : State σ) : (c.put i (.flying working r f k) st).measure.Less c.measure := by
  obtain ⟨hi, hslot⟩ := List.getElem?_eq_some_iff.1 hget
  have hrests : (c.put i (.flying working r f k) st).rests = c.rests := by
    have hsame : (Slot.flying working r f k).rest = c.slots[i].rest := by rw [hslot]; rfl
    simp only [rests, put, List.map_set, hsame]
    rw [← List.map_set, List.set_getElem_self]
  have haskers : (c.put i (.flying working r f k) st).askers < c.askers := by
    have hpos : 0 < c.slots.countP Slot.isAsking :=
      List.countP_pos_iff.2 ⟨_, List.getElem_mem hi, by rw [hslot]; rfl⟩
    simp only [askers, put, List.countP_set hi, hslot, Slot.isAsking, if_true, Bool.false_eq_true,
      if_false]
    omega
  simp only [Rests.Less, measure, hrests]
  exact Prod.Lex.right _ haskers

theorem less_move (w : World σ) {c : Crew σ α} {i : Nat} (h : i ∈ c.enabled) :
    (c.move w i).measure.Less c.measure := by
  obtain ⟨slot, hget, hmay⟩ := mem_enabled_iff.1 h
  simp only [move, hget]
  cases slot with
  | asking working r k =>
    dsimp only
    split
    · exact less_put_ofProgram hget rfl working _ _
    · exact less_put_flying hget _ _
  | flying working r f k => exact less_put_ofProgram hget rfl _ _ _
  | done a => cases hmay

/-- Let slots go on until none may. -/
def run (w : World σ) (schedule : Schedule σ α) (c : Crew σ α) : Crew σ α :=
  match _h : c.pick schedule with
  | none => c
  | some i => (c.move w i).run w schedule
termination_by c.measure
decreasing_by exact less_move w (pick_mem _h)

/-- Nobody who is about to ask waits, and of the others goes on what ends first. -/
def earliest : Schedule σ α := fun c =>
  match c.slots.findIdx? Slot.isAsking with
  | some i => i
  | none => c.firstOf c.enabled

/-- Programs at their start. -/
def start (workers : Nat) (ps : List (Program α)) (st : State σ) : Crew σ α where
  workers := workers
  slots := ps.map (.ofProgram false)
  state := st
  finished := ps.zipIdx.filterMap fun p => (Slot.ofProgram false p.1).value?.map fun a => (p.2, a)

end Crew
end Run
end Walkthrough
