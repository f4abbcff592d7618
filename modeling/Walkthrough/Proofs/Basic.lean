/-!
# Walkthrough.Proofs.Basic

Facts about results that may be faults, and about lists, that have nothing to do with a particular
program.

* `ok_bind_iff`, `exists_of_mapM`: what is known of the parts when the whole is no fault.
* `error_bind_iff`: which part is at fault when the whole is.
* `split_unique`: where a list is split at the only item of its kind.
-/

namespace Walkthrough

section Except

variable {ε α β : Type}

theorem ok_bind_iff {x : Except ε α} {f : α → Except ε β} {b : β} :
    (x >>= f) = .ok b ↔ ∃ a, x = .ok a ∧ f a = .ok b := by
  cases x with
  | ok a => simp [bind, Except.bind]
  | error e => simp [bind, Except.bind]

/-- Every item of a list of results is the result of something. -/
theorem exists_of_mapM {f : α → Except ε β} {as : List α} {bs : List β} (h : as.mapM f = .ok bs) :
    ∀ b ∈ bs, ∃ a ∈ as, f a = .ok b := by
  induction as generalizing bs with
  | nil =>
    cases h
    exact List.forall_mem_nil _
  | cons a as ih =>
    rw [List.mapM_cons] at h
    obtain ⟨b, hb, h⟩ := ok_bind_iff.1 h
    obtain ⟨bs', hbs, h⟩ := ok_bind_iff.1 h
    cases h
    refine List.forall_mem_cons.2 ⟨⟨a, List.mem_cons_self, hb⟩, fun b' hb' => ?_⟩
    obtain ⟨a', ha', heq⟩ := ih hbs b' hb'
    exact ⟨a', List.mem_cons_of_mem a ha', heq⟩

/-- What every step keeps is kept by all of them. -/
theorem foldlM_invariant {f : β → α → Except ε β} {P : β → Prop} {as : List α} {b b' : β}
    (hstep : ∀ b a b', P b → f b a = .ok b' → P b') (hb : P b) (h : as.foldlM f b = .ok b') :
    P b' := by
  induction as generalizing b with
  | nil =>
    cases h
    exact hb
  | cons a as ih =>
    rw [List.foldlM_cons] at h
    obtain ⟨c, hc, h⟩ := ok_bind_iff.1 h
    exact ih (hstep b a c hb hc) h

theorem ok_map_iff {x : Except ε α} {f : α → β} {b : β} :
    x.map f = .ok b ↔ ∃ a, x = .ok a ∧ f a = b := by
  cases x <;> simp [Except.map]

/-- A fault of the whole is a fault of the first part, or one of the rest. -/
theorem error_bind_iff {x : Except ε α} {f : α → Except ε β} {e : ε} :
    (x >>= f) = .error e ↔ x = .error e ∨ ∃ a, x = .ok a ∧ f a = .error e := by
  cases x with
  | ok a => simp [bind, Except.bind]
  | error e' => simp [bind, Except.bind]

theorem bind_pure_eq_map (x : Except ε α) (f : α → β) : (x >>= fun a => pure (f a)) = x.map f := by
  cases x <;> rfl

theorem error_map_iff {x : Except ε α} {f : α → β} {e : ε} : x.map f = .error e ↔ x = .error e := by
  cases x <;> simp [Except.map]

end Except

/-- A list is split at the only item of its kind in one way. -/
theorem split_unique {α : Type} {p : α → Prop} {as bs cs ds : List α} {a c : α}
    (h : as ++ a :: bs = cs ++ c :: ds) (ha : p a) (hcs : ∀ d ∈ cs, ¬p d) (hds : ∀ d ∈ ds, ¬p d) :
    as = cs ∧ bs = ds := by
  rcases List.append_eq_append_iff.1 h with ⟨es, rfl, hright⟩ | ⟨es, rfl, hright⟩
  · cases es with
    | nil => exact ⟨(List.append_nil as).symm, (List.cons.inj hright).2⟩
    | cons e es =>
      obtain ⟨rfl, -⟩ := List.cons.inj hright
      exact absurd ha (hcs a (List.mem_append_right as List.mem_cons_self))
  · cases es with
    | nil => exact ⟨List.append_nil cs, (List.cons.inj hright).2.symm⟩
    | cons e es =>
      obtain ⟨-, rfl⟩ := List.cons.inj hright
      exact absurd ha (hds a (List.mem_append_right es List.mem_cons_self))

end Walkthrough
