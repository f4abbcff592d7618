import Walkthrough.Capture.Store
import Walkthrough.Proofs.FileNames
import Walkthrough.Proofs.Trees
import Walkthrough.Proofs.Turns

/-!
# Walkthrough.Proofs.Evidence

What is kept of the captures that are stored one after the other.

* `pathOf_eq_iff`: captures have the same path when they have the same label. `isTaken_of_run` says
  that this goes for all the captures of a run.
* `read_put_self`, `read_put_of_ne`: a capture that is stored is read back, and one of another name
  is still there.
* `evidence_of_putAll`: after all of them are stored, a path has the bytes of the last capture that
  was stored under it. Captures with labels of their own all stay.
-/

namespace Walkthrough
namespace Capture

open Files Report

/-! ## The captures of a run -/

section OfRun

variable {σ : Type} {plan : Config.Plan} {tree : Tree} {runId : String} {st : Run.State σ}
  {m place : Nat} {key : Key} {bytes : ByteArray} {path? : Option String}

/-- Whatever the world does, a run has no captures stored but those of the four forms. -/
theorem isTaken_of_run (w : Run.World σ) (schedule : Run.Crew.Schedule σ (Option ScenarioResult))
    (h : .event m place (.stored key bytes path?) ∈
      (Run.run w schedule plan tree runId st).2.notes) : key.IsTaken := by
  obtain ⟨rs, o, ho, -⟩ := Run.outcome_of_run w schedule plan tree runId st
  have hmem := Run.mem_eventsAt.2 ⟨m, h⟩
  have hplace : place < plan.selected.length := by
    by_contra hlast
    rw [ho.elsewhere place (Nat.not_lt.1 hlast)] at hmem
    cases hmem
  obtain ⟨xs, hends, hrecounts, -⟩ := ho.turns place _ (List.getElem?_eq_getElem hplace)
  obtain ⟨x, hx, es, hleaves, hes, -⟩ := hrecounts.exists_of_mem hmem
  have hasks := Run.asks_admitted trivial (storesTaken_scenario plan tree plan.selected[place])
  obtain rfl := hleaves.of_stored hes
  exact hends.asks hasks _ hx

end OfRun

theorem Key.isPlain_fileName (k : Key) : IsPlain k.fileName where
  noSlash h := by
    rcases k.isSafe_fileName '/' h with hkept | hunderscore
    · cases hkept
    · cases hunderscore
  ne_empty h := by
    have hhead := k.head?_fileName
    simp [h] at hhead
  ne_dot h := by
    have hhead := k.head?_fileName
    simp [h] at hhead
  ne_up h := by
    have hhead := k.head?_fileName
    simp [h] at hhead

namespace Store

variable {store : Store} {key other : Key} {bytes bytes' : ByteArray} {tree tree' : Tree}
  {path : String}

/-! ## Paths -/

theorem pathOf_eq (store : Store) (key : Key) :
    store.pathOf key = Path.front (store.directory key.kind) ++ key.fileName :=
  key.isPlain_fileName.join_eq _

theorem suffix_pathOf (store : Store) (key : Key) :
    key.fileName.toList <:+ (store.pathOf key).toList := by
  rw [pathOf_eq, String.toList_append]
  exact List.suffix_append _ _

/-- Captures have the same path when they have the same label. -/
theorem pathOf_eq_iff (h : key.IsTaken) (h' : other.IsTaken) :
    store.pathOf key = store.pathOf other ↔ key.label = other.label := by
  constructor
  · intro hpath
    have hkind : key.kind = other.kind :=
      Key.kind_eq_of_suffix h h' (suffix_pathOf store key) (hpath ▸ suffix_pathOf store other)
    rw [pathOf_eq, pathOf_eq, hkind, String.append_right_inj] at hpath
    exact (Key.fileName_eq_iff h h').1 hpath
  · intro hlabel
    rw [pathOf, pathOf, (Key.fileName_eq_iff h h').2 hlabel, Key.kind_eq_of_label h h' hlabel]

/-! ## One capture -/

theorem put_eq_ok (h : store.put key bytes tree = .ok (path, tree')) :
    path = store.pathOf key ∧
      ∃ ready, tree.makeDirectories (store.directory key.kind) = .ok ready ∧
        ready.write (store.pathOf key) bytes = .ok tree' := by
  simp only [put] at h
  split at h
  · cases h
  · next ready hready =>
    split at h
    · cases h
    · next hwritten =>
      cases h
      exact ⟨rfl, ready, hready, hwritten⟩

theorem read_put_self (h : store.put key bytes tree = .ok (path, tree')) :
    tree'.read (store.pathOf key) = .ok bytes := by
  obtain ⟨-, ready, -, hwritten⟩ := put_eq_ok h
  exact Tree.read_write_self hwritten

/-- The name of a capture is the last name of its place. -/
theorem getLast?_locate_pathOf {place : Place} (h : tree.locate (store.pathOf key) = .ok place) :
    place.getLast? = some key.fileName :=
  Tree.getLast?_locate_join key.isPlain_fileName h

theorem read_put_of_ne (h : store.put key bytes tree = .ok (path, tree'))
    (hne : key.fileName ≠ other.fileName) (hread : tree.read (store.pathOf other) = .ok bytes') :
    tree'.read (store.pathOf other) = .ok bytes' := by
  obtain ⟨-, ready, hready, hwritten⟩ := put_eq_ok h
  have hkept := Tree.read_of_grows (Tree.grows_makeDirectories hready) hread
  refine Tree.read_write_of_ne hwritten hkept fun place hlocate hlocate' => hne ?_
  exact Option.some.inj ((getLast?_locate_pathOf hlocate).symm.trans
    (getLast?_locate_pathOf hlocate'))

/-! ## One capture after the other -/

/-- Store captures one after the other for as long as that goes well, and say where they are. -/
def putAll (store : Store) : List (Key × ByteArray) → Tree → Except Fault (List String × Tree)
  | [], tree => .ok ([], tree)
  | (key, bytes) :: rest, tree => do
    let (path, tree) ← store.put key bytes tree
    let (paths, tree) ← store.putAll rest tree
    return (path :: paths, tree)

section PutAll

variable {captures rest : List (Key × ByteArray)} {paths : List String}

theorem putAll_cons_eq_ok (h : store.putAll ((key, bytes) :: rest) tree = .ok (paths, tree')) :
    ∃ middle paths', store.put key bytes tree = .ok (store.pathOf key, middle) ∧
      store.putAll rest middle = .ok (paths', tree') ∧ paths = store.pathOf key :: paths' := by
  obtain ⟨⟨path, middle⟩, hput, h⟩ := ok_bind_iff.1 h
  obtain ⟨⟨paths', tree''⟩, hrest, h⟩ := ok_bind_iff.1 h
  cases h
  obtain ⟨rfl, -⟩ := put_eq_ok hput
  exact ⟨middle, paths', hput, hrest, rfl⟩

theorem paths_of_putAll (h : store.putAll captures tree = .ok (paths, tree')) :
    paths = captures.map fun c => store.pathOf c.1 := by
  induction captures generalizing tree paths with
  | nil =>
    cases h
    rfl
  | cons c rest ih =>
    obtain ⟨middle, paths', -, hrest, rfl⟩ := putAll_cons_eq_ok h
    rw [ih hrest, List.map_cons]

/-- A capture stays for as long as none of its name is stored. -/
theorem read_putAll_of_ne (h : store.putAll captures tree = .ok (paths, tree'))
    (hne : ∀ c ∈ captures, c.1.fileName ≠ other.fileName)
    (hread : tree.read (store.pathOf other) = .ok bytes') :
    tree'.read (store.pathOf other) = .ok bytes' := by
  induction captures generalizing tree paths with
  | nil =>
    cases h
    exact hread
  | cons c rest ih =>
    obtain ⟨hfirst, hne⟩ := List.forall_mem_cons.1 hne
    obtain ⟨middle, paths', hput, hrest, rfl⟩ := putAll_cons_eq_ok h
    exact ih hrest hne (read_put_of_ne hput hfirst hread)

/-- The last capture of a name is read back. -/
theorem read_putAll (before : List (Key × ByteArray)) {after : List (Key × ByteArray)}
    (h : store.putAll (before ++ (key, bytes) :: after) tree = .ok (paths, tree'))
    (hne : ∀ c ∈ after, c.1.fileName ≠ key.fileName) :
    tree'.read (store.pathOf key) = .ok bytes := by
  induction before generalizing tree paths with
  | nil =>
    obtain ⟨middle, paths', hput, hrest, rfl⟩ := putAll_cons_eq_ok h
    exact read_putAll_of_ne hrest hne (read_put_self hput)
  | cons c before ih =>
    obtain ⟨middle, paths', -, hrest, rfl⟩ := putAll_cons_eq_ok h
    exact ih hrest

/-- The paths of captures tell their labels apart and nothing else. When all are stored, every path
has the bytes of the last capture of its label. So captures with labels of their own have paths of
their own, and each of them is read back. -/
theorem evidence_of_putAll (htaken : ∀ c ∈ captures, c.1.IsTaken)
    (h : store.putAll captures tree = .ok (paths, tree')) :
    paths = captures.map (fun c => store.pathOf c.1) ∧
      (∀ c ∈ captures, ∀ c' ∈ captures,
        store.pathOf c.1 = store.pathOf c'.1 ↔ c.1.label = c'.1.label) ∧
      (∀ before key bytes after, captures = before ++ (key, bytes) :: after →
        (∀ c ∈ after, c.1.label ≠ key.label) → tree'.read (store.pathOf key) = .ok bytes) ∧
      (captures.Pairwise (fun c c' => c.1.label ≠ c'.1.label) →
        paths.Nodup ∧ ∀ c ∈ captures, tree'.read (store.pathOf c.1) = .ok c.2) := by
  have hpaths := paths_of_putAll h
  have hsame (c : Key × ByteArray) (hc : c ∈ captures) (c' : Key × ByteArray)
      (hc' : c' ∈ captures) :
      store.pathOf c.1 = store.pathOf c'.1 ↔ c.1.label = c'.1.label :=
    pathOf_eq_iff (htaken c hc) (htaken c' hc')
  have hlast (before : List (Key × ByteArray)) (key : Key) (bytes : ByteArray)
      (after : List (Key × ByteArray)) (hsplit : captures = before ++ (key, bytes) :: after)
      (hne : ∀ c ∈ after, c.1.label ≠ key.label) : tree'.read (store.pathOf key) = .ok bytes := by
    have hmem {c : Key × ByteArray} (hc : c ∈ (key, bytes) :: after) : c ∈ captures :=
      hsplit ▸ List.mem_append_right before hc
    refine read_putAll before (hsplit ▸ h) fun c hc hname => hne c hc ?_
    exact (Key.fileName_eq_iff (htaken c (hmem (List.mem_cons_of_mem _ hc)))
      (htaken _ (hmem List.mem_cons_self))).1 hname
  refine ⟨hpaths, hsame, hlast, fun hlabels => ⟨?_, fun c hc => ?_⟩⟩
  · rw [hpaths, List.nodup_iff_pairwise_ne, List.pairwise_map]
    exact hlabels.imp_of_mem fun hc hc' hne hpath => hne ((hsame _ hc _ hc').1 hpath)
  · obtain ⟨before, after, rfl⟩ := List.append_of_mem hc
    have hafter := (List.pairwise_cons.1 (List.pairwise_append.1 hlabels).2.1).1
    exact hlast before c.1 c.2 after rfl fun c' hc' => (hafter c' hc').symm

end PutAll

namespace Sample

/-- Noon of the first day. -/
def noon : Timestamp := .ofSeconds .epoch 43200 0

def session : Store := ⟨"shots/session_1", "shots/session_1"⟩

/-- A screenshot of a scenario at noon. -/
def shot (scenario : String) : Key := ⟨.screenshot, .stepPassed, scenario, some 1, some 1, noon⟩

/-- A screenshot, and the videos of its step and its scenario at the same moment. -/
def captures : List (Key × ByteArray) :=
  [(shot "Log in", "one".toUTF8),
    (⟨.video, .stepSegment, "Log in", some 1, none, noon⟩, "two".toUTF8),
    (⟨.video, .scenario, "Log in", none, none, noon⟩, "three".toUTF8)]

/-- Screenshots at noon of two scenarios with much the same name. -/
def alike : List (Key × ByteArray) :=
  [(shot "a b", "one".toUTF8), (shot "a_b", "two".toUTF8)]

end Sample

theorem evidence_of_three_captures : ∃ paths tree,
    Sample.session.putAll Sample.captures .empty = .ok (paths, tree) ∧ paths.Nodup ∧
      ∀ c ∈ Sample.captures, tree.read (Sample.session.pathOf c.1) = .ok c.2 := by
  have htaken : ∀ c ∈ Sample.captures, c.1.IsTaken := by
    rintro _ (_ | ⟨_, _ | ⟨_, _ | ⟨_, hc⟩⟩⟩)
    · exact .passed _ _ _ _
    · exact .segment _ _ _
    · exact .scenario _ _
    · cases hc
  have hlabels : Sample.captures.Pairwise fun c c' => c.1.label ≠ c'.1.label := by
    decide +kernel
  have hstored : (Sample.session.putAll Sample.captures .empty).isOk = true := by decide +kernel
  cases h : Sample.session.putAll Sample.captures .empty with
  | error fault => cases h ▸ hstored
  | ok result => exact ⟨result.1, result.2, rfl, (evidence_of_putAll htaken h).2.2.2 hlabels⟩

/-- Two scenarios whose names differ in a blank share a path within one millisecond, and what was
stored first is gone. -/
theorem overwritten_of_like_names :
    (Sample.shot "a b").IsTaken ∧ (Sample.shot "a_b").IsTaken ∧
      (Sample.shot "a b").scenario ≠ (Sample.shot "a_b").scenario ∧
      ∃ path tree, Sample.session.putAll Sample.alike .empty = .ok ([path, path], tree) ∧
        tree.read path = .ok "two".toUTF8 := by
  have hpath : Sample.session.pathOf (Sample.shot "a b") =
      Sample.session.pathOf (Sample.shot "a_b") := by decide +kernel
  have hstored : (Sample.session.putAll Sample.alike .empty).isOk = true := by decide +kernel
  refine ⟨.passed _ _ _ _, .passed _ _ _ _, by decide,
    Sample.session.pathOf (Sample.shot "a_b"), ?_⟩
  cases h : Sample.session.putAll Sample.alike .empty with
  | error fault => cases h ▸ hstored
  | ok result =>
    obtain ⟨paths, tree⟩ := result
    have hpaths : paths = [Sample.session.pathOf (Sample.shot "a b"),
      Sample.session.pathOf (Sample.shot "a_b")] := paths_of_putAll h
    rw [hpath] at hpaths
    exact ⟨tree, by rw [hpaths], read_putAll [_] h (List.forall_mem_nil _)⟩

end Store
end Capture
end Walkthrough
