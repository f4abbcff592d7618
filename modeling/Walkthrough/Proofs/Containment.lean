import Mathlib.Data.List.Chain
import Mathlib.Data.String.Basic
import Walkthrough.Proofs.Evidence

/-!
# Walkthrough.Proofs.Containment

Where captures are written, whatever a scenario is called.

What is left of the name of a scenario is a text of its own. With the numbers and the time of day
it makes a name that stands for one entry of a directory and is short enough for every directory.

* `isTidy_sanitize`: the name of a scenario keeps at most fifty characters, and its underscores
  stand alone.
* `Key.length_fileName_le`: numbers of 32 bits make no name too long.
* `Store.put_eq_ok_iff`: when a capture is stored, and what is in the tree then.
* `Store.child_of_put`: all of it for the directories of a run.
-/

namespace Walkthrough
namespace Capture

open Files Report Text

/-! ## What is left of the name of a scenario -/

/-- Of two characters side by side, one is no underscore. -/
def Apart (c d : Char) : Prop := c = '_' → d ≠ '_'

theorem ne_underscore_of_isKept {c : Char} (h : isKept c = true) : c ≠ '_' := by
  rintro rfl
  cases h

theorem apart_of_isKept {c : Char} (h : isKept c = true) (d : Char) : Apart c d :=
  fun hc => absurd hc (ne_underscore_of_isKept h)

/-- What follows an underscore does not begin with one. -/
theorem head?_collapse_true (cs : List Char) : (collapse true cs).head? ≠ some '_' := by
  induction cs with
  | nil => exact nofun
  | cons c cs ih =>
    by_cases hkept : isKept c = true
    · simp only [collapse, hkept, if_true, List.head?_cons, ne_eq, Option.some.injEq]
      exact ne_underscore_of_isKept hkept
    · simpa [collapse, hkept] using ih

theorem isChain_collapse (ended : Bool) (cs : List Char) : (collapse ended cs).IsChain Apart := by
  induction cs generalizing ended with
  | nil => exact .nil
  | cons c cs ih =>
    simp only [collapse]
    split
    · next hkept => exact List.isChain_cons.2 ⟨fun d _ => apart_of_isKept hkept d, ih false⟩
    · split
      · exact ih true
      · refine List.isChain_cons.2 ⟨fun d hd _ hunderscore => ?_, ih true⟩
        exact head?_collapse_true cs (hunderscore ▸ hd)

/-- What is left of the name of a scenario before a name stands in for the empty one. -/
def limited (cs : List Char) : List Char :=
  (dropEndWhile (· = '_') ((collapse false cs).dropWhile (· = '_'))).take nameLimit

theorem isPrefix_limited (cs : List Char) :
    limited cs <+: (collapse false cs).dropWhile (· = '_') :=
  (List.take_prefix _ _).trans (List.rdropWhile_prefix _ _)

theorem isChain_limited (cs : List Char) : (limited cs).IsChain Apart := by
  obtain ⟨front, hfront⟩ := List.dropWhile_suffix (· = '_') (l := collapse false cs)
  obtain ⟨rest, hrest⟩ := isPrefix_limited cs
  have hchain := isChain_collapse false cs
  rw [← hfront, ← hrest] at hchain
  exact hchain.right_of_append.left_of_append

theorem head?_limited (cs : List Char) : (limited cs).head? ≠ some '_' := by
  intro hhead
  obtain ⟨rest, hrest⟩ := isPrefix_limited cs
  have hfirst := List.head?_dropWhile_not (fun c => decide (c = '_')) (collapse false cs)
  rw [← hrest, List.head?_append, hhead] at hfirst
  cases hfirst

/-- A text that stands for the name of a scenario. -/
structure IsTidy (name : String) : Prop where
  ne_empty : name ≠ ""
  length_le : name.length ≤ 50
  apart : name.toList.IsChain Apart
  head_ne : name.toList.head? ≠ some '_'

theorem isTidy_limited {cs : List Char} (h : limited cs ≠ []) :
    IsTidy (String.ofList (limited cs)) where
  ne_empty := by simpa using h
  length_le := by
    rw [String.length_ofList]
    exact List.length_take_le nameLimit _
  apart := by
    rw [String.toList_ofList]
    exact isChain_limited cs
  head_ne := by
    rw [String.toList_ofList]
    exact head?_limited cs

theorem sanitizeChars_eq (cs : List Char) : sanitizeChars cs =
    if (limited cs).isEmpty then "scenario".toList else limited cs := rfl

theorem isTidy_sanitize (name : String) : IsTidy (sanitize name) := by
  have hdefault : limited "scenario".toList = "scenario".toList := by decide
  rw [sanitize, sanitizeChars_eq]
  split
  · rw [← hdefault]
    exact isTidy_limited (by decide)
  · next hsome => exact isTidy_limited (by simpa using hsome)

/-! ## How long a name gets -/

section Length

variable {n : Nat}

theorem length_repr_le (h : n < twoTo 32) : (Nat.repr n).length ≤ 10 := by
  have hbelow : twoTo 32 ≤ 10 ^ 10 := by decide
  exact (Nat.length_repr_le_iff (by decide)).2 (Nat.lt_of_lt_of_le h hbelow)

theorem length_padded_le (h : n < twoTo 32) : (padded 2 n).length ≤ 10 := by
  have hrepr := length_repr_le h
  rw [padded, String.length_append, String.length_ofList, List.length_replicate]
  omega

end Length

namespace Key

/-- The numbers of the capture have at most 32 bits. -/
structure IsNumbered (k : Key) : Prop where
  stepId : ∀ n, k.stepId = some n → n < twoTo 32
  attempt : ∀ n, k.attempt = some n → n < twoTo 32

theorem length_fileName_le {k : Key} (h : k.IsNumbered) : k.fileName.length ≤ 106 := by
  have hstamp := k.capturedAt.length_clockStamp
  have hscenario := (isTidy_sanitize k.scenario).length_le
  have hattempt : (Nat.repr (k.attempt.getD 1)).length ≤ 10 := by
    refine length_repr_le ?_
    cases hkey : k.attempt with
    | none => decide
    | some n => exact h.attempt n hkey
  have hmarks : "step_".length = 5 ∧ "_attempt_".length = 9 ∧ "_".length = 1 ∧
      "passed".length = 6 ∧ "failed".length = 6 ∧ ".png".length = 4 ∧ ".gif".length = 4 ∧
      "scenario_".length = 9 ∧ "test_".length = 5 := by decide
  unfold fileName
  split
  case h_1 id _ hid | h_2 id _ hid | h_3 id _ hid =>
    have hpadded := length_padded_le (h.stepId id hid)
    simp only [String.length_append]
    omega
  case h_4 =>
    split <;>
      simp only [String.length_append] <;>
      omega

end Key

theorem val_le_of_isAlphanum {c : Char} (h : c.isAlphanum = true) : c.val ≤ 127 := by
  rcases Bool.or_eq_true_iff.1 h with halpha | hdigit
  · rcases Bool.or_eq_true_iff.1 halpha with hupper | hlower
    · have hhigh : c.val ≤ 'Z'.val := (of_decide_eq_true hupper).2
      exact UInt32.le_trans hhigh (by decide)
    · have hhigh : c.val ≤ 'z'.val := of_decide_eq_true (Bool.and_eq_true_iff.1 hlower).2
      exact UInt32.le_trans hhigh (by decide)
  · have hhigh : c.val ≤ '9'.val := of_decide_eq_true (Bool.and_eq_true_iff.1 hdigit).2
    exact UInt32.le_trans hhigh (by decide)

theorem utf8Size_of_isKept {c : Char} (h : isKept c = true ∨ c = '_') : c.utf8Size = 1 := by
  simp only [isKept, Bool.or_eq_true, decide_eq_true_eq, or_assoc] at h
  rcases h with halphanum | rfl | rfl | rfl
  · exact Char.utf8Size_eq_one_iff.2 (val_le_of_isAlphanum halphanum)
  all_goals rfl

theorem utf8Len_of_isKept {cs : List Char} (h : ∀ c ∈ cs, isKept c = true ∨ c = '_') :
    String.utf8Len cs = cs.length := by
  induction cs with
  | nil => rfl
  | cons c cs ih =>
    obtain ⟨hc, hcs⟩ := List.forall_mem_cons.1 h
    rw [String.utf8Len_cons, ih hcs, utf8Size_of_isKept hc, List.length_cons]

/-- Safe characters take a byte each. -/
theorem utf8ByteSize_of_isSafe {name : String} (h : IsSafe name) :
    name.utf8ByteSize = name.length := by
  rw [← String.ofList_toList (s := name), String.utf8ByteSize_ofList, utf8Len_of_isKept h,
    String.length_ofList]

namespace Key

theorem utf8ByteSize_fileName_le {k : Key} (h : k.IsNumbered) :
    k.fileName.utf8ByteSize ≤ Tree.nameLimit := by
  rw [utf8ByteSize_of_isSafe k.isSafe_fileName]
  exact Nat.le_trans (length_fileName_le h) (by decide)

theorem nul_notMem_fileName (k : Key) : '\x00' ∉ k.fileName.toList := by
  intro h
  rcases k.isSafe_fileName _ h with hkept | hunderscore
  · cases hkept
  · cases hunderscore

end Key

/-! ## Where a capture is written -/

namespace Store

variable {store : Store} {key : Key} {bytes : ByteArray} {tree tree' : Tree} {path : String}

/-- A capture is stored when there can be a directory for it, the path is short enough and no
directory has its name. -/
theorem put_eq_ok_iff (hkey : key.IsNumbered) (hdirectory : store.directory key.kind ≠ "") :
    store.put key bytes tree = .ok (path, tree') ↔
      path = store.pathOf key ∧ path.utf8ByteSize ≤ Tree.pathLimit ∧
        ∃ ready home, tree.makeDirectories (store.directory key.kind) = .ok ready ∧
          ready.locate (store.directory key.kind) = .ok home ∧
          ready.entryAt? (home ++ [key.fileName]) ≠ some .directory ∧
          tree' = ready.put (home ++ [key.fileName]) (.file bytes) := by
  have hplain := key.isPlain_fileName
  have hnul := key.nul_notMem_fileName
  constructor
  · intro h
    obtain ⟨rfl, ready, hready, hwritten⟩ := put_eq_ok h
    obtain ⟨home, hhome, hthere⟩ :=
      Tree.isDirectory_iff.1 (Tree.isDirectory_makeDirectories hready hdirectory)
    obtain ⟨-, hpath, hfree, rfl⟩ :=
      (Tree.write_join_eq_ok_iff hplain hnul hhome hthere).1 hwritten
    exact ⟨rfl, hpath, ready, home, hready, hhome, hfree, rfl⟩
  · rintro ⟨rfl, hpath, ready, home, hready, hhome, hfree, rfl⟩
    have hthere := Tree.entryAt?_of_makeDirectories hready hdirectory hhome
    have hwritten : ready.write (store.pathOf key) bytes = .ok _ :=
      (Tree.write_join_eq_ok_iff hplain hnul hhome hthere).2
        ⟨Key.utf8ByteSize_fileName_le hkey, hpath, hfree, rfl⟩
    simp only [put, hready, hwritten]

/-- A file of a directory was written, and nothing else changed but that directories were made. -/
structure IsChild (directory name : String) (bytes : ByteArray) (tree tree' : Tree)
    (path : String) (home : Place) : Prop where
  components : Path.components path = Path.components directory ++ [name]
  home_eq : tree'.locate directory = .ok home
  home_there : tree'.entryAt? home = some .directory
  place_eq : tree'.locate path = .ok (home ++ [name])
  written : tree'.entryAt? (home ++ [name]) = some (.file bytes)
  others : ∀ place ≠ home ++ [name], tree'.entryAt? place = tree.entryAt? place ∨
    tree.entryAt? place = none ∧ tree'.entryAt? place = some .directory

theorem isChild_of_put (hkey : key.IsNumbered) (hdirectory : store.directory key.kind ≠ "")
    (h : store.put key bytes tree = .ok (path, tree')) :
    ∃ home, IsChild (store.directory key.kind) key.fileName bytes tree tree' path home := by
  obtain ⟨rfl, hpath, ready, home, hready, hhome, hfree, rfl⟩ :=
    (put_eq_ok_iff hkey hdirectory).1 h
  have hthere := Tree.entryAt?_of_makeDirectories hready hdirectory hhome
  have hkeeps := Tree.keepsDirectories_put hfree (.file bytes)
  have hplace := (Tree.locate_join_eq_ok_iff key.isPlain_fileName key.nul_notMem_fileName hhome
    hthere).2 ⟨Key.utf8ByteSize_fileName_le hkey, hpath, rfl⟩
  refine ⟨home, ?_, ?_, ?_, ?_, ?_, fun place hplace => ?_⟩
  · exact key.isPlain_fileName.components_join _
  · exact Tree.locate_of_keepsDirectories hkeeps hhome
  · exact hkeeps home hthere
  · exact Tree.locate_of_keepsDirectories hkeeps hplace
  · exact Tree.entryAt?_put_self (Tree.isFixed_of_ne_directory hfree) ready _
  · rw [Tree.entryAt?_put_of_ne hplace]
    exact Tree.addsDirectories_makeDirectories hready place

/-- The directories of a run have names. -/
theorem directory_ofSession_ne_empty (reporting : Config.Reporting) (stamp : String)
    (kind : ArtifactKind) : (ofSession reporting stamp).directory kind ≠ "" := by
  have hsession : "session_" ++ stamp ≠ "" := by simp
  cases kind <;> exact Path.join_ne_empty _ hsession

/-- Whatever a scenario is called, what is left of its name is tidy, and the name of a capture of it
is short, has none but letters, digits, dashes, dots and underscores, and is neither `.` nor `..`.
A capture that is stored is a child of the directory for its kind, where nothing else changes. It
is stored unless there can be no such directory, the path is too long or a directory has its
name. -/
theorem child_of_put (reporting : Config.Reporting) (stamp : String) (hkey : key.IsNumbered)
    (bytes : ByteArray) (tree : Tree) :
    (∀ name, IsTidy (sanitize name)) ∧
      (key.fileName ≠ "" ∧ key.fileName.length ≤ 255 ∧
        (∀ c ∈ key.fileName.toList, c.isAlphanum = true ∨ c = '-' ∨ c = '.' ∨ c = '_') ∧
        key.fileName ≠ "." ∧ key.fileName ≠ "..") ∧
      (∀ path tree', (ofSession reporting stamp).put key bytes tree = .ok (path, tree') →
        ∃ home, IsChild ((ofSession reporting stamp).directory key.kind) key.fileName bytes tree
          tree' path home) ∧
      ((∃ path tree', (ofSession reporting stamp).put key bytes tree = .ok (path, tree')) ↔
        ((ofSession reporting stamp).pathOf key).utf8ByteSize ≤ Tree.pathLimit ∧
          ∃ ready home,
            tree.makeDirectories ((ofSession reporting stamp).directory key.kind) = .ok ready ∧
            ready.locate ((ofSession reporting stamp).directory key.kind) = .ok home ∧
            ready.entryAt? (home ++ [key.fileName]) ≠ some .directory) := by
  have hdirectory := directory_ofSession_ne_empty reporting stamp key.kind
  have hplain := key.isPlain_fileName
  have hlength : key.fileName.length ≤ 255 :=
    Nat.le_trans (Key.length_fileName_le hkey) (by decide)
  have hsafe (c : Char) (hc : c ∈ key.fileName.toList) :
      c.isAlphanum = true ∨ c = '-' ∨ c = '.' ∨ c = '_' := by
    have hkept := key.isSafe_fileName c hc
    simpa [isKept, or_assoc] using hkept
  refine ⟨isTidy_sanitize,
    ⟨hplain.ne_empty, hlength, hsafe, hplain.ne_dot, hplain.ne_up⟩,
    fun path tree' h => isChild_of_put hkey hdirectory h, ?_, ?_⟩
  · rintro ⟨path, tree', h⟩
    obtain ⟨rfl, hpath, ready, home, hready, hhome, hfree, -⟩ :=
      (put_eq_ok_iff hkey hdirectory).1 h
    exact ⟨hpath, ready, home, hready, hhome, hfree⟩
  · rintro ⟨hpath, ready, home, hready, hhome, hfree⟩
    exact ⟨_, _, (put_eq_ok_iff hkey hdirectory).2
      ⟨rfl, hpath, ready, home, hready, hhome, hfree, rfl⟩⟩

/-- A failed attempt of a scenario that is called like a path out of the directory. -/
def Sample.climber : Key :=
  ⟨.screenshot, .stepFailed, "../../etc/passwd\x00", some 4294967295, some 4294967295, noon⟩

theorem child_of_climber : Sample.climber.IsNumbered ∧
    Sample.climber.fileName =
      "step_4294967295_attempt_4294967295_120000000_.._.._etc_passwd_failed.png" ∧
    ∃ path tree home,
      (ofSession .default "20260101_120000").put Sample.climber "one".toUTF8 .empty =
        .ok (path, tree) ∧
      IsChild "./screenshots/session_20260101_120000" Sample.climber.fileName "one".toUTF8 .empty
        tree path home := by
  have hkey : Sample.climber.IsNumbered := by
    constructor <;>
      · rintro _ ⟨⟩
        decide
  have hstored : ((ofSession .default "20260101_120000").put Sample.climber "one".toUTF8
      .empty).isOk = true := by decide +kernel
  refine ⟨hkey, by decide +kernel, ?_⟩
  cases h : (ofSession .default "20260101_120000").put Sample.climber "one".toUTF8 .empty with
  | error fault => cases h ▸ hstored
  | ok result =>
    obtain ⟨home, hchild⟩ :=
      (child_of_put .default "20260101_120000" hkey "one".toUTF8 .empty).2.2.1 result.1 result.2 h
    exact ⟨result.1, result.2, home, rfl, hchild⟩

end Store

end Capture
end Walkthrough
