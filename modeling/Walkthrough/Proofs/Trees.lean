import Walkthrough.Files.Tree
import Walkthrough.Proofs.Basic
import Walkthrough.Proofs.Parts

/-!
# Walkthrough.Proofs.Trees

What changes in a tree of files when directories are made and files are written.

A path is followed through directories alone, so it leads to the same place for as long as the
directories on its way stay. Making directories only adds entries, and writing a file changes the
entry of one place, which is no directory.

* `walk_of_keepsDirectories`: a path that leads somewhere leads there later.
* `addsDirectories_makeDirectories`: whatever was there before directories are made is there
  afterwards, and what was not there before is a directory.
* `write_join_eq_ok_iff`: a file of a plain name under a directory is written into it.
* `read_write_self`, `read_write_of_ne`: what is written is read back, and what is in other places
  is still there.
* `way_slash`, `isDirectory_makeDirectories`: a directory that is made may be named with a slash at
  the end.
* `getLast?_locate_join`: a plain name under a directory is the last name of its place.
-/

namespace Walkthrough

namespace Files

open Text

/-! ## Paths that end in a plain name -/

theorem Path.join_ne_empty (base : String) {path : String} (h : path ≠ "") :
    Path.join base path ≠ "" := by
  unfold Path.join
  repeat' split
  all_goals simp [h]

/-- A directory as it stands before a name. -/
def Path.front (directory : String) : String :=
  if directory.isEmpty || directory.toList.getLast? = some '/' then directory else directory ++ "/"

theorem Path.front_cases (directory : String) :
    directory = "" ∧ Path.front directory = "" ∨
      (∃ init, directory.toList = init ++ ['/'] ∧ Path.front directory = directory) ∨
      directory ≠ "" ∧ directory.toList.getLast? ≠ some '/' ∧
        Path.front directory = directory ++ "/" := by
  by_cases hempty : directory = ""
  · exact .inl ⟨hempty, by simp [Path.front, hempty]⟩
  by_cases hslash : directory.toList.getLast? = some '/'
  · obtain ⟨init, hinit⟩ := List.getLast?_eq_some_iff.1 hslash
    exact .inr (.inl ⟨init, hinit, by simp [Path.front, hslash]⟩)
  · exact .inr (.inr ⟨hempty, hslash, by simp [Path.front, hslash, hempty]⟩)

theorem Path.notMem_front {c : Char} (hc : c ≠ '/') {directory : String}
    (h : c ∉ directory.toList) : c ∉ (Path.front directory).toList := by
  rcases Path.front_cases directory with ⟨-, hfront⟩ | ⟨-, -, hfront⟩ | ⟨-, -, hfront⟩ <;>
    simp [hfront, h, hc]

/-- A slash at the end of a path changes nothing on its way. -/
theorem Tree.way_slash {path : String} (h : path ≠ "") : Tree.way (path ++ "/") = Tree.way path := by
  obtain ⟨c, cs, hcs⟩ := List.exists_cons_of_ne_nil (mt String.toList_eq_nil_iff.1 h)
  have habsolute : Path.isAbsolute (path ++ "/") = Path.isAbsolute path := by
    simp [Path.isAbsolute, hcs]
  have hparts : splitAll '/' (path ++ "/").toList = splitAll '/' path.toList ++ [[]] := by
    rw [String.toList_append]
    exact splitAll_append_cons '/' path.toList []
  simp only [Tree.way, habsolute, hparts]
  simp

theorem Tree.trailing_cases (path : String) :
    Tree.trailing path = [] ∨ Tree.trailing path = ["."] := by
  unfold Tree.trailing
  dsimp only
  split
  · exact .inr rfl
  · exact .inl rfl

/-- A name that stands for one segment of a path. -/
structure IsPlain (name : String) : Prop where
  noSlash : '/' ∉ name.toList
  ne_empty : name ≠ ""
  ne_dot : name ≠ "."
  ne_up : name ≠ ".."

namespace IsPlain

variable {name : String}

theorem not_isAbsolute (h : IsPlain name) : Path.isAbsolute name = false := by
  refine decide_eq_false fun hhead => h.noSlash ?_
  exact List.mem_of_mem_head? hhead

theorem join_eq (h : IsPlain name) (directory : String) :
    Path.join directory name = Path.front directory ++ name := by
  simp only [Path.join, Path.front, h.not_isAbsolute, Bool.false_eq_true, if_false]
  split <;> rfl

/-- A path is cut into the parts of its directory and the name. When the directory is empty or ends
in a slash, the name stands for its last part, which is empty. -/
theorem exists_splitAll_join (h : IsPlain name) (directory : String) :
    ∃ parts ending, splitAll '/' directory.toList = parts ++ ending ∧
      splitAll '/' (Path.join directory name).toList = parts ++ [name.toList] ∧
      (ending = [[]] ∨ ending = [] ∧ parts.getLast? ≠ some []) := by
  rw [h.join_eq, String.toList_append]
  rcases Path.front_cases directory with ⟨rfl, hfront⟩ | ⟨init, hinit, hfront⟩ |
    ⟨hempty, hslash, hfront⟩
  · exact ⟨[], [[]], rfl, by rw [hfront]; exact splitAll_of_notMem h.noSlash, .inl rfl⟩
  · refine ⟨splitAll '/' init, [[]], by rw [hinit, splitAll_append_cons]; rfl, ?_, .inl rfl⟩
    rw [hfront, hinit, List.append_assoc, List.singleton_append, splitAll_append_cons,
      splitAll_of_notMem h.noSlash]
  · refine ⟨splitAll '/' directory.toList, [], (List.append_nil _).symm, ?_, .inr ⟨rfl, ?_⟩⟩
    · rw [hfront, String.toList_append, List.append_assoc,
        ← splitAll_of_notMem h.noSlash]
      exact splitAll_append_cons '/' directory.toList name.toList
    · intro hlast
      rcases eq_nil_or_getLast?_of_splitAll hlast with hnil | hend
      · exact hempty (String.toList_eq_nil_iff.1 hnil)
      · exact hslash hend

theorem isAbsolute_join (h : IsPlain name) (directory : String) :
    Path.isAbsolute (Path.join directory name) = Path.isAbsolute directory := by
  rw [h.join_eq]
  rcases Path.front_cases directory with ⟨rfl, hfront⟩ | ⟨init, hinit, hfront⟩ | ⟨hempty, -, hfront⟩
  · rw [hfront, String.empty_append, h.not_isAbsolute]
    rfl
  · cases init <;> simp [Path.isAbsolute, hfront, hinit]
  · obtain ⟨c, cs, hcs⟩ := List.exists_cons_of_ne_nil (mt String.toList_eq_nil_iff.1 hempty)
    simp [Path.isAbsolute, hfront, hcs]

/-- A path goes the way of its directory and steps to the name. -/
theorem way_join (h : IsPlain name) (directory : String) : Tree.way (Path.join directory name) =
    ((Tree.way directory).1, (Tree.way directory).2 ++ [name]) := by
  obtain ⟨parts, ending, hdirectory, hjoin, hending⟩ := h.exists_splitAll_join directory
  rcases hending with rfl | ⟨rfl, -⟩ <;>
    simp [Tree.way, h.isAbsolute_join, hdirectory, hjoin, h.ne_empty]

theorem trailing_join (h : IsPlain name) (directory : String) :
    Tree.trailing (Path.join directory name) = [] := by
  obtain ⟨parts, ending, -, hjoin, -⟩ := h.exists_splitAll_join directory
  have hname : name.toList ≠ [] := mt String.toList_eq_nil_iff.1 h.ne_empty
  simp [Tree.trailing, hjoin, hname]

/-- The name is a component of its own. -/
theorem components_join (h : IsPlain name) (directory : String) :
    Path.components (Path.join directory name) = Path.components directory ++ [name] := by
  obtain ⟨parts, ending, hdirectory, hjoin, hending⟩ := h.exists_splitAll_join directory
  have hname : name.toList ≠ [] ∧ name.toList ≠ ['.'] :=
    ⟨mt String.toList_eq_nil_iff.1 h.ne_empty, fun hdot => h.ne_dot (String.toList_inj.1 hdot)⟩
  have hadds : ∀ absolute : Bool, ∀ named : List String,
      (if absolute then "/" :: (named ++ [name]) else named ++ [name]) =
        (if absolute then "/" :: named else named) ++ [name] := by
    rintro (_ | _) named <;> rfl
  rcases hending with rfl | ⟨rfl, -⟩ <;>
    simp [Path.components, h.isAbsolute_join, hdirectory, hjoin, List.zipIdx_append, Path.isVoid,
      hname, hadds]

end IsPlain

/-! ## Paths in a tree that changes -/

namespace Tree

variable {tree tree' tree'' : Tree} {path : String}

/-- Every directory of one tree is one of another. -/
def KeepsDirectories (tree tree' : Tree) : Prop :=
  ∀ place, tree.entryAt? place = some .directory → tree'.entryAt? place = some .directory

theorem walk_of_keepsDirectories (hkeeps : KeepsDirectories tree tree') {names : List String}
    {start place : Place} (h : tree.walk start names = .ok place) :
    tree'.walk start names = .ok place := by
  induction names generalizing start with
  | nil => exact h
  | cons name names ih =>
    simp only [walk] at h ⊢
    split at h
    · cases h
    · cases h
    · next hdirectory =>
      rw [hkeeps start hdirectory]
      split at h
      · cases h
      · next hshort =>
        simp only [if_neg hshort]
        split at h
        · next hdot => simpa only [if_pos hdot] using ih h
        · next hdot =>
          simp only [if_neg hdot]
          split at h
          · next hup => simpa only [if_pos hup] using ih h
          · next hup => simpa only [if_neg hup] using ih h

theorem follow_eq_ok_iff {start place : Place} {names : List String} :
    tree.follow path start names = .ok place ↔ '\x00' ∉ path.toList ∧ path ≠ "" ∧
      path.utf8ByteSize ≤ pathLimit ∧ tree.walk start names = .ok place := by
  by_cases hnul : '\x00' ∈ path.toList
  · simp [follow, hnul]
  by_cases hempty : path = ""
  · simp [follow, hempty]
  by_cases hlong : pathLimit < path.utf8ByteSize
  · simp [follow, hnul, hempty, hlong, Nat.not_le_of_lt hlong]
  · simp [follow, hnul, hempty, hlong, Nat.le_of_not_lt hlong]

theorem follow_of_keepsDirectories (hkeeps : KeepsDirectories tree tree') {start place : Place}
    {names : List String} (h : tree.follow path start names = .ok place) :
    tree'.follow path start names = .ok place := by
  obtain ⟨hnul, hempty, hshort, hwalk⟩ := follow_eq_ok_iff.1 h
  exact follow_eq_ok_iff.2 ⟨hnul, hempty, hshort, walk_of_keepsDirectories hkeeps hwalk⟩

theorem locate_of_keepsDirectories (hkeeps : KeepsDirectories tree tree') {place : Place}
    (h : tree.locate path = .ok place) : tree'.locate path = .ok place :=
  follow_of_keepsDirectories hkeeps h

theorem walk_append {names names' : List String} {start place : Place} :
    tree.walk start (names ++ names') = .ok place ↔
      ∃ middle, tree.walk start names = .ok middle ∧ tree.walk middle names' = .ok place := by
  induction names generalizing start with
  | nil => simp [walk]
  | cons segment names ih =>
    simp only [List.cons_append, walk]
    repeat' split
    all_goals first | exact ih | simp

/-- A plain name leads to a place of its own in a directory. -/
theorem walk_name {name : String} (hname : IsPlain name) {start place : Place} :
    tree.walk start [name] = .ok place ↔ tree.entryAt? start = some .directory ∧
      name.utf8ByteSize ≤ nameLimit ∧ start ++ [name] = place := by
  simp only [walk, hname.ne_dot, hname.ne_up, if_false]
  rcases tree.entryAt? start with _ | _ | _
  · simp
  · simp
  · by_cases hlong : nameLimit < name.utf8ByteSize
    · simp [hlong, Nat.not_le_of_lt hlong]
    · simp [hlong, Nat.le_of_not_lt hlong]

/-- A dot stays where it is, in a directory. -/
theorem walk_dot {start place : Place} :
    tree.walk start ["."] = .ok place ↔ tree.entryAt? start = some .directory ∧ start = place := by
  have hshort : ¬nameLimit < ".".utf8ByteSize := by decide
  simp only [walk, if_neg hshort, if_true]
  rcases tree.entryAt? start with _ | _ | _ <;> simp

/-- When a directory is there, a slash at the end of its path leads nowhere else. -/
theorem locate_iff_locateNew {place : Place} (hthere : tree.entryAt? place = some .directory) :
    tree.locate path = .ok place ↔ tree.locateNew path = .ok place := by
  simp only [locate, locateNew, follow_eq_ok_iff]
  rcases trailing_cases path with hplain | hdot
  · simp [hplain]
  · simp [hdot, walk_append, walk_dot, hthere]

section Join

variable {name directory : String} {home place : Place}

/-- A name under a directory leads to a place in that of the directory. -/
theorem locate_join_eq_ok_iff (hname : IsPlain name) (hnul : '\x00' ∉ name.toList)
    (hhome : tree.locate directory = .ok home) (hthere : tree.entryAt? home = some .directory) :
    tree.locate (Path.join directory name) = .ok place ↔ name.utf8ByteSize ≤ nameLimit ∧
      (Path.join directory name).utf8ByteSize ≤ pathLimit ∧ home ++ [name] = place := by
  obtain ⟨hfree, hnonempty, -, hwalk⟩ :=
    follow_eq_ok_iff.1 ((locate_iff_locateNew hthere).1 hhome)
  have hfree' : '\x00' ∉ (Path.join directory name).toList := by
    simp [hname.join_eq, Path.notMem_front (by decide) hfree, hnul]
  have hnonempty' := Path.join_ne_empty directory hname.ne_empty
  rw [locate, follow_eq_ok_iff, hname.way_join, hname.trailing_join]
  simp [walk_append, hwalk, walk_name hname, hfree', hnonempty', hthere, and_left_comm]

theorem getLast?_locate_join (hname : IsPlain name)
    (h : tree.locate (Path.join directory name) = .ok place) : place.getLast? = some name := by
  rw [locate, hname.way_join, hname.trailing_join, List.append_nil] at h
  obtain ⟨-, -, -, hwalk⟩ := follow_eq_ok_iff.1 h
  obtain ⟨middle, -, hname'⟩ := walk_append.1 hwalk
  obtain ⟨-, -, rfl⟩ := (walk_name hname).1 hname'
  exact List.getLast?_concat

end Join

/-! ## What a path leads to -/

theorem resolve_eq_ok_iff {place : Place} {entry : Entry} :
    tree.resolve path = .ok (place, entry) ↔
      tree.locate path = .ok place ∧ tree.entryAt? place = some entry := by
  constructor
  · intro h
    obtain ⟨place', hlocate, hentry⟩ := ok_bind_iff.1 h
    split at hentry
    · next hthere =>
      cases hentry
      exact ⟨hlocate, hthere⟩
    · cases hentry
  · rintro ⟨hlocate, hentry⟩
    simp only [resolve, hlocate, hentry, bind, Except.bind]

theorem isDirectory_iff : tree.isDirectory path = true ↔
    ∃ place, tree.locate path = .ok place ∧ tree.entryAt? place = some .directory := by
  simp only [isDirectory, ← resolve_eq_ok_iff]
  rcases tree.resolve path with _ | ⟨place, _ | _⟩ <;> simp

/-! ## Making directories -/

/-- Whatever one tree has, the other has. -/
def Grows (tree tree' : Tree) : Prop :=
  ∀ place entry, tree.entryAt? place = some entry → tree'.entryAt? place = some entry

theorem Grows.keepsDirectories (h : Grows tree tree') : KeepsDirectories tree tree' :=
  fun place => h place .directory

/-- Every place is as it was, or was empty and has a directory. -/
def AddsDirectories (tree tree' : Tree) : Prop :=
  ∀ place, tree'.entryAt? place = tree.entryAt? place ∨
    tree.entryAt? place = none ∧ tree'.entryAt? place = some .directory

namespace AddsDirectories

theorem refl (tree : Tree) : AddsDirectories tree tree := fun _ => .inl rfl

theorem trans (h : AddsDirectories tree tree') (h' : AddsDirectories tree' tree'') :
    AddsDirectories tree tree'' := by
  intro place
  rcases h place with hsame | ⟨hnone, hmade⟩
  · rw [← hsame]
    exact h' place
  · rcases h' place with hsame | ⟨hnone', -⟩
    · exact .inr ⟨hnone, hsame.trans hmade⟩
    · cases hmade.symm.trans hnone'

theorem grows (h : AddsDirectories tree tree') : Grows tree tree' := by
  intro place entry hentry
  rcases h place with hsame | ⟨hnone, -⟩
  · exact hsame.trans hentry
  · cases hnone.symm.trans hentry

end AddsDirectories

theorem isFixed_of_ne_directory {place : Place} (h : tree.entryAt? place ≠ some .directory) :
    isFixed place = false := by
  cases hfixed : isFixed place with
  | false => rfl
  | true => exact absurd (by simp [entryAt?, hfixed]) h

/-- A directory is made at the empty place that its path leads to. -/
theorem makeDirectory_eq_ok (h : tree.makeDirectory path = .ok tree') :
    ∃ place, tree.locateNew path = .ok place ∧ tree.entryAt? place = none ∧
      isFixed place = false ∧ tree' = tree.put place .directory := by
  obtain ⟨place, hlocate, h⟩ := ok_bind_iff.1 h
  split at h
  · cases h
  · next hnone =>
    have hne : tree.entryAt? place ≠ some .directory := by simp [hnone]
    split at h
    · cases h
      exact ⟨place, hlocate, hnone, isFixed_of_ne_directory hne, rfl⟩
    · cases h

theorem addsDirectories_makeDirectory (h : tree.makeDirectory path = .ok tree') :
    AddsDirectories tree tree' := by
  obtain ⟨place, -, hnone, hfree, rfl⟩ := makeDirectory_eq_ok h
  intro other
  by_cases hother : other = place
  · subst hother
    exact .inr ⟨hnone, entryAt?_put_self hfree tree _⟩
  · exact .inl (entryAt?_put_of_ne hother tree _)

theorem isDirectory_makeDirectory (h : tree.makeDirectory path = .ok tree') :
    tree'.isDirectory path = true := by
  have hkeeps := (addsDirectories_makeDirectory h).grows.keepsDirectories
  obtain ⟨place, hlocate, -, hfree, rfl⟩ := makeDirectory_eq_ok h
  have hthere := entryAt?_put_self hfree tree .directory
  exact isDirectory_iff.2 ⟨place,
    (locate_iff_locateNew hthere).2 (follow_of_keepsDirectories hkeeps hlocate), hthere⟩

/-- What is left to do once the directories above are there. -/
theorem makeDirectoriesAux_succ_eq_ok {fuel : Nat}
    (h : makeDirectoriesAux (fuel + 1) tree path = .ok tree') :
    path = "" ∧ tree' = tree ∨
      ∃ ready, (ready = tree ∨ ∃ up, makeDirectoriesAux fuel tree up = .ok ready) ∧
        (ready.makeDirectory path = .ok tree' ∨ ready.isDirectory path = true ∧ tree' = ready) := by
  simp only [makeDirectoriesAux] at h
  split at h
  · next hempty =>
    cases h
    exact .inl ⟨by simpa using hempty, rfl⟩
  · refine .inr ?_
    split at h
    · next hmade =>
      cases h
      exact ⟨tree, .inl rfl, .inl hmade⟩
    · split at h
      · cases h
      · next up _ =>
        obtain ⟨above, habove, h⟩ := ok_bind_iff.1 h
        refine ⟨above, .inr ⟨up, habove⟩, ?_⟩
        split at h
        · next hmade =>
          cases h
          exact .inl hmade
        · split at h
          · next hthere =>
            cases h
            exact .inr ⟨hthere, rfl⟩
          · cases h
    · split at h
      · next hthere =>
        cases h
        exact ⟨tree, .inl rfl, .inr ⟨hthere, rfl⟩⟩
      · cases h

/-- The directories above are made first. -/
theorem addsDirectories_makeDirectoriesAux {fuel : Nat}
    (h : makeDirectoriesAux fuel tree path = .ok tree') : AddsDirectories tree tree' := by
  induction fuel generalizing tree tree' path with
  | zero =>
    cases h
    exact .refl tree
  | succ fuel ih =>
    rcases makeDirectoriesAux_succ_eq_ok h with ⟨-, rfl⟩ | ⟨ready, habove, hmade⟩
    · exact .refl tree'
    · have hready : AddsDirectories tree ready := by
        rcases habove with rfl | ⟨up, habove⟩
        · exact .refl ready
        · exact ih habove
      rcases hmade with hmade | ⟨-, rfl⟩
      · exact hready.trans (addsDirectories_makeDirectory hmade)
      · exact hready

theorem addsDirectories_makeDirectories (h : tree.makeDirectories path = .ok tree') :
    AddsDirectories tree tree' :=
  addsDirectories_makeDirectoriesAux h

theorem grows_makeDirectories (h : tree.makeDirectories path = .ok tree') : Grows tree tree' :=
  (addsDirectories_makeDirectories h).grows

/-- A path that was asked for leads to a directory. -/
theorem isDirectory_makeDirectories (h : tree.makeDirectories path = .ok tree')
    (hpath : path ≠ "") : tree'.isDirectory path = true := by
  rcases makeDirectoriesAux_succ_eq_ok h with ⟨hempty, -⟩ | ⟨ready, -, hmade | ⟨hthere, rfl⟩⟩
  · exact absurd hempty hpath
  · exact isDirectory_makeDirectory hmade
  · exact hthere

theorem entryAt?_of_makeDirectories {place : Place} (h : tree.makeDirectories path = .ok tree')
    (hpath : path ≠ "") (hlocate : tree'.locate path = .ok place) :
    tree'.entryAt? place = some .directory := by
  obtain ⟨place', hlocate', hthere⟩ := isDirectory_iff.1 (isDirectory_makeDirectories h hpath)
  cases hlocate.symm.trans hlocate'
  exact hthere

/-! ## Writing and reading -/

section Write

variable {content content' : ByteArray}

theorem read_eq_ok_iff : tree.read path = .ok content ↔
    ∃ place, tree.locate path = .ok place ∧ tree.entryAt? place = some (.file content) := by
  constructor
  · intro h
    obtain ⟨⟨place, entry⟩, hresolve, h⟩ := ok_bind_iff.1 h
    cases entry with
    | file bytes =>
      cases h
      exact ⟨place, resolve_eq_ok_iff.1 hresolve⟩
    | directory => cases h
  · rintro ⟨place, hfile⟩
    simp only [read, resolve_eq_ok_iff.2 hfile, bind, Except.bind]

/-- A file is written to the place that its path leads to, which is no directory. -/
theorem write_eq_ok (h : tree.write path content = .ok tree') :
    ∃ place, tree.locate path = .ok place ∧ tree.entryAt? place ≠ some .directory ∧
      tree' = tree.put place (.file content) := by
  obtain ⟨place, hlocate, h⟩ := ok_bind_iff.1 h
  refine ⟨place, hlocate, ?_⟩
  split at h
  · cases h
  · next hfile =>
    cases h
    exact ⟨by simp [hfile], rfl⟩
  · next hnone =>
    split at h
    · cases h
      exact ⟨by simp [hnone], rfl⟩
    · cases h

/-- A file of a plain name is written into the directory unless a limit or a directory of that name
is in the way. -/
theorem write_join_eq_ok_iff {name directory : String} {home : Place} (hname : IsPlain name)
    (hnul : '\x00' ∉ name.toList) (hhome : tree.locate directory = .ok home)
    (hthere : tree.entryAt? home = some .directory) :
    tree.write (Path.join directory name) content = .ok tree' ↔
      name.utf8ByteSize ≤ nameLimit ∧ (Path.join directory name).utf8ByteSize ≤ pathLimit ∧
        tree.entryAt? (home ++ [name]) ≠ some .directory ∧
        tree' = tree.put (home ++ [name]) (.file content) := by
  constructor
  · intro h
    obtain ⟨place, hlocate, hentry, rfl⟩ := write_eq_ok h
    obtain ⟨hshort, hpath, rfl⟩ := (locate_join_eq_ok_iff hname hnul hhome hthere).1 hlocate
    exact ⟨hshort, hpath, hentry, rfl⟩
  · rintro ⟨hshort, hpath, hentry, rfl⟩
    have hlocate := (locate_join_eq_ok_iff hname hnul hhome hthere).2 ⟨hshort, hpath, rfl⟩
    have hparent : tree.parentThere (home ++ [name]) = true := by
      simp only [parentThere, List.dropLast_concat, hthere]
    simp only [write, hlocate, bind, Except.bind]
    rcases hold : tree.entryAt? (home ++ [name]) with _ | _ | _
    · simp only [hparent, if_true]
    · rfl
    · exact absurd hold hentry

theorem keepsDirectories_put {place : Place} (h : tree.entryAt? place ≠ some .directory)
    (entry : Entry) : KeepsDirectories tree (tree.put place entry) := by
  intro other hother
  have hne : other ≠ place := by
    rintro rfl
    exact h hother
  rwa [entryAt?_put_of_ne hne]

theorem keepsDirectories_write (h : tree.write path content = .ok tree') :
    KeepsDirectories tree tree' := by
  obtain ⟨place, -, hentry, rfl⟩ := write_eq_ok h
  exact keepsDirectories_put hentry _

theorem read_write_self (h : tree.write path content = .ok tree') :
    tree'.read path = .ok content := by
  have hkeeps := keepsDirectories_write h
  obtain ⟨place, hlocate, hentry, rfl⟩ := write_eq_ok h
  have hfree := isFixed_of_ne_directory hentry
  exact read_eq_ok_iff.2
    ⟨place, locate_of_keepsDirectories hkeeps hlocate, entryAt?_put_self hfree tree _⟩

/-- A file that a path of another place leads to stays as it was. -/
theorem read_write_of_ne {other : String} (h : tree.write path content = .ok tree')
    (hread : tree.read other = .ok content')
    (hne : ∀ place, tree.locate path = .ok place → tree.locate other ≠ .ok place) :
    tree'.read other = .ok content' := by
  have hkeeps := keepsDirectories_write h
  obtain ⟨place, hlocate, -, rfl⟩ := write_eq_ok h
  obtain ⟨place', hlocate', hentry⟩ := read_eq_ok_iff.1 hread
  have hplaces : place' ≠ place := by
    rintro rfl
    exact hne _ hlocate hlocate'
  refine read_eq_ok_iff.2 ⟨place', locate_of_keepsDirectories hkeeps hlocate', ?_⟩
  rwa [entryAt?_put_of_ne hplaces]

theorem read_of_grows (h : Grows tree tree') (hread : tree.read path = .ok content) :
    tree'.read path = .ok content := by
  obtain ⟨place, hlocate, hentry⟩ := read_eq_ok_iff.1 hread
  exact read_eq_ok_iff.2
    ⟨place, locate_of_keepsDirectories h.keepsDirectories hlocate, h place _ hentry⟩

theorem readText_of_read {s : String} (h : tree.read path = .ok s.toUTF8) :
    tree.readText path = .ok s := by
  have hvalid : String.fromUTF8? s.toUTF8 = some s := dif_pos s.isValidUTF8
  simp only [readText, h, bind, Except.bind, hvalid]

end Write

end Tree

end Files
end Walkthrough
