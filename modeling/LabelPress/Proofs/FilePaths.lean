import LabelPress.CommandLine.Memory
import LabelPress.Proofs.JsonTokens

/-!
# Files in a directory

A file in a directory is found by the path of the directory and its name. What the directory's path
leads to depends on the directories of the tree alone, so a file that is written moves no other.

* `FileTree.Slot`: where a file of a given name stands in a directory.
* `FileTree.write_joinPath_iff`, `FileTree.read_joinPath_iff`: files are written and read there.
* `FileTree.slot_put`: **a file that is written leaves every place where it is**.
* `FileTree.Slot.place_eq_iff`: files of two names do not stand in one place.
* `FileTree.files_createDirectory`: directories are created beside the files.
-/

namespace LabelPress.CommandLine

open LabelPress.Text

/-! ## Paths -/

section Paths

variable {sep : Char} {s t : List Char} {directory name : String}

theorem splitAll_ne_nil (sep : Char) (s : List Char) : splitAll sep s ≠ [] := by
  cases s with
  | nil => simp [splitAll]
  | cons c s =>
    unfold splitAll
    split
    · simp
    · split <;> simp

theorem splitAll_of_not_mem (h : sep ∉ s) : splitAll sep s = [s] := by
  induction s with
  | nil => rfl
  | cons c s ih =>
    simp only [List.mem_cons, not_or] at h
    simp [splitAll, Ne.symm h.1, ih h.2]

/-- What follows on the last separator is a part of its own. -/
theorem splitAll_append (s : List Char) (h : sep ∉ t) :
    splitAll sep (s ++ sep :: t) = splitAll sep s ++ [t] := by
  induction s with
  | nil => simp [splitAll, splitAll_of_not_mem h]
  | cons c s ih =>
    simp only [List.cons_append, splitAll, ih]
    by_cases hc : c = sep
    · simp [hc]
    · simp only [if_neg hc]
      cases hs : splitAll sep s with
      | nil => exact absurd hs (splitAll_ne_nil sep s)
      | cons part parts => simp

theorem endsWith_iff {s t : String} : s.endsWith t = true ↔ t.toList <:+ s.toList := by
  rw [String.endsWith_eq_endsWith_toSlice, String.Slice.endsWith_string_iff, String.copy_toSlice]

/-- A name under which a file can stand in a directory. -/
structure IsFileName (name : String) : Prop where
  slash : '/' ∉ name.toList
  ne_empty : name ≠ ""
  ne_dot : name ≠ "."
  ne_dots : name ≠ ".."

/-- The path of a directory up to the slash before the names in it. -/
def stem (directory : String) : List Char :=
  if directory.endsWith "/" then directory.toList.dropLast else directory.toList

theorem toList_joinPath (directory name : String) :
    (joinPath directory name).toList = stem directory ++ '/' :: name.toList := by
  unfold joinPath stem
  split
  · rename_i h
    obtain ⟨front, hfront⟩ := endsWith_iff.1 h
    rw [String.toList_append, ← hfront]
    simp
  · simp

theorem names_joinPath (h : '/' ∉ name.toList) :
    names (joinPath directory name) =
      (splitAll '/' (stem directory)).map String.ofList ++ [name] := by
  simp [names, toList_joinPath, splitAll_append _ h]

theorem startOf_joinPath (directory name : String) :
    startOf (joinPath directory name) = startOf (joinPath directory "") := by
  have hstart : ∀ name, (joinPath directory name).startsWith "/" = true ↔
      (stem directory).head?.getD '/' = '/' := by
    intro name
    rw [String.startsWith_string_iff, toList_joinPath]
    cases stem directory with
    | nil => simp
    | cons c s => simp [eq_comm]
  unfold startOf
  simp only [hstart]

theorem endsWith_joinPath (h : IsFileName name) :
    (joinPath directory name).endsWith "/" = false := by
  have hne : name.toList ≠ [] := by simpa using h.ne_empty
  obtain ⟨front, c, hname⟩ := List.eq_nil_or_concat name.toList |>.resolve_left hne
  have hc : c ≠ '/' := by
    rintro rfl
    exact h.slash (by simp [hname])
  rw [Bool.eq_false_iff, ne_eq, endsWith_iff, toList_joinPath, hname]
  intro ⟨above, habove⟩
  have hlast := congrArg List.getLast? habove
  rw [List.getLast?_append, List.concat_eq_append, ← List.cons_append, ← List.append_assoc,
    List.getLast?_append] at hlast
  have hslash : '/' = c := by simpa using hlast
  exact hc hslash.symm

end Paths

/-! ## Places -/

namespace FileTree

open LabelPress.Json (bind_eq_ok_iff)

variable {tree tree' : FileTree} {directory name name' : String} {place place' moved : Location}
  {start inside : Option Location} {bytes : List UInt8}

theorem lookup_filter_ne (h : place ≠ moved) (files : List (Location × List UInt8)) :
    (files.filter (·.1 ≠ moved)).lookup place = files.lookup place := by
  induction files with
  | nil => rfl
  | cons file files ih =>
    obtain ⟨here, content⟩ := file
    by_cases hhere : here = moved
    · rw [List.filter_cons_of_neg (by simp [hhere]), ih, List.lookup_cons, hhere,
        beq_eq_false_iff_ne.2 h]
    · rw [List.filter_cons_of_pos (by simp [hhere]), List.lookup_cons, List.lookup_cons, ih]

/-- A file that is put at a location leaves those at others. -/
theorem lookup_put_of_ne (h : place ≠ moved) :
    (tree.put moved bytes).files.lookup place = tree.files.lookup place := by
  rw [put, List.lookup_cons, beq_eq_false_iff_ne.2 h]
  exact lookup_filter_ne h tree.files

/-- A file that is written is no directory, and takes none away. -/
theorem entry_put_iff : (tree.put moved bytes).entry start name = .ok (.directory inside) ↔
    tree.entry start name = .ok (.directory inside) := by
  unfold entry
  split_ifs <;> try rfl
  cases start with
  | none => rfl
  | some above =>
    dsimp only
    by_cases hdirectory : above ++ [name] ∈ tree.directories
    · simp [put, hdirectory]
    · rw [if_neg hdirectory, if_neg (show _ ∉ (tree.put moved bytes).directories from hdirectory)]
      cases (tree.put moved bytes).files.lookup (above ++ [name]) <;>
        cases tree.files.lookup (above ++ [name]) <;> simp

theorem enter_eq_ok_iff :
    tree.enter start name = .ok inside ↔ tree.entry start name = .ok (.directory inside) := by
  unfold enter
  rw [bind_eq_ok_iff]
  constructor
  · rintro ⟨entry, hentry, h⟩
    cases entry with
    | directory place =>
      cases h
      exact hentry
    | file _ _ => cases h
    | absent _ => cases h
  · intro h
    exact ⟨_, h, rfl⟩

theorem foldlM_enter_put_iff {names : List String} :
    names.foldlM (tree.put moved bytes).enter start = .ok inside ↔
      names.foldlM tree.enter start = .ok inside := by
  induction names generalizing start with
  | nil => rfl
  | cons name names ih =>
    simp only [List.foldlM_cons, bind_eq_ok_iff, enter_eq_ok_iff, entry_put_iff, ih]

/-- The directory that a path leads to. -/
def directoryOf (tree : FileTree) (directory : String) : Except FileFault (Option Location) :=
  ((splitAll '/' (stem directory)).map String.ofList).foldlM tree.enter
    (startOf (joinPath directory ""))

theorem find_joinPath (h : IsFileName name) :
    tree.find (startOf (joinPath directory name)) (names (joinPath directory name)) =
      tree.directoryOf directory >>= fun inside => tree.entry inside name := by
  simp [find, names_joinPath h.slash, startOf_joinPath directory name, directoryOf]

theorem dropSlashes_joinPath (h : IsFileName name) :
    dropSlashes (names (joinPath directory name)) = names (joinPath directory name) := by
  simp [dropSlashes, names_joinPath h.slash, h.ne_empty]

/-- In a directory of the tree, a file of this name stands at this place, or can be made there. -/
structure Slot (tree : FileTree) (directory name : String) (place : Location) : Prop where
  path : checkPath (joinPath directory name) = .ok ()
  size : name.utf8ByteSize ≤ maxName
  inside : ∃ above, tree.directoryOf directory = .ok (some above) ∧ place = above ++ [name]
  vacant : place ∉ tree.directories

/-- Files move nothing. -/
theorem slot_put :
    (tree.put moved bytes).Slot directory name place ↔ tree.Slot directory name place := by
  have hdirectory : ∀ above, (tree.put moved bytes).directoryOf directory = .ok (some above) ↔
      tree.directoryOf directory = .ok (some above) := fun above => foldlM_enter_put_iff
  constructor
  · intro ⟨hpath, hsize, hinside, hvacant⟩
    simp only [hdirectory] at hinside
    exact ⟨hpath, hsize, hinside, hvacant⟩
  · intro ⟨hpath, hsize, hinside, hvacant⟩
    simp only [← hdirectory] at hinside
    exact ⟨hpath, hsize, hinside, hvacant⟩

/-- Two names stand in one place only if they are the same. -/
theorem Slot.place_eq_iff (h : tree.Slot directory name place)
    (h' : tree.Slot directory name' place') : place = place' ↔ name = name' := by
  obtain ⟨above, hdirectory, rfl⟩ := h.inside
  obtain ⟨above', hdirectory', rfl⟩ := h'.inside
  have habove : above = above' := by simpa [hdirectory] using hdirectory'
  simp [habove]

theorem entry_of_isFileName (h : IsFileName name) (hsize : name.utf8ByteSize ≤ maxName)
    (inside : Option Location) : tree.entry inside name =
      match inside with
      | none => .ok (.absent none)
      | some above =>
        if above ++ [name] ∈ tree.directories then .ok (.directory (some (above ++ [name])))
        else match tree.files.lookup (above ++ [name]) with
          | some bytes => .ok (.file (above ++ [name]) bytes)
          | none => .ok (.absent (some (above ++ [name]))) := by
  have hdot : ¬(name = "" ∨ name = ".") := by simp [h.ne_empty, h.ne_dot]
  unfold entry
  exact (if_neg hdot).trans ((if_neg h.ne_dots).trans (if_neg (Nat.not_lt.2 hsize)))

/-- A path leads to a file at this place, or to no more than a directory for it. -/
def LeadsTo (tree : FileTree) (path : String) (place : Location) : Prop :=
  (∃ old, tree.find (startOf path) (dropSlashes (names path)) = .ok (.file place old)) ∨
    tree.find (startOf path) (dropSlashes (names path)) = .ok (.absent (some place))

/-- A file is written where its path leads to. -/
theorem write_eq_ok_iff {path : String} : tree.write path bytes = .ok tree' ↔
    checkPath path = .ok () ∧ path.endsWith "/" = false ∧
      ∃ place, tree.LeadsTo path place ∧ tree' = tree.put place bytes := by
  unfold write LeadsTo
  rw [bind_eq_ok_iff]
  simp only [bind_eq_ok_iff]
  cases hslash : path.endsWith "/" with
  | true =>
    refine iff_of_false ?_ (by simp)
    intro ⟨_, _, _, _, hthrow⟩
    cases hthrow
  | false =>
    constructor
    · intro ⟨_, hcheck, entry, hfind, hentry⟩
      refine ⟨hcheck, rfl, ?_⟩
      cases entry with
      | directory _ => cases hentry
      | file place old =>
        cases hentry
        exact ⟨place, .inl ⟨old, hfind⟩, rfl⟩
      | absent place =>
        cases place with
        | none => cases hentry
        | some place =>
          cases hentry
          exact ⟨place, .inr hfind, rfl⟩
    · intro ⟨hcheck, _, place, hleads, htree⟩
      subst htree
      rcases hleads with ⟨old, hfind⟩ | hfind
      · exact ⟨(), hcheck, _, hfind, rfl⟩
      · exact ⟨(), hcheck, _, hfind, rfl⟩

/-- A path in a directory leads to the place of its name there. -/
theorem leadsTo_joinPath_iff (h : IsFileName name) :
    tree.LeadsTo (joinPath directory name) place ↔ name.utf8ByteSize ≤ maxName ∧
      (∃ above, tree.directoryOf directory = .ok (some above) ∧ place = above ++ [name]) ∧
      place ∉ tree.directories := by
  unfold LeadsTo
  rw [dropSlashes_joinPath h, find_joinPath h]
  cases tree.directoryOf directory with
  | error fault => simp [bind, Except.bind]
  | ok inside =>
    show (∃ old, tree.entry inside name = .ok (.file place old)) ∨
      tree.entry inside name = .ok (.absent (some place)) ↔ _
    by_cases hsize : name.utf8ByteSize ≤ maxName
    · rw [entry_of_isFileName h hsize]
      cases inside with
      | none => simp
      | some above =>
        dsimp only
        by_cases hplace : place = above ++ [name]
        · rw [hplace]
          by_cases hdirectory : above ++ [name] ∈ tree.directories
          · simp [hdirectory]
          · cases hfile : tree.files.lookup (above ++ [name]) <;> simp [hsize, hdirectory]
        · cases tree.files.lookup (above ++ [name]) <;> split <;> simp [hplace, eq_comm]
    · simp [entry, h.ne_empty, h.ne_dot, h.ne_dots, hsize, Nat.lt_of_not_le]

/-- The place of a file is where its path leads to. -/
theorem slot_iff (h : IsFileName name) : tree.Slot directory name place ↔
    checkPath (joinPath directory name) = .ok () ∧ tree.LeadsTo (joinPath directory name) place := by
  rw [leadsTo_joinPath_iff h]
  constructor
  · intro ⟨hpath, hsize, hinside, hvacant⟩
    exact ⟨hpath, hsize, hinside, hvacant⟩
  · intro ⟨hpath, hsize, hinside, hvacant⟩
    exact ⟨hpath, hsize, hinside, hvacant⟩

/-- A file is written in the place that its directory has for its name, if there is one. -/
theorem write_joinPath_iff (h : IsFileName name) :
    tree.write (joinPath directory name) bytes = .ok tree' ↔
      ∃ place, tree.Slot directory name place ∧ tree' = tree.put place bytes := by
  rw [write_eq_ok_iff]
  simp only [slot_iff h, endsWith_joinPath h, true_and, and_assoc, exists_and_left]

/-- In the place of its name a file is read. -/
theorem read_joinPath_iff (h : IsFileName name) (hslot : tree.Slot directory name place) :
    tree.read (joinPath directory name) = .ok bytes ↔ tree.files.lookup place = some bytes := by
  obtain ⟨above, hdirectory, hplace⟩ := hslot.inside
  have hfind : tree.find (startOf (joinPath directory name)) (names (joinPath directory name)) =
      match tree.files.lookup place with
      | some bytes => .ok (.file place bytes)
      | none => .ok (.absent (some place)) := by
    rw [find_joinPath h, hdirectory, hplace]
    show tree.entry (some above) name = _
    rw [entry_of_isFileName h hslot.size]
    dsimp only
    rw [← hplace, if_neg hslot.vacant]
  rw [read, hslot.path]
  show (tree.find _ _ >>= _) = _ ↔ _
  rw [hfind]
  cases tree.files.lookup place with
  | none => exact iff_of_false nofun nofun
  | some old => simp [bind, Except.bind, pure, Except.pure]

/-- Directories are created beside the files. -/
theorem files_createFrom {place : Option Location} {names : List String}
    (h : tree.createFrom place names = .ok tree') : tree'.files = tree.files := by
  induction names generalizing tree place with
  | nil =>
    cases h
    rfl
  | cons name names ih =>
    rw [createFrom, bind_eq_ok_iff] at h
    obtain ⟨entry, -, h⟩ := h
    cases entry with
    | directory place => exact ih h
    | file _ _ => cases h
    | absent place =>
      cases place with
      | none => cases h
      | some place => exact (ih h).trans rfl

theorem files_createDirectory (h : tree.createDirectory directory = .ok tree') :
    tree'.files = tree.files := by
  rw [createDirectory, bind_eq_ok_iff] at h
  obtain ⟨-, -, h⟩ := h
  dsimp only at h
  split at h
  · rw [bind_eq_ok_iff] at h
    obtain ⟨place, -, h⟩ := h
    cases h
    rfl
  · exact files_createFrom h

end FileTree

end LabelPress.CommandLine
