import LiveMarkup.Files.Tree
import LiveMarkup.Text.Space

/-!
# What paths lead to

There is a file at a path exactly when its bytes can be read (`FileTree.isFile_iff`). A path that is in
no folder, such as a slash or nothing at all, leads to no file (`FileTree.read_of_parent?_none`).
-/

set_option autoImplicit false

namespace LiveMarkup

namespace Path

theorem trimParts_eq_nil_iff {parts : List String} :
    trimParts parts = [] ↔ ∀ part ∈ parts, stays part = true := by
  rw [trimParts, List.reverse_eq_nil_iff, Text.dropWhile_eq_nil_iff_all, List.all_reverse,
    List.all_eq_true]

/-- What stands before the body of a path stays where it is. -/
theorem stays_of_start {path : String} (h : ∀ part ∈ (start path).2, stays part = true) :
    ∀ part ∈ parts path, stays part = true := by
  rw [start] at h
  split at h
  · rename_i first rest split
    rw [split]
    exact List.forall_mem_cons.mpr ⟨rfl, h⟩
  · rename_i rest split
    rw [split]
    exact List.forall_mem_cons.mpr ⟨rfl, h⟩
  · exact h

/-- A path that is in no folder names nothing. -/
theorem stays_of_parent?_none {path : String} (h : parent? path = none) :
    ∀ part ∈ parts path, stays part = true := by
  apply stays_of_start
  rw [← trimParts_eq_nil_iff]
  rw [parent?] at h
  split at h
  rename_i begin body named
  rw [named]
  split at h
  · assumption
  · cases h
  · assumption
  · split at h <;> cases h

end Path

namespace FileTree

variable {tree : FileTree}

/-- Parts that stay where they are lead back to the folder. -/
theorem walk_of_stays (folder : Folder) {parts : List String}
    (h : ∀ part ∈ parts, Path.stays part = true) :
    tree.walk folder parts = .ok (.folder folder) := by
  induction parts with
  | nil => rw [walk]
  | cons part rest ih =>
    rw [List.forall_mem_cons] at h
    -- Such a part is passed over wherever the walk is.
    cases folder with
    | above => rw [walk, if_pos h.1, ih h.2]
    | below name => rw [walk, if_pos h.1, ih h.2]

/-- A walk ends at a file that is there. -/
theorem contains_of_walk {folder : Folder} {parts name : List String}
    (h : tree.walk folder parts = .ok (.file name)) : tree.files.contains (key name) = true := by
  fun_induction walk tree folder parts with
  | case1 folder => cases h
  | case2 folder part rest stays ih => exact ih h
  | case3 part rest moves climbs ih => exact ih h
  | case4 => cases h
  | case5 part rest moves parts climbs ih => exact ih h
  | case6 part rest moves parts named here folder ih => exact ih h
  | case7 part rest moves parts named here folder file last =>
    obtain rfl : here = name := by simpa using h
    exact file
  | case8 => cases h
  | case9 => cases h
  | case10 => cases h

theorem contains_of_locate {path : String} {name : List String}
    (h : tree.locate path = .ok (.file name)) : tree.files.contains (key name) = true := by
  rw [locate] at h
  cases checked : checkPath path with
  | error error =>
    rw [checked] at h
    cases h
  | ok =>
    rw [checked] at h
    exact contains_of_walk h

/-- There is a file at a path exactly when it can be read. -/
theorem isFile_iff {path : String} : tree.isFile path = true ↔ ∃ bytes, tree.read path = .ok bytes := by
  rw [isFile, read]
  cases found : tree.locate path with
  | error error => simp [bind, Except.bind]
  | ok location =>
    cases location with
    | folder folder => simp [bind, Except.bind]
    | vacant parts => simp [bind, Except.bind]
    | file name =>
      -- The walk has looked for the file already, so reading it cannot miss it.
      have there := contains_of_locate found
      rw [StringMap.contains_eq_isSome, Option.isSome_iff_exists] at there
      obtain ⟨bytes, there⟩ := there
      simp [bind, Except.bind, there]

/-- Nothing can be read from a path that is in no folder. -/
theorem read_of_parent?_none {path : String} (h : Path.parent? path = none) (bytes : ByteArray) :
    tree.read path ≠ .ok bytes := by
  rw [read, locate, walk_of_stays _ (Path.stays_of_parent?_none h)]
  cases checkPath path with
  | error error => simp [bind, Except.bind]
  | ok => simp [bind, Except.bind]

end FileTree

end LiveMarkup
