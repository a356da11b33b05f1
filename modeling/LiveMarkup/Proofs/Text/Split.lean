import LiveMarkup.Text.Case
import LiveMarkup.Text.Space
import Mathlib.Data.List.DropRight

/-!
# Pieces of a text

Splitting a text at a character undoes writing pieces with that character between them, as long as no
piece holds it (`Text.split_intercalate`), and no piece of a text holds the character that the text was
split at (`Text.not_mem_of_mem_split`). Trimming leaves a text that trimming leaves alone, whatever is
taken for white space (`Text.trimmed_trimmed`).
-/

set_option autoImplicit false

namespace LiveMarkup.Text

/-! ## Splitting -/

theorem splitAt_eq_splitOnP (sep : Char → Bool) (cs : List Char) :
    splitAt sep cs = cs.splitOnP sep := by
  induction cs with
  | nil => rfl
  | cons c rest ih =>
    rw [splitAt, List.splitOnP_cons_eq_if_modifyHead, ih]
    split
    · rfl
    · cases pieces : rest.splitOnP sep with
      | nil => exact absurd pieces (List.splitOnP_ne_nil sep rest)
      | cons piece pieces => rfl

theorem split_eq (c : Char) (s : String) :
    split (· == c) s = (s.toList.splitOn c).map String.ofList := by
  rw [split, splitAt_eq_splitOnP, List.splitOn_eq_splitOnP]

/-- The pieces in front of a character and those behind it. -/
theorem split_append {c : Char} {mark : String} (single : mark.toList = [c]) (front back : String) :
    split (· == c) (front ++ mark ++ back) = split (· == c) front ++ split (· == c) back := by
  rw [split_eq, split_eq, split_eq, ← List.map_append, ← List.splitOn_append_cons_self,
    String.toList_append, String.toList_append, single, List.append_assoc, List.singleton_append]

theorem not_mem_of_mem_splitOnP {sep : Char → Bool} {cs piece : List Char}
    (member : piece ∈ cs.splitOnP sep) : ∀ c ∈ piece, sep c = false := by
  induction cs generalizing piece with
  | nil =>
    obtain rfl := List.mem_singleton.mp member
    simp
  | cons c rest ih =>
    rw [List.splitOnP_cons_eq_if_modifyHead] at member
    split at member
    · rcases List.mem_cons.mp member with rfl | member
      · simp
      · exact ih member
    · rename_i plain
      cases pieces : rest.splitOnP sep with
      | nil => exact absurd pieces (List.splitOnP_ne_nil sep rest)
      | cons first others =>
        rw [pieces, List.modifyHead_cons] at member
        rcases List.mem_cons.mp member with rfl | member
        · -- The first piece has gained the character in front.
          have firsts : ∀ d ∈ first, sep d = false := ih (pieces ▸ List.mem_cons_self)
          exact List.forall_mem_cons.mpr ⟨Bool.eq_false_iff.mpr plain, firsts⟩
        · exact ih (pieces ▸ List.mem_cons_of_mem _ member)

theorem not_mem_of_mem_split {c : Char} {s piece : String} (member : piece ∈ split (· == c) s) :
    c ∉ piece.toList := by
  rw [split, splitAt_eq_splitOnP] at member
  obtain ⟨cs, listed, rfl⟩ := List.mem_map.mp member
  rw [String.toList_ofList]
  intro held
  have differs := not_mem_of_mem_splitOnP listed c held
  exact absurd differs (by simp)

/-- Pieces without the character are read back from the text in which it stands between them. -/
theorem split_intercalate {c : Char} {mark : String} (single : mark.toList = [c])
    {pieces : List String} (given : pieces ≠ []) (free : ∀ piece ∈ pieces, c ∉ piece.toList) :
    split (· == c) (mark.intercalate pieces) = pieces := by
  have lists : ∀ piece ∈ pieces.map String.toList, c ∉ piece := List.forall_mem_map.mpr free
  have nonempty : pieces.map String.toList ≠ [] := mt List.map_eq_nil_iff.mp given
  have back : String.ofList ∘ String.toList = id := funext fun s => String.ofList_toList
  rw [split_eq, String.toList_intercalate, single, List.splitOn_intercalate c lists nonempty,
    List.map_map, back, List.map_id]

/-- A text is its pieces with the character between them. -/
theorem intercalate_split {c : Char} {mark : String} (single : mark.toList = [c]) (s : String) :
    mark.intercalate (split (· == c) s) = s := by
  have back : String.toList ∘ String.ofList = id := funext fun cs => String.toList_ofList
  rw [← String.toList_inj, String.toList_intercalate, single, split_eq, List.map_map, back, List.map_id,
    List.intercalate_splitOn]

/-! ## Trimming -/

/-- The text without what `space` takes for white space at either end. -/
def trimmed (space : Char → Bool) (s : String) : String :=
  String.ofList ((s.toList.dropWhile space).rdropWhile space)

theorem subset_trimmed (space : Char → Bool) (s : String) :
    (trimmed space s).toList ⊆ s.toList := by
  rw [trimmed, String.toList_ofList]
  exact List.Subset.trans (List.rdropWhile_prefix space _).subset
    (List.dropWhile_suffix space).subset

/-- What is left of a text has no white space to trim. -/
theorem trimmed_trimmed (space : Char → Bool) (s : String) :
    trimmed space (trimmed space s) = trimmed space s := by
  have front : ((s.toList.dropWhile space).rdropWhile space).dropWhile space =
      (s.toList.dropWhile space).rdropWhile space := by
    cases left : (s.toList.dropWhile space).rdropWhile space with
    | nil => rfl
    | cons first rest =>
      -- The first character that is left is the first one that was not dropped in front.
      obtain ⟨dropped, split⟩ : (first :: rest) <+: s.toList.dropWhile space :=
        left ▸ List.rdropWhile_prefix space _
      have plain : space first = false := by
        have head := List.head_dropWhile_not space
          (by rw [← split]; exact List.cons_ne_nil _ _ : s.toList.dropWhile space ≠ [])
        simpa [← split] using head
      rw [List.dropWhile_cons_of_neg (by simp [plain])]
  rw [trimmed, trimmed, String.toList_ofList, front, List.rdropWhile_idempotent]

end LiveMarkup.Text
