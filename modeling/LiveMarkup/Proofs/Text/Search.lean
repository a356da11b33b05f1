import LiveMarkup.Text.Search

/-!
# First occurrences

A text is cut at the first place where a mark stands: what is in front holds no part of another
occurrence (`Text.cutAt_eq_some_iff`), and nothing is cut exactly when the mark does not occur
(`Text.cutAt_eq_none_iff`).
-/

set_option autoImplicit false

namespace LiveMarkup.Text

variable {mark before after cs : List Char}

/-- Whether a mark behind these characters stands there first: none stands in them or begins in them. -/
def FirstBehind (mark before : List Char) : Prop := ¬ mark <:+: before ++ mark.dropLast

theorem firstBehind_nil (given : mark ≠ []) : FirstBehind mark [] := by
  intro occurs
  have length := occurs.length_le
  rw [List.nil_append, List.length_dropLast] at length
  have positive := List.length_pos_iff.mpr given
  omega

/-- A mark that stands first behind some characters is not in front of them. -/
theorem firstBehind_cons_iff (given : mark ≠ []) {c : Char} (after : List Char) :
    FirstBehind mark (c :: before) ↔
      ¬ mark <+: c :: (before ++ mark ++ after) ∧ FirstBehind mark before := by
  have positive := List.length_pos_iff.mpr given
  have shorter : c :: (before ++ mark.dropLast) <+: c :: (before ++ mark ++ after) := by
    refine List.cons_prefix_cons.mpr ⟨rfl, ?_⟩
    rw [List.append_assoc]
    exact List.prefix_append_right_inj _ |>.mpr
      ((List.dropLast_prefix mark).trans (List.prefix_append mark after))
  -- What is left of the mark at the end cannot be reached by an occurrence that begins in front.
  have starts : mark <+: c :: (before ++ mark.dropLast) ↔ mark <+: c :: (before ++ mark ++ after) := by
    refine ⟨fun h => h.trans shorter, fun h => List.prefix_of_prefix_length_le h shorter ?_⟩
    rw [List.length_cons, List.length_append, List.length_dropLast]
    omega
  rw [FirstBehind, List.cons_append, List.infix_cons_iff, not_or, starts, FirstBehind]

/-- A text is cut at the first occurrence of the mark. -/
theorem cutAt_eq_some_iff (given : mark ≠ []) :
    cutAt mark cs = some (before, after) ↔
      cs = before ++ mark ++ after ∧ FirstBehind mark before := by
  induction cs generalizing before with
  | nil =>
    have open' : mark.isEmpty = false := List.isEmpty_eq_false_iff.mpr given
    rw [cutAt, open', if_neg Bool.false_ne_true]
    refine iff_of_false (Option.some_ne_none _).symm fun h => ?_
    exact given (List.append_eq_nil_iff.mp (List.append_eq_nil_iff.mp h.1.symm).1).2
  | cons c rest ih =>
    rw [cutAt]
    split
    · rename_i here
      rw [List.isPrefixOf_iff_prefix] at here
      cases before with
      | nil =>
        obtain ⟨behind, text⟩ := here
        rw [← text, List.drop_left, List.nil_append, List.append_cancel_left_eq, Option.some.injEq,
          Prod.mk.injEq]
        exact ⟨fun h => ⟨h.2, firstBehind_nil given⟩, fun h => ⟨rfl, h.1⟩⟩
      | cons d before =>
        refine iff_of_false (by simp) fun h => ?_
        obtain ⟨rfl, tail⟩ := List.cons.inj h.1
        rw [tail] at here
        exact ((firstBehind_cons_iff given after).mp h.2).1 here
    · rename_i there
      rw [List.isPrefixOf_iff_prefix] at there
      cases before with
      | nil =>
        refine iff_of_false (by simp [Option.map_eq_some_iff]) fun h => ?_
        exact there (h.1 ▸ List.prefix_append mark after)
      | cons d before =>
        have found : (cutAt mark rest).map (fun cut => (c :: cut.1, cut.2)) = some (d :: before, after) ↔
            c = d ∧ cutAt mark rest = some (before, after) := by
          cases cutAt mark rest with
          | none => simp
          | some cut => simp [Prod.ext_iff, and_assoc]
        refine found.trans ?_
        rw [ih, firstBehind_cons_iff given after, List.cons_append, List.cons_append, List.cons.injEq]
        constructor
        · rintro ⟨rfl, rfl, first⟩
          exact ⟨⟨rfl, rfl⟩, there, first⟩
        · rintro ⟨⟨rfl, rfl⟩, -, first⟩
          exact ⟨rfl, rfl, first⟩

/-- A text can be split at the first occurrence of a mark in one way only. -/
theorem append_inj_of_firstBehind (given : mark ≠ []) {before' after' : List Char}
    (first : FirstBehind mark before) (first' : FirstBehind mark before')
    (same : before ++ mark ++ after = before' ++ mark ++ after') : before = before' ∧ after = after' := by
  have cut : cutAt mark (before ++ mark ++ after) = some (before, after) :=
    (cutAt_eq_some_iff given).mpr ⟨rfl, first⟩
  rw [(cutAt_eq_some_iff given).mpr ⟨same, first'⟩] at cut
  obtain ⟨fronts, behinds⟩ := Prod.mk.inj (Option.some.inj cut)
  exact ⟨fronts.symm, behinds.symm⟩

theorem cutAt_eq_none_iff (given : mark ≠ []) : cutAt mark cs = none ↔ ¬ mark <:+: cs := by
  induction cs with
  | nil =>
    have open' : mark.isEmpty = false := List.isEmpty_eq_false_iff.mpr given
    rw [cutAt, open', if_neg Bool.false_ne_true, List.infix_nil]
    exact iff_of_true rfl given
  | cons c rest ih =>
    rw [cutAt, List.infix_cons_iff, ← List.isPrefixOf_iff_prefix]
    split
    · rename_i here
      exact iff_of_false (Option.some_ne_none _) (not_not_intro (.inl here))
    · rename_i there
      rw [Option.map_eq_none_iff, ih, not_or]
      exact ⟨fun h => ⟨there, h⟩, fun h => h.2⟩

/-- What begins with a character is found where that character stands first. -/
theorem cutAt_append {c : Char} (absent : c ∉ before) (mark after : List Char) :
    cutAt (c :: mark) (before ++ c :: (mark ++ after)) = some (before, after) := by
  induction before with
  | nil => simp [cutAt]
  | cons d rest ih =>
    rw [List.mem_cons, not_or] at absent
    rw [List.cons_append, cutAt, ih absent.2]
    simp [absent.1]

theorem cutAt_singleton {c : Char} (absent : c ∉ before) (after : List Char) :
    cutAt [c] (before ++ c :: after) = some (before, after) := cutAt_append absent [] after

end LiveMarkup.Text
