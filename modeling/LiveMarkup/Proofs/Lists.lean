import Mathlib.Data.List.Induction

/-!
# Places in lists

An item of two lists in a row stands in one of them (`append_eq_append_cons_iff`). A list of things
that happen is read from behind: the last item that nothing behind it replaces (`LastOf`), and what a
fold over it leaves, which is what was written last (`read_foldl`).
-/

set_option autoImplicit false

universe u v w

namespace LiveMarkup

/-- An item of two lists in a row stands in the first one or in the second one. -/
theorem append_eq_append_cons_iff {α : Type u} {items others front back : List α} {item : α} :
    items ++ others = front ++ item :: back ↔
      (∃ rest, items = front ++ item :: rest ∧ back = rest ++ others) ∨
        ∃ rest, front = items ++ rest ∧ others = rest ++ item :: back := by
  constructor
  · intro split
    rcases List.append_eq_append_iff.mp split with ⟨rest, fronts, tails⟩ | ⟨rest, fronts, tails⟩
    · exact .inr ⟨rest, fronts, tails⟩
    · cases rest with
      | nil => exact .inr ⟨[], by rw [fronts, List.append_nil, List.append_nil], tails.symm⟩
      | cons first rest =>
        obtain ⟨rfl, rfl⟩ := List.cons.inj tails
        exact .inl ⟨rest, fronts, rfl⟩
  · rintro (⟨rest, rfl, rfl⟩ | ⟨rest, rfl, rfl⟩)
    · rw [List.append_assoc, List.cons_append]
    · rw [List.append_assoc]

/-- An item of a list is its last one or stands before that. -/
theorem concat_eq_append_cons_iff {α : Type u} {items front back : List α} {last item : α} :
    items ++ [last] = front ++ item :: back ↔
      front = items ∧ item = last ∧ back = [] ∨
        ∃ rest, back = rest ++ [last] ∧ items = front ++ item :: rest := by
  rw [append_eq_append_cons_iff, or_comm]
  refine or_congr ⟨?_, ?_⟩ (exists_congr fun rest => and_comm)
  · rintro ⟨rest, rfl, split⟩
    rcases List.singleton_eq_append_iff.mp split with ⟨rfl, single⟩ | ⟨-, none⟩
    · obtain ⟨rfl, rfl⟩ := List.cons.inj single
      exact ⟨List.append_nil items, rfl, rfl⟩
    · exact absurd none (List.cons_ne_nil _ _)
  · rintro ⟨rfl, rfl, rfl⟩
    exact ⟨[], (List.append_nil front).symm, rfl⟩

/-- The item stands in the list, and nothing behind it replaces it. -/
def LastOf {α : Type u} (items : List α) (item : α) (replaces : α → Prop) : Prop :=
  ∃ earlier later, items = earlier ++ item :: later ∧ ∀ other ∈ later, ¬replaces other

section LastOf

variable {α : Type u} {items : List α} {item last : α} {replaces : α → Prop}

theorem not_lastOf_nil : ¬LastOf [] item replaces := by
  rintro ⟨earlier, later, split, -⟩
  simp at split

/-- The last item counts if it is the one, and else, unless it replaces it, those before it. -/
theorem lastOf_concat :
    LastOf (items ++ [last]) item replaces ↔
      last = item ∨ ¬replaces last ∧ LastOf items item replaces := by
  constructor
  · rintro ⟨earlier, later, split, kept⟩
    rcases concat_eq_append_cons_iff.mp split with ⟨-, same, -⟩ | ⟨rest, rfl, before⟩
    · exact .inl same.symm
    · exact .inr ⟨kept last (List.mem_append_right _ (List.mem_singleton_self _)), earlier, rest, before,
        fun other member => kept other (List.mem_append_left _ member)⟩
  · rintro (rfl | ⟨keeps, earlier, later, rfl, kept⟩)
    · exact ⟨items, [], rfl, fun _ member => absurd member List.not_mem_nil⟩
    · refine ⟨earlier, later ++ [last], by simp, fun other member => ?_⟩
      rcases List.mem_append.mp member with member | member
      · exact kept other member
      · rw [List.mem_singleton.mp member]
        exact keeps

end LastOf

/-- Where each step writes something or leaves what is read, what is read after all of them is what was
written last. -/
theorem read_foldl {σ : Type u} {α : Type v} {β : Type w} {read : σ → β} {write? : α → Option β}
    {step : σ → α → σ} (reads : ∀ state item, read (step state item) = (write? item).getD (read state))
    (state : σ) (items : List α) :
    read (items.foldl step state) = ((items.filterMap write?).getLast?).getD (read state) := by
  induction items using List.reverseRecOn with
  | nil => rfl
  | append_singleton items last ih =>
    rw [List.foldl_append, List.foldl_cons, List.foldl_nil, reads, ih, List.filterMap_append]
    cases written : write? last with
    | none => rw [List.filterMap_cons_none written, List.filterMap_nil, List.append_nil, Option.getD_none]
    | some value =>
      rw [List.filterMap_cons_some written, List.filterMap_nil, List.getLast?_concat]
      rfl

end LiveMarkup
