import LiveMarkup.StringMap
import Mathlib.Data.List.Induction
import Mathlib.Data.List.Pairwise
import Mathlib.Data.List.Sort
import Mathlib.Tactic.ByContra

/-!
# Maps and their entries

A map is built from its own entries (`StringMap.ofList_entries`), and what is bound to its keys determines
it (`StringMap.ext_find?`).
-/

set_option autoImplicit false

universe u

namespace LiveMarkup.StringMap

variable {α : Type u}

theorem insertEntry_of_below {key : String} {value : α} {entries : List (String × α)}
    (below : ∀ entry ∈ entries, entry.1 < key) :
    insertEntry key value entries = entries ++ [(key, value)] := by
  induction entries with
  | nil => rfl
  | cons entry rest ih =>
    rw [List.forall_mem_cons] at below
    rw [insertEntry, if_neg (String.lt_asymm below.1), if_pos below.1, ih below.2]
    rfl

theorem entries_foldl_insert {before bindings : List (String × α)} (map : StringMap α)
    (hbefore : map.entries = before)
    (sorted : (before ++ bindings).Pairwise fun a b => a.1 < b.1) :
    (bindings.foldl (fun map binding => map.insert binding.1 binding.2) map).entries =
      before ++ bindings := by
  induction bindings generalizing before map with
  | nil => rw [List.foldl_nil, hbefore, List.append_nil]
  | cons binding rest ih =>
    have hinsert : (map.insert binding.1 binding.2).entries = before ++ [binding] := by
      subst hbefore
      refine insertEntry_of_below ?_
      intro entry member
      exact (List.pairwise_append.mp sorted).2.2 entry member binding List.mem_cons_self
    rw [List.foldl_cons, ih _ hinsert (by simpa using sorted), List.append_assoc]
    rfl

theorem ext_entries {map other : StringMap α} (h : map.entries = other.entries) : map = other := by
  cases map
  cases other
  cases h
  rfl

/-- A map is built from its own entries. -/
@[simp] theorem ofList_entries (map : StringMap α) : ofList map.entries = map :=
  ext_entries (entries_foldl_insert empty rfl map.sorted)

theorem eq_empty_of_isEmpty {map : StringMap α} (h : map.isEmpty = true) : map = empty :=
  ext_entries (List.isEmpty_iff.mp h)

/-- What is bound to a key stands with it among the entries. -/
theorem mem_entries_iff {map : StringMap α} {key : String} {value : α} :
    (key, value) ∈ map.entries ↔ map.find? key = some value := by
  constructor
  · intro member
    obtain ⟨found, hfound⟩ : ∃ found, map.entries.find? (fun entry => entry.1 == key) = some found :=
      Option.isSome_iff_exists.mp (List.find?_isSome.mpr ⟨_, member, beq_self_eq_true key⟩)
    have named : found.1 = key := by simpa using List.find?_some hfound
    -- The keys strictly increase, so there is one entry of this key.
    have same : found = (key, value) := by
      by_contra differs
      have apart : map.entries.Pairwise fun a b => a.1 ≠ b.1 :=
        map.sorted.imp fun before => String.ne_of_lt before
      have : Std.Symm fun a b : String × α => a.1 ≠ b.1 := ⟨fun _ _ => Ne.symm⟩
      exact apart.forall (List.mem_of_find?_eq_some hfound) member differs named
    rw [find?, hfound, same]
    rfl
  · intro bound
    obtain ⟨⟨other, given⟩, hfound, rfl⟩ := Option.map_eq_some_iff.mp bound
    have named : other = key := by simpa using List.find?_some hfound
    exact named ▸ List.mem_of_find?_eq_some hfound

/-- A map that binds keys to one value. -/
theorem find?_ofList_map (keys : List String) (value : α) (key : String) :
    (ofList (keys.map fun key => (key, value))).find? key =
      if key ∈ keys then some value else none := by
  induction keys using List.reverseRecOn with
  | nil => rfl
  | append_singleton earlier last ih =>
    rw [ofList, List.map_append, List.foldl_append, ← ofList, List.map_singleton, List.foldl_cons,
      List.foldl_nil, find?_insert, ih]
    by_cases same : key = last
    · simp [same]
    · simp [same]

@[simp] theorem find?_erase (map : StringMap α) (key other : String) :
    (map.erase key).find? other = if other = key then none else map.find? other := by
  rw [find?, erase, List.find?_filter]
  split
  · rename_i same
    rw [Option.map_eq_none_iff, List.find?_eq_none]
    intro entry _
    simp [same]
  · rename_i differs
    rw [find?]
    congr 2
    funext entry
    by_cases named : entry.1 = other
    · simp [named, differs]
    · simp [named]

/-- Bindings that are added only where a key is unbound leave what is bound, and of several for one key the
first one counts. -/
theorem find?_foldl_insertNew (bindings : List (String × α)) (map : StringMap α) (key : String) :
    (bindings.foldl (fun map binding => map.insertNew binding.1 binding.2) map).find? key =
      (map.find? key).or ((bindings.find? fun binding => binding.1 == key).map Prod.snd) := by
  induction bindings generalizing map with
  | nil => exact Option.or_none.symm
  | cons binding rest ih =>
    rw [List.foldl_cons, ih, find?_insertNew, List.find?_cons]
    by_cases here : key = binding.1
    · rw [if_pos here, beq_iff_eq.mpr here.symm, Option.or_assoc, Option.some_or]
      rfl
    · rw [if_neg here, beq_eq_false_iff_ne.mpr (Ne.symm here)]

theorem contains_insert (map : StringMap α) (key other : String) (value : α) :
    (map.insert key value).contains other = if other = key then true else map.contains other := by
  rw [contains_eq_isSome, contains_eq_isSome, find?_insert]
  split <;> rfl

theorem contains_erase (map : StringMap α) (key other : String) :
    (map.erase key).contains other = if other = key then false else map.contains other := by
  rw [contains_eq_isSome, contains_eq_isSome, find?_erase]
  split <;> rfl

/-- Maps are equal if they bind the same keys to the same values. -/
theorem ext_find? {map other : StringMap α} (same : ∀ key, map.find? key = other.find? key) :
    map = other := by
  have : Std.Irrefl fun a b : String × α => a.1 < b.1 := ⟨fun a => String.lt_irrefl a.1⟩
  have : Std.Antisymm fun a b : String × α => a.1 < b.1 :=
    ⟨fun _ _ before after => absurd after (String.lt_asymm before)⟩
  refine ext_entries (map.sorted.eq_of_mem_iff other.sorted ?_)
  rintro ⟨key, value⟩
  rw [mem_entries_iff, mem_entries_iff, same]

/-- Sets of keys are equal if they have the same keys. -/
theorem ext_contains {map other : StringMap Unit} (same : ∀ key, map.contains key = other.contains key) :
    map = other := by
  refine ext_find? fun key => Option.ext fun _ => ?_
  have bound := same key
  rw [contains_eq_isSome, contains_eq_isSome, Bool.eq_iff_iff, Option.isSome_iff_exists,
    Option.isSome_iff_exists] at bound
  exact ⟨fun found => (bound.mp ⟨_, found⟩).elim fun _ => id,
    fun found => (bound.mpr ⟨_, found⟩).elim fun _ => id⟩

end LiveMarkup.StringMap
