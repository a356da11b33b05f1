/-!
# Maps with sorted string keys

A `StringMap α` is a list of entries whose keys strictly increase in code point order, so two maps
with the same bindings are equal and every listing of a map is in key order. The order is part of
the type: `insert`, `modify`, `erase` and `ofList` keep it.
-/

set_option autoImplicit false

namespace LiveMarkup

universe u

/-- Bindings of string keys, listed in strictly ascending key order. -/
structure StringMap (α : Type u) where
  entries : List (String × α)
  sorted : entries.Pairwise fun a b => a.1 < b.1
deriving DecidableEq

namespace StringMap

variable {α : Type u}

/-- Puts a binding at its place in a sorted list of entries, over any binding of the same key. -/
def insertEntry (key : String) (value : α) : List (String × α) → List (String × α)
  | [] => [(key, value)]
  | entry :: rest =>
    if key < entry.1 then (key, value) :: entry :: rest
    else if entry.1 < key then entry :: insertEntry key value rest
    else (key, value) :: rest

/-- Changes the value bound to a key. -/
def modifyEntry (key : String) (change : α → α) : List (String × α) → List (String × α)
  | [] => []
  | entry :: rest =>
    if entry.1 = key then (entry.1, change entry.2) :: rest
    else entry :: modifyEntry key change rest

theorem mem_insertEntry {key : String} {value : α} {entry : String × α}
    {entries : List (String × α)} (h : entry ∈ insertEntry key value entries) :
    entry = (key, value) ∨ entry ∈ entries := by
  induction entries with
  | nil => simpa [insertEntry] using h
  | cons head rest ih =>
    unfold insertEntry at h
    split at h
    · simpa using h
    · split at h
      · rcases List.mem_cons.1 h with h | h
        · exact .inr (h ▸ List.mem_cons_self)
        · exact (ih h).imp_right (List.mem_cons_of_mem _)
      · rcases List.mem_cons.1 h with h | h
        · exact .inl h
        · exact .inr (List.mem_cons_of_mem _ h)

theorem insertEntry_sorted {key : String} {value : α} {entries : List (String × α)}
    (h : entries.Pairwise fun a b => a.1 < b.1) :
    (insertEntry key value entries).Pairwise fun a b => a.1 < b.1 := by
  induction entries with
  | nil => simp [insertEntry]
  | cons head rest ih =>
    have ⟨below, tail⟩ := List.pairwise_cons.1 h
    unfold insertEntry
    split
    · rename_i lt
      refine List.pairwise_cons.2 ⟨?_, h⟩
      intro b hb
      rcases List.mem_cons.1 hb with rfl | hb
      · exact lt
      · exact String.lt_trans lt (below b hb)
    · split
      · rename_i lt
        refine List.pairwise_cons.2 ⟨?_, ih tail⟩
        intro b hb
        rcases mem_insertEntry hb with rfl | hb
        · exact lt
        · exact below b hb
      · rename_i notBelow notAbove
        refine List.pairwise_cons.2 ⟨?_, tail⟩
        intro b hb
        have same : key = head.1 := String.le_antisymm notAbove notBelow
        exact same ▸ below b hb

theorem map_fst_modifyEntry (key : String) (change : α → α) (entries : List (String × α)) :
    (modifyEntry key change entries).map Prod.fst = entries.map Prod.fst := by
  induction entries with
  | nil => rfl
  | cons head rest ih => unfold modifyEntry; split <;> simp_all

theorem sorted_iff_keys {entries : List (String × α)} :
    (entries.Pairwise fun a b => a.1 < b.1) ↔ (entries.map Prod.fst).Pairwise (· < ·) :=
  List.pairwise_map.symm

/-- The map without bindings. -/
def empty : StringMap α := ⟨[], .nil⟩

instance : Inhabited (StringMap α) := ⟨empty⟩

/-- Whether no key is bound. -/
def isEmpty (map : StringMap α) : Bool := map.entries.isEmpty

/-- The keys in ascending order. -/
def keys (map : StringMap α) : List String := map.entries.map Prod.fst

/-- The value bound to a key. -/
def find? (map : StringMap α) (key : String) : Option α :=
  (map.entries.find? fun entry => entry.1 == key).map Prod.snd

/-- Whether a key is bound. -/
def contains (map : StringMap α) (key : String) : Bool :=
  map.entries.any fun entry => entry.1 == key

/-- Binds a key, over any earlier binding. -/
def insert (map : StringMap α) (key : String) (value : α) : StringMap α :=
  ⟨insertEntry key value map.entries, insertEntry_sorted map.sorted⟩

/-- Binds a key unless it is bound already. -/
def insertNew (map : StringMap α) (key : String) (value : α) : StringMap α :=
  if map.contains key then map else map.insert key value

/-- Changes the value bound to a key; an unbound key changes nothing. -/
def modify (map : StringMap α) (key : String) (change : α → α) : StringMap α :=
  ⟨modifyEntry key change map.entries, by
    rw [sorted_iff_keys, map_fst_modifyEntry, ← sorted_iff_keys]; exact map.sorted⟩

/-- Unbinds a key. -/
def erase (map : StringMap α) (key : String) : StringMap α :=
  ⟨map.entries.filter fun entry => entry.1 != key, map.sorted.filter _⟩

/-- The map of a list of bindings; of several bindings of one key the last one stays. -/
def ofList (bindings : List (String × α)) : StringMap α :=
  bindings.foldl (fun map binding => map.insert binding.1 binding.2) empty

/-! ## What is bound to a key -/

theorem find?_insertEntry (key other : String) (value : α) (entries : List (String × α)) :
    (insertEntry key value entries).find? (fun entry => entry.1 == other) =
      if other = key then some (key, value) else entries.find? fun entry => entry.1 == other := by
  induction entries with
  | nil => by_cases same : other = key <;> simp [insertEntry, same, Ne.symm]
  | cons head rest ih =>
    unfold insertEntry
    split
    · by_cases same : other = key <;> simp [same, Ne.symm]
    · split
      · rename_i above
        -- The new key stands behind a smaller one, so the head is not the entry that is changed.
        by_cases same : other = key
        · have differs : (head.1 == other) = false := by simpa [same] using String.ne_of_lt above
          rw [List.find?_cons, differs, ih, if_pos same, if_pos same]
        · rw [List.find?_cons, List.find?_cons, ih, if_neg same, if_neg same]
      · rename_i notBelow notAbove
        have equal : key = head.1 := String.le_antisymm notAbove notBelow
        by_cases same : other = key
        · simp [same]
        · simp [same, Ne.symm same, ← equal]

@[simp] theorem find?_insert (map : StringMap α) (key other : String) (value : α) :
    (map.insert key value).find? other = if other = key then some value else map.find? other := by
  simp only [find?, insert, find?_insertEntry]
  split <;> rfl

theorem find?_modifyEntry (key other : String) (change : α → α) (entries : List (String × α)) :
    ((modifyEntry key change entries).find? fun entry => entry.1 == other).map Prod.snd =
      if other = key then ((entries.find? fun entry => entry.1 == other).map Prod.snd).map change
      else (entries.find? fun entry => entry.1 == other).map Prod.snd := by
  induction entries with
  | nil => simp [modifyEntry]
  | cons head rest ih =>
    unfold modifyEntry
    split
    · rename_i equal
      by_cases same : other = key
      · simp [equal, same]
      · simp [equal, same, Ne.symm same]
    · rename_i differs
      by_cases here : head.1 = other
      · have others : other ≠ key := fun h => differs (here.trans h)
        simp [here, others]
      · have skip : (head.1 == other) = false := by simpa using here
        rw [List.find?_cons, List.find?_cons, skip, ih]

@[simp] theorem find?_modify (map : StringMap α) (key other : String) (change : α → α) :
    (map.modify key change).find? other =
      if other = key then (map.find? other).map change else map.find? other :=
  find?_modifyEntry key other change map.entries

theorem contains_eq_isSome (map : StringMap α) (key : String) :
    map.contains key = (map.find? key).isSome := by
  rw [Bool.eq_iff_iff]
  simp [contains, find?]

/-- Binding a key anew leaves the value of a key that is bound already. -/
@[simp] theorem find?_insertNew (map : StringMap α) (key other : String) (value : α) :
    (map.insertNew key value).find? other =
      if other = key then (map.find? other).or (some value) else map.find? other := by
  unfold insertNew
  split
  · rename_i bound
    rw [contains_eq_isSome, Option.isSome_iff_exists] at bound
    obtain ⟨present, hpresent⟩ := bound
    split
    · rename_i same
      rw [same, hpresent]
      rfl
    · rfl
  · rename_i unbound
    rw [contains_eq_isSome, Bool.not_eq_true, Option.isSome_eq_false_iff, Option.isNone_iff_eq_none]
      at unbound
    rw [find?_insert]
    split
    · rename_i same
      rw [same, unbound]
      rfl
    · rfl

end StringMap

end LiveMarkup
