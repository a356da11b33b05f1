import LiveMarkup.Site.PageCache
import Mathlib.Data.List.Nodup

/-!
# What a page cache keeps

A cache is in order (`Ordered`) when its queue lists the keys of its pages, each of them once, and
there are no more pages than the limit allows. The empty cache is, and looking up and putting keep it so
(`Ordered.get`, `Ordered.insert`): pages leave only together with the front of the queue, so the queue
cannot run out before the limit is met. What holds of every page that is put holds of every page that is
kept (`Keeps`).
-/

set_option autoImplicit false

namespace LiveMarkup.PageCache

theorem mem_erase_append {κ : Type} [BEq κ] [LawfulBEq κ] {queue : List κ} {key other : κ}
    (member : key ∈ queue) : other ∈ queue.erase key ++ [key] ↔ other ∈ queue := by
  by_cases same : other = key
  · simp [same, member]
  · simp [same, List.mem_erase_of_ne same]

variable {κ α : Type} [BEq κ] [Hashable κ]

/-- The queue lists the keys of the pages, each once, and the limit is met. -/
structure Ordered (cache : PageCache κ α) : Prop where
  nodup : cache.queue.Nodup
  mem_queue_iff : ∀ key, key ∈ cache.queue ↔ key ∈ cache.pages
  size_le : cache.size ≤ cache.limit

/-- Every page that is kept stands in this relation to its key. -/
def Keeps (holds : κ → α → Prop) (cache : PageCache κ α) : Prop :=
  ∀ key page, cache.pages[key]? = some page → holds key page

theorem ordered_empty (limit : Nat) : (empty limit : PageCache κ α).Ordered where
  nodup := List.nodup_nil
  mem_queue_iff key := by simp [empty]
  size_le := by simp [empty, size]

section Lookup

variable {cache : PageCache κ α} {key : κ}

theorem get_of_some {page : α} (found : cache.pages[key]? = some page) :
    cache.get key = (some page, cache.touch key) := by
  rw [get, found]

theorem get_of_none (missing : cache.pages[key]? = none) : cache.get key = (none, cache) := by
  rw [get, missing]

/-- Looking up leaves the pages as they are. -/
theorem get_pages (cache : PageCache κ α) (key : κ) : (cache.get key).2.pages = cache.pages := by
  cases found : cache.pages[key]? with
  | some page => rw [get_of_some found, touch]
  | none => rw [get_of_none found]

theorem get_limit (cache : PageCache κ α) (key : κ) : (cache.get key).2.limit = cache.limit := by
  cases found : cache.pages[key]? with
  | some page => rw [get_of_some found, touch]
  | none => rw [get_of_none found]

theorem evict_limit (limit : Nat) (pages : Std.HashMap κ α) (queue : List κ) :
    (evict limit pages queue).limit = limit := by
  induction queue generalizing pages with
  | nil => rfl
  | cons oldest rest ih =>
    rw [evict]
    split
    · rfl
    · exact ih _

theorem insert_limit (cache : PageCache κ α) (key : κ) (page : α) :
    (cache.insert key page).limit = cache.limit := by
  rw [insert]
  split
  · rfl
  · exact evict_limit _ _ _

theorem Keeps.get {holds : κ → α → Prop} (kept : cache.Keeps holds) (key : κ) :
    (cache.get key).2.Keeps holds := by
  intro other page found
  rw [get_pages] at found
  exact kept other page found

end Lookup

/-! ## Using a page -/

variable [LawfulBEq κ] {cache : PageCache κ α}

theorem Ordered.touch (ordered : cache.Ordered) {key : κ} (member : key ∈ cache.pages) :
    (cache.touch key).Ordered where
  nodup := by
    have gone : key ∉ cache.queue.erase key := fun again =>
      (ordered.nodup.mem_erase_iff.mp again).1 rfl
    have nodup := (ordered.nodup.erase key).concat gone
    rwa [List.concat_eq_append] at nodup
  mem_queue_iff other := by
    have queued : key ∈ cache.queue := (ordered.mem_queue_iff key).mpr member
    exact (mem_erase_append queued).trans (ordered.mem_queue_iff other)
  size_le := ordered.size_le

variable [LawfulHashable κ]

theorem Ordered.get (ordered : cache.Ordered) (key : κ) : (cache.get key).2.Ordered := by
  cases found : cache.pages[key]? with
  | none => rwa [get_of_none found]
  | some page =>
    rw [get_of_some found]
    exact ordered.touch (Std.HashMap.mem_iff_isSome_getElem?.mpr (by rw [found]; rfl))

/-! ## Putting a page -/

theorem keeps_empty (holds : κ → α → Prop) (limit : Nat) :
    (empty limit : PageCache κ α).Keeps holds := by
  intro key page found
  simp [empty] at found

section Evict

variable {pages : Std.HashMap κ α} {queue : List κ}

/-- There are as many pages as keys in a queue that lists each of them once. -/
theorem size_eq_length (nodup : queue.Nodup) (listed : ∀ key, key ∈ queue ↔ key ∈ pages) :
    pages.size = queue.length := by
  have keys : pages.keys.Perm queue :=
    (List.perm_ext_iff_of_nodup Std.HashMap.nodup_keys nodup).mpr fun key => by
      rw [Std.HashMap.mem_keys, listed]
  rw [← Std.HashMap.length_keys, keys.length_eq]

/-- From a queue that lists each key once, those keys at the front are dropped that exceed the limit,
and their pages with them. -/
theorem evict_eq_drop (limit : Nat) (nodup : queue.Nodup)
    (listed : ∀ key, key ∈ queue ↔ key ∈ pages) :
    (evict limit pages queue).queue = queue.drop (queue.length - limit) ∧
      ∀ key, (evict limit pages queue).pages[key]? =
        if key ∈ queue.take (queue.length - limit) then none else pages[key]? := by
  induction queue generalizing pages with
  | nil => simp [evict]
  | cons oldest rest ih =>
    rw [evict, size_eq_length nodup listed]
    split
    · rename_i met
      rw [Nat.sub_eq_zero_of_le met]
      exact ⟨rfl, fun key => by simp⟩
    · rename_i exceeded
      have count : (oldest :: rest).length - limit = rest.length - limit + 1 := by
        rw [List.length_cons] at exceeded ⊢
        omega
      obtain ⟨once, nodup⟩ := List.nodup_cons.mp nodup
      have listed' : ∀ key, key ∈ rest ↔ key ∈ pages.erase oldest := by
        intro key
        rw [Std.HashMap.mem_erase, ← listed key, List.mem_cons]
        constructor
        · intro later
          have differs : oldest ≠ key := fun same => once (same ▸ later)
          exact ⟨by simpa using differs, .inr later⟩
        · rintro ⟨differs, same | later⟩
          · simp [same] at differs
          · exact later
      obtain ⟨left, found⟩ := ih nodup listed'
      rw [count, List.drop_succ_cons, List.take_succ_cons]
      refine ⟨left, fun key => ?_⟩
      rw [found, Std.HashMap.getElem?_erase]
      by_cases same : oldest = key
      · simp [same]
      · simp [same, Ne.symm same]

/-- Dropping the keys at the front of a queue that lists all keys meets the limit. -/
theorem evict_ordered (limit : Nat) (nodup : queue.Nodup)
    (listed : ∀ key, key ∈ queue ↔ key ∈ pages) : (evict limit pages queue : PageCache κ α).Ordered := by
  obtain ⟨left, found⟩ := evict_eq_drop limit nodup listed
  have once : (evict limit pages queue).queue.Nodup := by
    rw [left]
    exact nodup.sublist (List.drop_sublist _ _)
  have kept : ∀ key, key ∈ (evict limit pages queue).queue ↔ key ∈ (evict limit pages queue).pages := by
    intro key
    have apart := List.disjoint_take_drop nodup (Nat.le_refl (queue.length - limit))
    have split : key ∈ queue ↔ key ∈ queue.take (queue.length - limit) ∨
        key ∈ queue.drop (queue.length - limit) := by
      rw [← List.mem_append, List.take_append_drop]
    rw [left, Std.HashMap.mem_iff_isSome_getElem?, found]
    by_cases gone : key ∈ queue.take (queue.length - limit)
    · have front : key ∉ queue.drop (queue.length - limit) := fun back => apart gone back
      simp [gone, front]
    · rw [if_neg gone, ← Std.HashMap.mem_iff_isSome_getElem?, ← listed, split]
      exact (or_iff_right gone).symm
  refine ⟨once, kept, ?_⟩
  rw [size, size_eq_length once kept, left, evict_limit, List.length_drop]
  omega

end Evict

/-- What is left of the pages were pages before. -/
theorem getElem?_of_evict (limit : Nat) {pages : Std.HashMap κ α} {queue : List κ} {key : κ} {page : α}
    (found : (evict limit pages queue).pages[key]? = some page) : pages[key]? = some page := by
  induction queue generalizing pages with
  | nil => exact found
  | cons oldest rest ih =>
    rw [evict] at found
    split at found
    · exact found
    · have left := ih found
      rw [Std.HashMap.getElem?_erase] at left
      split at left
      · cases left
      · exact left

theorem Ordered.insert (ordered : cache.Ordered) (key : κ) (page : α) :
    (cache.insert key page).Ordered := by
  rw [PageCache.insert]
  split
  · rename_i known
    have member : key ∈ cache.pages := Std.HashMap.mem_iff_contains.mpr known
    have replaced : ({ cache with pages := cache.pages.insert key page } : PageCache κ α).Ordered :=
      { nodup := ordered.nodup
        mem_queue_iff := by
          intro other
          rw [ordered.mem_queue_iff other, Std.HashMap.mem_insert]
          refine ⟨.inr, ?_⟩
          rintro (same | member')
          · rwa [← eq_of_beq same]
          · exact member'
        size_le := by
          have same : (cache.pages.insert key page).size = cache.pages.size := by
            rw [Std.HashMap.size_insert, if_pos member]
          rw [size, same]
          exact ordered.size_le }
    exact replaced.touch (by simp)
  · rename_i unknown
    have new : key ∉ cache.queue := by
      rw [ordered.mem_queue_iff key, Std.HashMap.mem_iff_contains]
      exact unknown
    have nodup := ordered.nodup.concat new
    rw [List.concat_eq_append] at nodup
    refine evict_ordered cache.limit nodup fun other => ?_
    rw [List.mem_append, List.mem_singleton, ordered.mem_queue_iff other, Std.HashMap.mem_insert,
      beq_iff_eq, or_comm, eq_comm]

theorem Keeps.insert {holds : κ → α → Prop} (kept : cache.Keeps holds) {key : κ} {page : α}
    (given : holds key page) : (cache.insert key page).Keeps holds := by
  -- Whatever is dropped, the pages are among the old ones and the new one.
  have among : ∀ other shown, (cache.pages.insert key page)[other]? = some shown →
      holds other shown := by
    intro other shown found
    rw [Std.HashMap.getElem?_insert] at found
    split at found
    · rename_i same
      rw [← eq_of_beq same, ← Option.some.inj found]
      exact given
    · exact kept other shown found
  rw [PageCache.insert]
  split
  · exact among
  · intro other shown found
    exact among other shown (getElem?_of_evict cache.limit found)

end LiveMarkup.PageCache
