import LiveMarkup.Proofs.Lists
import LiveMarkup.Proofs.Site.PageCache
import Mathlib.Data.List.DropRight

/-!
# Page caches keep what was used last

A page cache with its map and its queue stands for one list of pages with their keys, from the one used
longest ago to the one used last (`Recency`). Using a page moves it to the end of the list, and pages at
the front leave while the list is longer than the limit. `PageCache.Lists` relates a cache to its list;
every use keeps the relation and is answered alike on both sides (`Lists.after`), so that any run of a
cache is a run of the list (`run_recency`).
-/

set_option autoImplicit false

namespace LiveMarkup

/-! ## Lists by last use -/

/-- At most `limit` pages under different keys, from the one used longest ago to the one used last. -/
structure Recency (κ α : Type) (limit : Nat) where
  entries : List (κ × α)
  nodup : (entries.map Prod.fst).Nodup
  length_le : entries.length ≤ limit

/-- A use of a cache: a page is looked up, or a page is put. -/
inductive CacheUse (κ α : Type) where
  | get (key : κ)
  | insert (key : κ) (page : α)

/-- What is answered to uses, in order, and the state behind the last one. -/
def CacheUse.answers {σ κ α : Type} (after : σ → CacheUse κ α → Option α × σ) (state : σ) :
    List (CacheUse κ α) → List (Option α) × σ
  | [] => ([], state)
  | use :: rest =>
    ((after state use).1 :: (answers after (after state use).2 rest).1,
      (answers after (after state use).2 rest).2)

namespace Recency

variable {κ α : Type} {limit : Nat}

/-- The list without pages. -/
def empty (limit : Nat) : Recency κ α limit := ⟨[], List.nodup_nil, Nat.zero_le limit⟩

variable [BEq κ]

/-- The page under a key. -/
def page? (kept : Recency κ α limit) (key : κ) : Option α := kept.entries.lookup key

/-- The pairs with this one behind them, in place of the one of its key. -/
def renewed (entries : List (κ × α)) (key : κ) (page : α) : List (κ × α) :=
  entries.filter (fun entry => entry.1 != key) ++ [(key, page)]

theorem map_fst_renewed (entries : List (κ × α)) (key : κ) (page : α) :
    (renewed entries key page).map Prod.fst = (entries.map Prod.fst).filter (· != key) ++ [key] := by
  rw [renewed, List.map_append, List.filter_map]
  rfl

theorem lookup_cons_ite (entry : κ × α) (rest : List (κ × α)) (key : κ) :
    (entry :: rest).lookup key = if key == entry.1 then some entry.2 else rest.lookup key := by
  rw [List.lookup_cons]
  cases key == entry.1 <;> rfl

variable [LawfulBEq κ]

theorem nodup_renewed {entries : List (κ × α)} (nodup : (entries.map Prod.fst).Nodup) (key : κ)
    (page : α) : ((renewed entries key page).map Prod.fst).Nodup := by
  have others := (nodup.filter (· != key)).concat (a := key) (by simp)
  rwa [List.concat_eq_append, ← map_fst_renewed entries key page] at others

/-- The page is put at the end, in place of one under its key; then the pairs at the front leave until
the limit is met. -/
def put (kept : Recency κ α limit) (key : κ) (page : α) : Recency κ α limit where
  entries := (renewed kept.entries key page).rtake limit
  nodup := (nodup_renewed kept.nodup key page).sublist ((List.drop_sublist _ _).map _)
  length_le := by
    unfold List.rtake
    rw [List.length_drop]
    omega

/-- The page under a key, which is then the one used last. -/
def get (kept : Recency κ α limit) (key : κ) : Option α × Recency κ α limit :=
  match kept.page? key with
  | some page => (some page, kept.put key page)
  | none => (none, kept)

/-- A use of the list. -/
def after (kept : Recency κ α limit) : CacheUse κ α → Option α × Recency κ α limit
  | .get key => kept.get key
  | .insert key page => (none, kept.put key page)

/-- The answers to uses of the list, and what it is behind them. -/
def run (kept : Recency κ α limit) (uses : List (CacheUse κ α)) :
    List (Option α) × Recency κ α limit := CacheUse.answers after kept uses

/-! ## What is found in a list -/

theorem lookup_renewed (entries : List (κ × α)) (key other : κ) (page : α) :
    (renewed entries key page).lookup other =
      if other == key then some page else entries.lookup other := by
  induction entries with
  | nil => rw [renewed, List.filter_nil, List.nil_append, lookup_cons_ite]
  | cons entry rest ih =>
    rw [renewed] at ih ⊢
    by_cases here : entry.1 = key
    · rw [List.filter_cons_of_neg (by simp [here]), ih, lookup_cons_ite, here]
      cases other == key <;> rfl
    · rw [List.filter_cons_of_pos (by simp [here]), List.cons_append, lookup_cons_ite, ih,
        lookup_cons_ite]
      by_cases found : other = entry.1
      · simp [found, here]
      · simp [found]

theorem isSome_lookup_iff {entries : List (κ × α)} {key : κ} :
    (entries.lookup key).isSome = true ↔ key ∈ entries.map Prod.fst := by
  rw [List.lookup_isSome_iff, List.mem_map]
  exact exists_congr fun entry => and_congr_right fun _ => beq_iff_eq.trans eq_comm

theorem lookup_eq_none_of_not_mem {entries : List (κ × α)} {key : κ}
    (missing : key ∉ entries.map Prod.fst) : entries.lookup key = none := by
  rwa [← Option.not_isSome_iff_eq_none, isSome_lookup_iff]

/-- Behind the first pairs all keys but theirs are found as before. -/
theorem lookup_drop {entries : List (κ × α)} (nodup : (entries.map Prod.fst).Nodup) (count : Nat)
    (key : κ) : (entries.drop count).lookup key =
      if key ∈ (entries.map Prod.fst).take count then none else entries.lookup key := by
  induction entries generalizing count with
  | nil => simp
  | cons entry rest ih =>
    cases count with
    | zero => simp
    | succ count =>
      obtain ⟨once, nodup⟩ := List.nodup_cons.mp nodup
      rw [List.drop_succ_cons, ih nodup, List.map_cons, List.take_succ_cons, lookup_cons_ite]
      by_cases same : key = entry.1
      · simp [same, lookup_eq_none_of_not_mem once]
      · simp [same]

theorem renewed_of_missing {entries : List (κ × α)} {key : κ} (missing : key ∉ entries.map Prod.fst)
    (page : α) : renewed entries key page = entries ++ [(key, page)] := by
  rw [renewed, List.filter_eq_self.mpr]
  intro entry member
  rw [bne_iff_ne]
  rintro rfl
  exact missing (List.mem_map_of_mem member)

/-- A page that takes the place of another one makes no page leave. -/
theorem entries_put_of_present {kept : Recency κ α limit} {key : κ}
    (present : key ∈ kept.entries.map Prod.fst) (page : α) :
    (kept.put key page).entries = renewed kept.entries key page := by
  have fewer : ((kept.entries.map Prod.fst).filter (· != key)).length + 1 = kept.entries.length := by
    have positive := List.length_pos_of_mem present
    rw [List.length_map] at positive
    rw [← kept.nodup.erase_eq_filter, List.length_erase_of_mem present, List.length_map]
    omega
  have length := congrArg List.length (map_fst_renewed kept.entries key page)
  rw [List.length_map, List.length_append, List.length_singleton, fewer] at length
  have fits := kept.length_le
  show (renewed kept.entries key page).drop ((renewed kept.entries key page).length - limit) = _
  rw [length, Nat.sub_eq_zero_of_le fits, List.drop_zero]

/-! ## What was put last -/

theorem mem_of_mem_put {kept : Recency κ α limit} {key : κ} {page : α} {entry : κ × α}
    (member : entry ∈ (kept.put key page).entries) :
    entry = (key, page) ∨ entry.1 ≠ key ∧ entry ∈ kept.entries := by
  rcases List.mem_append.mp (List.mem_of_mem_drop member) with old | new
  · obtain ⟨old, differs⟩ := List.mem_filter.mp old
    exact .inr ⟨by simpa using differs, old⟩
  · exact .inl (List.mem_singleton.mp new)

/-- Looking up makes no pair of a key and a page. -/
theorem mem_of_mem_get {kept : Recency κ α limit} {key : κ} {entry : κ × α}
    (member : entry ∈ (kept.get key).2.entries) : entry ∈ kept.entries := by
  rw [get] at member
  split at member
  · rename_i page found
    rcases mem_of_mem_put member with rfl | ⟨-, old⟩
    · obtain ⟨front, back, split, -⟩ := List.lookup_eq_some_iff.mp found
      rw [split]
      exact List.mem_append_right _ List.mem_cons_self
    · exact old
  · exact member

theorem run_concat (kept : Recency κ α limit) (uses : List (CacheUse κ α)) (use : CacheUse κ α) :
    (kept.run (uses ++ [use])).2 = ((kept.run uses).2.after use).2 := by
  induction uses generalizing kept with
  | nil => rfl
  | cons first rest ih => exact ih (kept.after first).2

/-- A page that is kept is the one that was put last under its key. -/
theorem lastOf_of_mem_run {uses : List (CacheUse κ α)} {key : κ} {page : α}
    (member : (key, page) ∈ ((empty limit).run uses).2.entries) :
    LastOf uses (.insert key page) fun use => ∃ other, use = .insert key other := by
  induction uses using List.reverseRecOn with
  | nil => exact absurd member List.not_mem_nil
  | append_singleton uses use ih =>
    rw [run_concat] at member
    rw [lastOf_concat]
    cases use with
    | get other => exact .inr ⟨by simp, ih (mem_of_mem_get member)⟩
    | insert other given =>
      rcases mem_of_mem_put member with same | ⟨differs, old⟩
      · obtain ⟨rfl, rfl⟩ := Prod.mk.inj same
        exact .inl rfl
      · exact .inr ⟨fun ⟨_, same⟩ => differs (CacheUse.insert.inj same).1.symm, ih old⟩

end Recency

/-! ## Caches and their lists -/

namespace PageCache

variable {κ α : Type} [BEq κ] [Hashable κ]

/-- A use of the cache. -/
def after (cache : PageCache κ α) : CacheUse κ α → Option α × PageCache κ α
  | .get key => cache.get key
  | .insert key page => (none, cache.insert key page)

/-- The answers to uses of the cache, and what it is behind them. -/
def run (cache : PageCache κ α) (uses : List (CacheUse κ α)) : List (Option α) × PageCache κ α :=
  CacheUse.answers after cache uses

/-- The queue of the cache has the keys of the list, and its map finds the pages of the list. -/
structure Lists {limit : Nat} (cache : PageCache κ α) (kept : Recency κ α limit) : Prop where
  limit_eq : cache.limit = limit
  queue_eq : cache.queue = kept.entries.map Prod.fst
  getElem?_eq : ∀ key, cache.pages[key]? = kept.page? key

variable [LawfulBEq κ] [LawfulHashable κ]

theorem lists_empty (limit : Nat) : (empty limit : PageCache κ α).Lists (.empty limit) where
  limit_eq := rfl
  queue_eq := rfl
  getElem?_eq key := by simp [empty, Recency.empty, Recency.page?]

section Pages

variable {pages : Std.HashMap κ α} {entries : List (κ × α)}

theorem mem_pages_iff (found : ∀ key, pages[key]? = entries.lookup key) (key : κ) :
    key ∈ pages ↔ key ∈ entries.map Prod.fst := by
  rw [Std.HashMap.mem_iff_isSome_getElem?, found, Recency.isSome_lookup_iff]

/-- What is left are the pages at the end of the list. -/
theorem evict_lists (limit : Nat) (nodup : (entries.map Prod.fst).Nodup)
    (found : ∀ key, pages[key]? = entries.lookup key) :
    (evict limit pages (entries.map Prod.fst)).queue = (entries.rtake limit).map Prod.fst ∧
      ∀ key, (evict limit pages (entries.map Prod.fst)).pages[key]? =
        (entries.rtake limit).lookup key := by
  obtain ⟨left, kept⟩ := evict_eq_drop limit nodup fun key => (mem_pages_iff found key).symm
  rw [List.length_map] at left kept
  refine ⟨by rw [left, List.rtake, List.map_drop], fun key => ?_⟩
  rw [kept, found, List.rtake, Recency.lookup_drop nodup]

end Pages

section Lists

variable {limit : Nat} {cache : PageCache κ α} {kept : Recency κ α limit}

theorem Lists.mem_pages_iff (lists : cache.Lists kept) (key : κ) :
    key ∈ cache.pages ↔ key ∈ kept.entries.map Prod.fst :=
  PageCache.mem_pages_iff lists.getElem?_eq key

theorem Lists.size_eq (lists : cache.Lists kept) : cache.size = kept.entries.length := by
  rw [size, size_eq_length kept.nodup fun key => (lists.mem_pages_iff key).symm, List.length_map]

/-- The pages of a cache after one was put, found as behind the renewed pairs. -/
theorem Lists.getElem?_insert (lists : cache.Lists kept) (key : κ) (page : α) (other : κ) :
    (cache.pages.insert key page)[other]? = (Recency.renewed kept.entries key page).lookup other := by
  rw [Std.HashMap.getElem?_insert, Recency.lookup_renewed, lists.getElem?_eq, BEq.comm]
  rfl

/-- A page that takes the place of another one moves to the end. -/
theorem Lists.touch_insert (lists : cache.Lists kept) {key : κ} (present : key ∈ cache.pages)
    (page : α) :
    (({ cache with pages := cache.pages.insert key page } : PageCache κ α).touch key).Lists
      (kept.put key page) := by
  have entries := Recency.entries_put_of_present ((lists.mem_pages_iff key).mp present) page
  refine ⟨lists.limit_eq, ?_, fun other => ?_⟩
  · rw [entries, Recency.map_fst_renewed, ← kept.nodup.erase_eq_filter, ← lists.queue_eq]
    rfl
  · rw [Recency.page?, entries]
    exact lists.getElem?_insert key page other

theorem Lists.insert (lists : cache.Lists kept) (key : κ) (page : α) :
    (cache.insert key page).Lists (kept.put key page) := by
  rw [PageCache.insert]
  split
  · rename_i known
    exact lists.touch_insert (Std.HashMap.mem_iff_contains.mpr known) page
  · rename_i unknown
    have missing : key ∉ kept.entries.map Prod.fst := by
      rw [← lists.mem_pages_iff, Std.HashMap.mem_iff_contains]
      exact unknown
    have queue : cache.queue ++ [key] = (Recency.renewed kept.entries key page).map Prod.fst := by
      rw [Recency.renewed_of_missing missing, List.map_append, lists.queue_eq]
      rfl
    obtain ⟨left, found⟩ := evict_lists cache.limit (Recency.nodup_renewed kept.nodup key page)
      (lists.getElem?_insert key page)
    rw [queue]
    refine ⟨(evict_limit _ _ _).trans lists.limit_eq, ?_, fun other => ?_⟩
    · rw [left, lists.limit_eq]
      rfl
    · rw [found, lists.limit_eq]
      rfl

/-- Looking up is answered alike, and a page that is found moves to the end. -/
theorem Lists.get (lists : cache.Lists kept) (key : κ) :
    (cache.get key).1 = (kept.get key).1 ∧ (cache.get key).2.Lists (kept.get key).2 := by
  have same := lists.getElem?_eq key
  cases found : cache.pages[key]? with
  | none =>
    rw [get_of_none found, Recency.get, ← same, found]
    exact ⟨rfl, lists⟩
  | some page =>
    rw [get_of_some found, Recency.get, ← same, found]
    refine ⟨rfl, ?_⟩
    -- The page that is found is put once more: the map finds the same pages as before.
    have present : key ∈ cache.pages := Std.HashMap.mem_iff_isSome_getElem?.mpr (by rw [found]; rfl)
    have touched := lists.touch_insert present page
    refine ⟨touched.limit_eq, touched.queue_eq, fun other => ?_⟩
    rw [← touched.getElem?_eq other]
    show cache.pages[other]? = (cache.pages.insert key page)[other]?
    rw [Std.HashMap.getElem?_insert]
    split
    · rename_i here
      rw [← eq_of_beq here, found]
    · rfl

/-- A use of a cache is a use of its list. -/
theorem Lists.after (lists : cache.Lists kept) (use : CacheUse κ α) :
    (cache.after use).1 = (kept.after use).1 ∧ (cache.after use).2.Lists (kept.after use).2 := by
  cases use with
  | get key => exact lists.get key
  | insert key page => exact ⟨rfl, lists.insert key page⟩

theorem Lists.run (lists : cache.Lists kept) (uses : List (CacheUse κ α)) :
    (cache.run uses).1 = (kept.run uses).1 ∧ (cache.run uses).2.Lists (kept.run uses).2 := by
  induction uses generalizing cache kept with
  | nil => exact ⟨rfl, lists⟩
  | cons use rest ih =>
    obtain ⟨answer, next⟩ := lists.after use
    obtain ⟨answers, final⟩ := ih next
    exact ⟨congrArg₂ List.cons answer answers, final⟩

/-- A new page comes to the end, and the pages at the front leave, as many as exceed the limit. -/
theorem Lists.insert_of_not_mem (lists : cache.Lists kept) {key : κ} (missing : key ∉ cache.pages)
    (page : α) :
    (cache.insert key page).queue = (cache.queue ++ [key]).drop (cache.size + 1 - limit) ∧
      ∀ other, (cache.insert key page).pages[other]? =
        if other ∈ (cache.queue ++ [key]).take (cache.size + 1 - limit) then none
        else if other == key then some page else cache.pages[other]? := by
  have renewed := Recency.renewed_of_missing ((lists.mem_pages_iff key).not.mp missing) page
  have queue : cache.queue ++ [key] = (Recency.renewed kept.entries key page).map Prod.fst := by
    rw [renewed, List.map_append, lists.queue_eq]
    rfl
  have length : (Recency.renewed kept.entries key page).length = cache.size + 1 := by
    rw [renewed, List.length_append, lists.size_eq]
    rfl
  have next := lists.insert key page
  have entries : (kept.put key page).entries =
      (Recency.renewed kept.entries key page).drop (cache.size + 1 - limit) := by
    rw [← length]
    rfl
  refine ⟨?_, fun other => ?_⟩
  · rw [next.queue_eq, entries, List.map_drop, queue]
  · rw [next.getElem?_eq, Recency.page?, entries,
      Recency.lookup_drop (Recency.nodup_renewed kept.nodup key page), ← queue,
      Recency.lookup_renewed, lists.getElem?_eq]
    rfl

end Lists

/-! ## Main result -/

/-- A page that is put in place of another one takes its key to the end, and nothing else changes. -/
theorem insert_of_mem {cache : PageCache κ α} {key : κ} (present : key ∈ cache.pages) (page : α) :
    (cache.insert key page).queue = cache.queue.erase key ++ [key] ∧
      ∀ other, (cache.insert key page).pages[other]? =
        if other == key then some page else cache.pages[other]? := by
  rw [PageCache.insert, if_pos (Std.HashMap.mem_iff_contains.mp present)]
  refine ⟨rfl, fun other => ?_⟩
  rw [BEq.comm]
  exact Std.HashMap.getElem?_insert

theorem get_queue (cache : PageCache κ α) (key : κ) :
    (cache.get key).1 = cache.pages[key]? ∧ (cache.get key).2.queue =
      if key ∈ cache.pages then cache.queue.erase key ++ [key] else cache.queue := by
  have known := Std.HashMap.mem_iff_isSome_getElem? (m := cache.pages) (a := key)
  cases found : cache.pages[key]? with
  | none =>
    rw [get_of_none found, if_neg (known.not.mpr (by simp [found]))]
    exact ⟨rfl, rfl⟩
  | some page =>
    rw [get_of_some found, if_pos (known.mpr (by simp [found]))]
    exact ⟨rfl, rfl⟩

/-- After any uses a cache stands for the list of its pages by last use: it has given the answers that
the list gives, its queue has the keys of the list and its map the pages. Every key of the map is in the
queue once, and the limit is met. Each page is the one that was put last under its key. Looking up a page
that is there takes its key to the end and else changes nothing; a page put under a key that is there
takes the place of the page and goes to the end; and when a new page is put, exactly those at the front
of the queue leave that exceed the limit, and all others are found as before. -/
theorem run_recency (limit : Nat) (uses : List (CacheUse κ α)) :
    let kept := (Recency.empty limit).run uses
    let run := (empty limit : PageCache κ α).run uses
    run.1 = kept.1 ∧ run.2.Lists kept.2 ∧
      (run.2.queue.Nodup ∧ (∀ key, key ∈ run.2.queue ↔ key ∈ run.2.pages) ∧
        run.2.size = run.2.queue.length ∧ run.2.size ≤ limit) ∧
      (∀ key page, run.2.pages[key]? = some page →
        LastOf uses (.insert key page) fun use => ∃ other, use = .insert key other) ∧
      (∀ key, (run.2.get key).1 = run.2.pages[key]? ∧ (run.2.get key).2.pages = run.2.pages ∧
        (run.2.get key).2.queue =
          if key ∈ run.2.pages then run.2.queue.erase key ++ [key] else run.2.queue) ∧
      ∀ key page,
        (key ∈ run.2.pages → (run.2.insert key page).queue = run.2.queue.erase key ++ [key] ∧
          ∀ other, (run.2.insert key page).pages[other]? =
            if other == key then some page else run.2.pages[other]?) ∧
        (key ∉ run.2.pages →
          (run.2.insert key page).queue = (run.2.queue ++ [key]).drop (run.2.size + 1 - limit) ∧
          ∀ other, (run.2.insert key page).pages[other]? =
            if other ∈ (run.2.queue ++ [key]).take (run.2.size + 1 - limit) then none
            else if other == key then some page else run.2.pages[other]?) := by
  intro kept run
  obtain ⟨answers, lists⟩ : run.1 = kept.1 ∧ run.2.Lists kept.2 := (lists_empty limit).run uses
  have queue := lists.queue_eq
  refine ⟨answers, lists, ⟨?_, ?_, ?_, ?_⟩, ?_, ?_, ?_⟩
  · rw [queue]
    exact kept.2.nodup
  · intro key
    rw [queue, lists.mem_pages_iff]
  · rw [lists.size_eq, queue, List.length_map]
  · rw [lists.size_eq]
    exact kept.2.length_le
  · intro key page found
    rw [lists.getElem?_eq] at found
    obtain ⟨front, back, split, -⟩ := List.lookup_eq_some_iff.mp found
    have member : (key, page) ∈ kept.2.entries := by
      rw [split]
      exact List.mem_append_right _ List.mem_cons_self
    exact Recency.lastOf_of_mem_run member
  · intro key
    obtain ⟨answer, moved⟩ := get_queue run.2 key
    exact ⟨answer, get_pages run.2 key, moved⟩
  · intro key page
    exact ⟨fun present => insert_of_mem present page, fun missing => lists.insert_of_not_mem missing page⟩

/-- Of two pages the one looked up stays when a third one comes. -/
theorem run_recency_third :
    let uses : List (CacheUse UInt64 String) :=
      [.insert 1 "one", .insert 2 "two", .get 1, .insert 3 "three", .get 2, .get 1]
    ((empty 2 : PageCache UInt64 String).run uses).1 =
        [none, none, some "one", none, none, some "one"] ∧
      ((empty 2 : PageCache UInt64 String).run uses).2.queue = [3, 1] := by
  intro uses
  obtain ⟨answers, lists, -⟩ := run_recency 2 uses
  exact ⟨answers.trans (by decide), lists.queue_eq.trans (by decide)⟩

end PageCache

end LiveMarkup
