import Std.Data.HashMap

/-!
# Page caches

A cache holds at most `limit` pages under their keys and a queue of the keys by last use. A page
that is found moves to the end of the queue; a new page makes the pages at the front of the queue
leave until the limit is met.
-/

set_option autoImplicit false

namespace LiveMarkup

/-- Pages by key, and the keys from the one used longest ago to the one used last. -/
structure PageCache (κ α : Type) [BEq κ] [Hashable κ] where
  limit : Nat
  pages : Std.HashMap κ α
  queue : List κ

namespace PageCache

variable {κ α : Type} [BEq κ] [Hashable κ]

/-- The cache without pages. -/
def empty (limit : Nat) : PageCache κ α := ⟨limit, ∅, []⟩

/-- The number of pages. -/
def size (cache : PageCache κ α) : Nat := cache.pages.size

/-- Makes a key the one used last. -/
def touch (cache : PageCache κ α) (key : κ) : PageCache κ α :=
  { cache with queue := cache.queue.erase key ++ [key] }

/-- The page under a key, which is then the one used last. -/
def get (cache : PageCache κ α) (key : κ) : Option α × PageCache κ α :=
  match cache.pages[key]? with
  | some page => (some page, cache.touch key)
  | none => (none, cache)

/-- Drops the pages used longest ago until at most `limit` are left. -/
def evict (limit : Nat) (pages : Std.HashMap κ α) : List κ → PageCache κ α
  | [] => ⟨limit, pages, []⟩
  | oldest :: rest =>
    if pages.size ≤ limit then ⟨limit, pages, oldest :: rest⟩
    else evict limit (pages.erase oldest) rest

/-- Puts a page under a key, which is then the one used last. -/
def insert (cache : PageCache κ α) (key : κ) (page : α) : PageCache κ α :=
  if cache.pages.contains key then
    { cache with pages := cache.pages.insert key page }.touch key
  else evict cache.limit (cache.pages.insert key page) (cache.queue ++ [key])

end PageCache

end LiveMarkup
