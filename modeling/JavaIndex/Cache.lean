/-!
# Caches

A cache is a finite table with distinct keys. Every operation that may displace a
value also returns what was displaced, and a contested write asks a decision
function which of the two values stays.

## Main definitions

* `Cache` — a table with distinct keys
* `Cache.get?`, `Cache.contains`, `Cache.keys`, `Cache.values`, `Cache.size` — what it holds
* `Cache.put`, `Cache.putUnless`, `Cache.remove` — the table after a change, and the
  value that lost its place
-/

namespace JavaIndex

/-- A finite table: pairs with pairwise different keys. -/
structure Cache (κ : Type) (ν : Type) where
  entries : List (κ × ν)
  distinct : (entries.map Prod.fst).Nodup

namespace Cache

variable {κ ν : Type} [DecidableEq κ]

/-- The cache without entries. -/
def empty : Cache κ ν := ⟨[], List.Pairwise.nil⟩

/-- The value stored under a key. -/
def get? (cache : Cache κ ν) (key : κ) : Option ν :=
  cache.entries.lookup key

/-- Whether a key has an entry. -/
def contains (cache : Cache κ ν) (key : κ) : Bool :=
  (cache.get? key).isSome

omit [DecidableEq κ] in
/-- The keys, each once. -/
def keys (cache : Cache κ ν) : List κ :=
  cache.entries.map Prod.fst

omit [DecidableEq κ] in
/-- The stored values, one for each key. -/
def values (cache : Cache κ ν) : List ν :=
  cache.entries.map Prod.snd

omit [DecidableEq κ] in
/-- The number of entries. -/
def size (cache : Cache κ ν) : Nat :=
  cache.entries.length

omit [DecidableEq κ] in
/-- Whether there are no entries. -/
def isEmpty (cache : Cache κ ν) : Bool :=
  cache.entries.isEmpty

/-- The entries of all other keys. -/
def others (key : κ) (entries : List (κ × ν)) : List (κ × ν) :=
  entries.filter fun entry => entry.1 ≠ key

theorem nodup_others (key : κ) {entries : List (κ × ν)} (distinct : (entries.map Prod.fst).Nodup) :
    ((others key entries).map Prod.fst).Nodup :=
  distinct.sublist (List.filter_sublist.map _)

theorem key_notMem_others (key : κ) (entries : List (κ × ν)) :
    key ∉ (others key entries).map Prod.fst := by
  intro mem
  obtain ⟨entry, inOthers, rfl⟩ := List.mem_map.mp mem
  simp [others] at inOthers

/-- The cache without an entry for the key. -/
def erase (cache : Cache κ ν) (key : κ) : Cache κ ν :=
  ⟨others key cache.entries, nodup_others key cache.distinct⟩

/-- The cache with the value under the key, whatever was there before. -/
def insert (cache : Cache κ ν) (key : κ) (value : ν) : Cache κ ν :=
  ⟨(key, value) :: others key cache.entries,
    List.nodup_cons.mpr ⟨key_notMem_others key cache.entries, nodup_others key cache.distinct⟩⟩

/-- Stores a value and returns the one it displaces. -/
def put (cache : Cache κ ν) (key : κ) (value : ν) : Option ν × Cache κ ν :=
  (cache.get? key, cache.insert key value)

/-- Stores a value unless the key is taken and `keep current value` decides for the
current one; returns the value that loses the contest, if there is one. -/
def putUnless (cache : Cache κ ν) (key : κ) (value : ν) (keep : ν → ν → Bool) :
    Option ν × Cache κ ν :=
  match cache.get? key with
  | none => (none, cache.insert key value)
  | some current =>
    if keep current value then (some value, cache)
    else (some current, cache.insert key value)

/-- Removes an entry and returns its value. -/
def remove (cache : Cache κ ν) (key : κ) : Option ν × Cache κ ν :=
  (cache.get? key, cache.erase key)

end Cache

end JavaIndex
