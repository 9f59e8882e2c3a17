import JavaIndex.Cache
import Mathlib.Data.List.Nodup

/-!
# Caches as finite maps

What a cache holds is its lookup function: each change moves the value of one key
and leaves the others alone. The lists of keys, values and entries are read off
the lookup function as well, so no later proof looks at the list of pairs.

## Main results

* `Cache.get?_insert`, `Cache.get?_erase`, `Cache.get?_putUnless` — lookups after a change
* `Cache.mem_entries`, `Cache.mem_keys`, `Cache.mem_values` — what the lists contain
* `Cache.perm_entries`, `Cache.entries_erase_of_absent` — the entries beside that of a key
-/

namespace JavaIndex.Cache

variable {κ ν : Type} [DecidableEq κ] {cache : Cache κ ν} {key other : κ} {value : ν}

@[simp] theorem get?_empty (key : κ) : (empty : Cache κ ν).get? key = none := rfl

theorem lookup_cons_eq (first other : κ) (value : ν) (rest : List (κ × ν)) :
    ((first, value) :: rest).lookup other =
      if other = first then some value else rest.lookup other := by
  rw [List.lookup_cons]
  by_cases same : other = first
  · simp [same]
  · rw [beq_eq_false_iff_ne.mpr same, if_neg same]

/-- The entries of other keys answer every other lookup as before. -/
theorem lookup_others (key other : κ) (entries : List (κ × ν)) :
    (others key entries).lookup other = if other = key then none else entries.lookup other := by
  induction entries with
  | nil => simp [others]
  | cons entry rest ih =>
    obtain ⟨first, value⟩ := entry
    by_cases same : first = key
    · have dropped : others key ((first, value) :: rest) = others key rest := by
        simp [others, same]
      rw [dropped, ih, lookup_cons_eq, same]
      split_ifs <;> rfl
    · have kept : others key ((first, value) :: rest) = (first, value) :: others key rest := by
        simp [others, same]
      rw [kept, lookup_cons_eq, lookup_cons_eq, ih]
      by_cases asked : other = key
      · rw [if_neg (asked ▸ Ne.symm same), if_pos asked, if_pos asked]
      · simp only [asked, if_false]

theorem get?_erase (cache : Cache κ ν) (key other : κ) :
    (cache.erase key).get? other = if other = key then none else cache.get? other :=
  lookup_others key other cache.entries

theorem get?_insert (cache : Cache κ ν) (key other : κ) (value : ν) :
    (cache.insert key value).get? other = if other = key then some value else cache.get? other := by
  change List.lookup other ((key, value) :: others key cache.entries) = _
  rw [lookup_cons_eq, lookup_others]
  by_cases same : other = key
  · simp only [same, if_true]
  · simp only [same, if_false, get?]

@[simp] theorem get?_erase_self (cache : Cache κ ν) (key : κ) :
    (cache.erase key).get? key = none := by
  simp [get?_erase]

@[simp] theorem get?_insert_self (cache : Cache κ ν) (key : κ) (value : ν) :
    (cache.insert key value).get? key = some value := by
  simp [get?_insert]

/-- The value that a contested write leaves behind. -/
def settled (keep : ν → ν → Bool) (value : ν) : Option ν → ν
  | none => value
  | some current => if keep current value then current else value

theorem get?_putUnless (cache : Cache κ ν) (key other : κ) (value : ν) (keep : ν → ν → Bool) :
    (cache.putUnless key value keep).2.get? other =
      if other = key then some (settled keep value (cache.get? key)) else cache.get? other := by
  unfold putUnless
  cases found : cache.get? key with
  | none => rw [get?_insert]; rfl
  | some current =>
    by_cases kept : keep current value
    · by_cases same : other = key
      · simp [kept, same, settled, found]
      · simp [kept, same]
    · simp only [kept, settled, get?_insert, Bool.false_eq_true, if_false]

/-! ### Contents -/

theorem mem_entries : (key, value) ∈ cache.entries ↔ cache.get? key = some value := by
  obtain ⟨entries, distinct⟩ := cache
  change _ ↔ entries.lookup key = some value
  induction entries with
  | nil => simp
  | cons entry rest ih =>
    obtain ⟨first, stored⟩ := entry
    simp only [List.map_cons, List.nodup_cons, List.mem_map, Prod.exists, exists_and_right,
      exists_eq_right, not_exists] at distinct
    rw [List.mem_cons, ih distinct.2, lookup_cons_eq]
    by_cases same : key = first
    · have fresh : ¬ rest.lookup key = some value := by
        intro found
        exact distinct.1 value (same ▸ (ih distinct.2).mpr found)
      simp [same, same ▸ fresh, eq_comm]
    · simp [same]

theorem mem_keys : key ∈ cache.keys ↔ ∃ value, cache.get? key = some value := by
  simp only [keys, List.mem_map, Prod.exists, exists_and_right, exists_eq_right, mem_entries]

theorem mem_values : value ∈ cache.values ↔ ∃ key, cache.get? key = some value := by
  simp only [values, List.mem_map, Prod.exists, exists_eq_right, mem_entries]

theorem contains_iff : cache.contains key = true ↔ ∃ value, cache.get? key = some value := by
  rw [contains, Option.isSome_iff_exists]

omit [DecidableEq κ] in
theorem nodup_entries (cache : Cache κ ν) : cache.entries.Nodup :=
  cache.distinct.of_map _

/-- What is stored under a key, and the entries of all other keys. -/
theorem perm_entries (found : cache.get? key = some value) :
    cache.entries.Perm ((key, value) :: (cache.erase key).entries) := by
  rw [List.perm_ext_iff_of_nodup (nodup_entries cache)]
  · rintro ⟨other, stored⟩
    rw [List.mem_cons, mem_entries, mem_entries, get?_erase, Prod.mk.injEq]
    by_cases same : other = key
    · simp [same, found, eq_comm]
    · simp [same]
  · refine List.nodup_cons.mpr ⟨?_, nodup_entries _⟩
    rw [mem_entries, get?_erase_self]
    simp

theorem entries_erase_of_absent (absent : cache.get? key = none) :
    (cache.erase key).entries = cache.entries := by
  apply List.filter_eq_self.mpr
  intro entry member
  have found : cache.get? entry.1 = some entry.2 := mem_entries.mp member
  apply decide_eq_true
  intro same
  rw [same, absent] at found
  cases found

end JavaIndex.Cache
