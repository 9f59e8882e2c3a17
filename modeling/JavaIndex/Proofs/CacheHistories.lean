import JavaIndex.Proofs.Caches
import Mathlib.Data.List.Induction

/-!
# Caches over their whole history

A cache is a finite map, whatever was done to it before. Under each key it has the value of
the last write that took effect, unless the key was cleared since: a `put` always takes
effect, a `putUnless` does on a vacant key or if its decision goes against the current value,
and a removal or a reset clears. All that a cache tells of itself, and every value that it
hands back, follows from that.

## Main definitions

* `Cache.Operation`, `Cache.perform`, `Cache.run` — one call of a cache, and a history of calls
* `Cache.Writes`, `Cache.Clears` — the calls that change what is under a key
* `Cache.LastWritten` — a value was written under a key and has stayed there since
* `Cache.MapsHistory` — a cache answers every question as its history demands

## Main results

* `Cache.get?_perform` — what one call does to what is under a key
* `Cache.get?_run` — what is under a key after a history
* `Cache.mapsHistory_run` — after every history a cache is the finite map of that history
-/

namespace JavaIndex.Cache

/-- A call of a cache. -/
inductive Operation (κ ν : Type) where
  | put (key : κ) (value : ν)
  | putUnless (key : κ) (value : ν) (keep : ν → ν → Bool)
  | remove (key : κ)
  | reset
  | get (key : κ)
  | contains (key : κ)
  | keys
  | values
  | size
  | isEmpty

/-- The key that a call is about; calls about the whole cache have none. -/
def Operation.key? {κ ν : Type} : Operation κ ν → Option κ
  | put key _ | putUnless key _ _ | remove key | get key | contains key => some key
  | reset | keys | values | size | isEmpty => none

variable {κ ν : Type} [DecidableEq κ] {cache : Cache κ ν} {operation : Operation κ ν}
  {history : List (Operation κ ν)} {key other : κ} {value : ν}

/-- The cache after a call. Questions leave it as it is. -/
def perform (cache : Cache κ ν) : Operation κ ν → Cache κ ν
  | .put key value => (cache.put key value).2
  | .putUnless key value keep => (cache.putUnless key value keep).2
  | .remove key => (cache.remove key).2
  | .reset => empty
  | .get _ | .contains _ | .keys | .values | .size | .isEmpty => cache

/-- The cache after a history of calls, the earliest first. -/
def run (history : List (Operation κ ν)) : Cache κ ν :=
  history.foldl perform empty

theorem run_concat (history : List (Operation κ ν)) (operation : Operation κ ν) :
    run (history ++ [operation]) = (run history).perform operation :=
  List.foldl_append

/-! ### Writes that take effect -/

/-- The call writes the value under the key, and the cache lets it. -/
def Writes (cache : Cache κ ν) (key : κ) (value : ν) : Operation κ ν → Prop
  | .put target written => target = key ∧ written = value
  | .putUnless target written keep => target = key ∧ written = value ∧
      ∀ current, cache.get? key = some current → keep current written = false
  | _ => False

omit [DecidableEq κ] in
/-- The call takes away whatever is under the key. -/
def Clears (key : κ) : Operation κ ν → Prop
  | .remove target => target = key
  | .reset => True
  | _ => False

/-- The call neither writes under the key nor clears it. -/
def Leaves (cache : Cache κ ν) (key : κ) (operation : Operation κ ν) : Prop :=
  ¬ Clears key operation ∧ ∀ value, ¬ cache.Writes key value operation

/-- At some point of the history the value was written under the key, and every call since
then has left the key alone. -/
def LastWritten (history : List (Operation κ ν)) (key : κ) (value : ν) : Prop :=
  ∃ earlier operation later, history = earlier ++ operation :: later ∧
    (run earlier).Writes key value operation ∧
    ∀ between next rest, later = between ++ next :: rest →
      (run (earlier ++ operation :: between)).Leaves key next

/-- What is under a key after a call: what the call wrote there, or what was there before if
the call leaves the key alone. -/
theorem get?_perform (cache : Cache κ ν) (operation : Operation κ ν) (key : κ) (value : ν) :
    (cache.perform operation).get? key = some value ↔
      cache.Writes key value operation ∨
        cache.get? key = some value ∧ cache.Leaves key operation := by
  cases operation with
  | put target written =>
    rw [perform, put, get?_insert]
    by_cases same : key = target
    · simp [same, Writes, Leaves]
    · simp [same, Ne.symm same, Writes, Leaves, Clears]
  | putUnless target written keep =>
    rw [perform, get?_putUnless]
    by_cases same : key = target
    · subst same
      cases found : cache.get? key with
      | none => simp [settled, Writes, Leaves, found]
      | some current =>
        by_cases kept : keep current written = true
        · simp [settled, Writes, Leaves, Clears, found, kept]
        · simp [settled, Writes, Leaves, Clears, found, kept]
    · simp [same, Ne.symm same, Writes, Leaves, Clears]
  | remove target =>
    rw [perform, remove, get?_erase]
    by_cases same : key = target
    · simp [same, Writes, Leaves, Clears]
    · simp [same, Ne.symm same, Writes, Leaves, Clears]
  | reset => simp [perform, Writes, Leaves, Clears]
  | get | contains | keys | values | size | isEmpty => simp [perform, Writes, Leaves, Clears]

/-- One call more writes the value, or the value was written before and the call leaves it. -/
theorem lastWritten_concat (history : List (Operation κ ν)) (operation : Operation κ ν)
    (key : κ) (value : ν) : LastWritten (history ++ [operation]) key value ↔
      (run history).Writes key value operation ∨
        LastWritten history key value ∧ (run history).Leaves key operation := by
  constructor
  · rintro ⟨earlier, writing, later, split, writes, left⟩
    rcases List.eq_nil_or_concat later with rfl | ⟨later, last, rfl⟩
    · obtain ⟨rfl, same⟩ := List.append_inj' split rfl
      obtain rfl : operation = writing := List.singleton_inj.mp same
      exact .inl writes
    · rw [List.concat_eq_append, ← List.cons_append, ← List.append_assoc] at split
      obtain ⟨rfl, same⟩ := List.append_inj' split rfl
      obtain rfl : operation = last := List.singleton_inj.mp same
      refine .inr ⟨⟨earlier, writing, later, rfl, writes, ?_⟩, left later operation [] (by simp)⟩
      rintro between next rest rfl
      exact left between next (rest ++ [operation]) (by simp)
  · rintro (writes | ⟨⟨earlier, writing, later, rfl, writes, left⟩, leaves⟩)
    · exact ⟨history, operation, [], rfl, writes, by simp⟩
    · refine ⟨earlier, writing, later ++ [operation], by simp, writes, ?_⟩
      intro between next rest split
      rcases List.eq_nil_or_concat rest with rfl | ⟨rest, last, rfl⟩
      · obtain ⟨rfl, same⟩ := List.append_inj' split rfl
        obtain rfl : operation = next := List.singleton_inj.mp same
        exact leaves
      · rw [List.concat_eq_append, ← List.cons_append, ← List.append_assoc] at split
        exact left between next rest (List.append_inj' split rfl).1

/-- Under each key is what was last written there. -/
theorem get?_run (history : List (Operation κ ν)) (key : κ) (value : ν) :
    (run history).get? key = some value ↔ LastWritten history key value := by
  induction history using List.reverseRecOn generalizing value with
  | nil => simp [run, LastWritten]
  | append_singleton history operation ih =>
    rw [run_concat, get?_perform, lastWritten_concat, ih]

/-! ### What a cache tells of itself -/

/-- A call that is about other keys leaves what is under a key. -/
theorem get?_perform_of_ne (cache : Cache κ ν) (notReset : operation ≠ .reset)
    (elsewhere : operation.key? ≠ some other) :
    (cache.perform operation).get? other = cache.get? other := by
  have leaves : cache.Leaves other operation := by
    cases operation <;> simp_all [Leaves, Clears, Writes, Operation.key?]
  have writesNothing := leaves.2
  ext value
  simp [get?_perform, leaves, writesNothing]

/-- The values, one for each key. -/
theorem perm_values (cache : Cache κ ν) :
    (cache.values.map some).Perm (cache.keys.map cache.get?) := by
  have stored : cache.entries.map (fun entry => cache.get? entry.1) =
      cache.entries.map fun entry => some entry.2 :=
    List.map_congr_left fun entry member => mem_entries.mp member
  rw [values, keys, List.map_map, List.map_map]
  exact .of_eq stored.symm

/-- The cache answers every question, and hands back every value, as the finite map that its
history amounts to. -/
structure MapsHistory (cache : Cache κ ν) (history : List (Operation κ ν)) : Prop where
  nodup_keys : cache.keys.Nodup
  size : cache.size = cache.keys.length
  isEmpty : cache.isEmpty = true ↔ cache.keys = []
  values : (cache.values.map some).Perm (cache.keys.map cache.get?)
  contains : ∀ key, cache.contains key = true ↔ (cache.get? key).isSome = true
  present : ∀ key, (cache.get? key).isSome = true ↔ key ∈ cache.keys
  get : ∀ key value, cache.get? key = some value ↔ LastWritten history key value
  /-- A call about one key changes no other. -/
  others : ∀ operation other, operation ≠ .reset → operation.key? ≠ some other →
    (cache.perform operation).get? other = cache.get? other
  /-- A `put` hands back the value that it displaces. -/
  put : ∀ key value displaced,
    (cache.put key value).1 = some displaced ↔ LastWritten history key displaced
  remove : ∀ key removed,
    (cache.remove key).1 = some removed ↔ LastWritten history key removed
  /-- A `putUnless` hands back the one of the two values that the decision goes against. -/
  putUnless : ∀ key value keep losing,
    (cache.putUnless key value keep).1 = some losing ↔
      ∃ current, LastWritten history key current ∧
        losing = if keep current value = true then value else current

theorem putUnless_fst (cache : Cache κ ν) (key : κ) (value : ν) (keep : ν → ν → Bool) :
    (cache.putUnless key value keep).1 =
      (cache.get? key).map fun current => if keep current value then value else current := by
  unfold putUnless
  cases cache.get? key with
  | none => rfl
  | some current => by_cases kept : keep current value <;> simp [kept]

/-- After every history a cache is the finite map of that history. -/
theorem mapsHistory_run (history : List (Operation κ ν)) : (run history).MapsHistory history where
  nodup_keys := (run history).distinct
  size := (List.length_map Prod.fst).symm
  isEmpty := by rw [Cache.isEmpty, keys, List.isEmpty_iff, List.map_eq_nil_iff]
  values := perm_values _
  contains key := Iff.rfl
  present key := by rw [mem_keys, Option.isSome_iff_exists]
  get := get?_run history
  others operation other := get?_perform_of_ne _
  put key value displaced := get?_run history key displaced
  remove key removed := get?_run history key removed
  putUnless key value keep losing := by
    rw [putUnless_fst, Option.map_eq_some_iff]
    exact exists_congr fun current => and_congr (get?_run history key current) eq_comm

example :
    let smaller (current new : Nat) : Bool := current < new
    let cache := run [.put "a" 3, .putUnless "a" 2 smaller, .putUnless "a" 5 smaller,
      .put "b" 1, .remove "b"]
    cache.get? "a" = some 2 ∧ cache.keys = ["a"] := by decide

end JavaIndex.Cache
