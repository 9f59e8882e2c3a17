import JavaIndex.Proofs.CacheHistories
import JavaIndex.Proofs.Tables
import Mathlib.Order.RelClasses

/-!
# Contests for a key

A value is offered to a key by a `putUnless` that keeps the current value only if that one comes
before the new one. When several values are offered one after another, the least of them is stored
in the end, whatever the order of the offers and whatever happens to other keys in between. No
value is lost or made up: every offer but the one that is stored is handed back by some call.

The values may be ordered themselves, or by a rank that they have, such as the path of a record;
then the values that are offered have to differ in rank, since of two values of the same rank the
later one would win.

## Main definitions

* `Cache.Contest` — a history in which a key sees nothing but offers, and the values offered
* `Cache.handedBack` — what the offers of a history hand back
* `Cache.SettlesOn` — all contests of the same offers have the same outcome

## Main results

* `Cache.perm_putUnless` — an offer loses nothing, whatever the decision
* `Cache.LeastAmong.putUnless` — the least of the values so far and the one offered is stored
* `Cache.Contest.perm`, `Cache.Contest.leastAmong` — the same for a whole contest
* `Cache.contests_settle` — a contest is settled by the least offer
-/

namespace JavaIndex.Cache

variable {κ ν ρ : Type} [DecidableEq κ] {cache : Cache κ ν} {key : κ}
  {keep : ν → ν → Bool} {history : List (Operation κ ν)} {offers : List ν}

/-! ### Histories of offers -/

/-- In the history, every call about the key offers it a value, and the cache is never reset. The
values are listed in the order of their offers. -/
inductive Contest (key : κ) (keep : ν → ν → Bool) : List (Operation κ ν) → List ν → Prop
  | nil : Contest key keep [] []
  | offer (value : ν) {history : List (Operation κ ν)} {offers : List ν}
    (later : Contest key keep history offers) :
    Contest key keep (.putUnless key value keep :: history) (value :: offers)
  | elsewhere {operation : Operation κ ν} {history : List (Operation κ ν)} {offers : List ν}
    (notReset : operation ≠ .reset) (aboutOther : operation.key? ≠ some key)
    (later : Contest key keep history offers) :
    Contest key keep (operation :: history) offers

/-- The value that a call about the key hands back, if it is an offer. -/
def handedBackBy (cache : Cache κ ν) (key : κ) : Operation κ ν → Option ν
  | .putUnless target value keep =>
    if target = key then (cache.putUnless target value keep).1 else none
  | _ => none

/-- The values that the offers of a history hand back, in order. -/
def handedBack (key : κ) : Cache κ ν → List (Operation κ ν) → List ν
  | _, [] => []
  | cache, operation :: later =>
    (cache.handedBackBy key operation).toList ++ handedBack key (cache.perform operation) later

/-- Whatever cache it starts with, as long as the key is vacant there, and whatever the order of
the offers, a contest ends with the value stored and all the others handed back. -/
def SettlesOn (key : κ) (keep : ν → ν → Bool) (offers : List ν) (stored : ν) : Prop :=
  ∀ (cache : Cache κ ν) (history : List (Operation κ ν)) (order : List ν),
    cache.get? key = none → order.Perm offers → Contest key keep history order →
      (history.foldl perform cache).get? key = some stored ∧
        (stored :: handedBack key cache history).Perm offers

/-! ### Nothing is lost -/

/-- An offer leaves one of the two values in its place and hands back the other. -/
theorem perm_putUnless (cache : Cache κ ν) (key : κ) (value : ν) (keep : ν → ν → Bool) :
    (((cache.putUnless key value keep).2.get? key).toList ++
      (cache.putUnless key value keep).1.toList).Perm ((cache.get? key).toList ++ [value]) := by
  rw [get?_putUnless, if_pos rfl, putUnless_fst]
  cases cache.get? key with
  | none => exact .refl _
  | some current =>
    by_cases kept : keep current value
    · simp [settled, kept]
    · simpa [settled, kept] using .swap current value []

theorem handedBackBy_elsewhere {operation : Operation κ ν} (cache : Cache κ ν)
    (aboutOther : operation.key? ≠ some key) : cache.handedBackBy key operation = none := by
  cases operation with
  | putUnless target value keep =>
    exact if_neg fun same => aboutOther (congrArg some same)
  | _ => rfl

/-- What was there and what is offered is, after all, what is there and what was handed back. -/
theorem Contest.perm (contest : Contest key keep history offers) (cache : Cache κ ν) :
    (((history.foldl perform cache).get? key).toList ++ handedBack key cache history).Perm
      ((cache.get? key).toList ++ offers) := by
  induction contest generalizing cache with
  | nil => exact .refl _
  | @offer value history offers later ih =>
    have here : cache.handedBackBy key (.putUnless key value keep) =
        (cache.putUnless key value keep).1 := if_pos rfl
    rw [List.foldl_cons, handedBack, here]
    -- The value handed back first is moved to the end, where it makes up for the offer.
    have once := (perm_putUnless cache key value keep).append_right offers
    rw [List.append_assoc, List.append_assoc, List.singleton_append] at once
    refine (List.perm_append_comm_assoc _ _ _).trans ?_
    refine ((ih (cache.perform (.putUnless key value keep))).append_left _).trans ?_
    exact (List.perm_append_comm_assoc _ _ _).trans once
  | elsewhere notReset aboutOther later ih =>
    rw [List.foldl_cons, handedBack, handedBackBy_elsewhere cache aboutOther,
      ← get?_perform_of_ne cache notReset aboutOther]
    exact ih _

/-! ### The least stays -/

/-- The decision for the current value if and only if it comes before the new one. -/
def keepsLess (less : ρ → ρ → Prop) [DecidableRel less] (rank : ν → ρ) (current new : ν) : Bool :=
  less (rank current) (rank new)

/-- What is stored is one of the values, and none of them comes before it; nothing is stored only
if there are no values. -/
def LeastAmong (less : ρ → ρ → Prop) (rank : ν → ρ) (values : List ν) : Option ν → Prop
  | none => values = []
  | some stored => stored ∈ values ∧ ∀ value ∈ values, ¬ less (rank value) (rank stored)

variable {less : ρ → ρ → Prop} [DecidableRel less] [IsStrictTotalOrder ρ less] {rank : ν → ρ}
  {values : List ν}

/-- An offer leaves the least of the values so far and the new one. -/
theorem LeastAmong.putUnless (least : LeastAmong less rank values (cache.get? key)) (value : ν) :
    LeastAmong less rank (values ++ [value])
      ((cache.putUnless key value (keepsLess less rank)).2.get? key) := by
  rw [get?_putUnless, if_pos rfl]
  cases found : cache.get? key with
  | none =>
    rw [found] at least
    obtain rfl : values = [] := least
    exact ⟨List.mem_cons_self, by simpa [settled] using irrefl_of less (rank value)⟩
  | some current =>
    rw [found] at least
    obtain ⟨member, first⟩ := least
    by_cases before : less (rank current) (rank value)
    · have stays : settled (keepsLess less rank) value (some current) = current := by
        simp [settled, keepsLess, before]
      rw [stays]
      refine ⟨List.mem_append_left _ member, List.forall_mem_append.mpr ⟨first, ?_⟩⟩
      simpa using asymm_of less before
    · have replaced : settled (keepsLess less rank) value (some current) = value := by
        simp [settled, keepsLess, before]
      rw [replaced]
      refine ⟨by simp, List.forall_mem_append.mpr ⟨fun other listed less' => ?_, ?_⟩⟩
      · rcases trichotomous_of less (rank current) (rank other) with behind | same | ahead
        · exact before (trans_of less behind less')
        · exact before (same ▸ less')
        · exact first other listed ahead
      · simpa using irrefl_of less (rank value)

/-- At the end of a contest the least of all values is stored. -/
theorem Contest.leastAmong (contest : Contest key (keepsLess less rank) history offers)
    (least : LeastAmong less rank values (cache.get? key)) :
    LeastAmong less rank (values ++ offers) ((history.foldl perform cache).get? key) := by
  -- The values so far grow by each offer, and calls about other keys leave what is stored.
  induction contest generalizing cache values with
  | nil => simpa using least
  | @offer value history offers later ih =>
    rw [List.foldl_cons, ← List.singleton_append, ← List.append_assoc]
    exact ih (least.putUnless value)
  | elsewhere notReset aboutOther later ih =>
    rw [List.foldl_cons]
    apply ih
    rwa [get?_perform_of_ne cache notReset aboutOther]

/-! ### Settled contests -/

omit [DecidableEq κ] in
theorem contest_offers (key : κ) (keep : ν → ν → Bool) (offers : List ν) :
    Contest key keep (offers.map fun value => .putUnless key value keep) offers := by
  induction offers with
  | nil => exact .nil
  | cons value later ih => exact .offer value ih

omit [DecidableRel less] in
theorem LeastAmong.eq_of_perm {stored stored' : ν} {values' : List ν}
    (least : LeastAmong less rank values (some stored))
    (least' : LeastAmong less rank values' (some stored')) (perm : values'.Perm values)
    (apart : ∀ left ∈ values, ∀ right ∈ values, rank left = rank right → left = right) :
    stored' = stored := by
  have listed := perm.mem_iff.mp least'.1
  rcases trichotomous_of less (rank stored') (rank stored) with before | same | behind
  · exact absurd before (least.2 stored' listed)
  · exact apart stored' listed stored least.1 same
  · exact absurd behind (least'.2 stored (perm.mem_iff.mpr least.1))

/-- A contest for a vacant key ends with the least of the offers, if there are any. -/
theorem Contest.exists_stored (contest : Contest key (keepsLess less rank) history offers)
    (vacant : cache.get? key = none) (nonempty : offers ≠ []) :
    ∃ stored, (history.foldl perform cache).get? key = some stored ∧
      LeastAmong less rank offers (some stored) := by
  have start : LeastAmong less rank [] (cache.get? key) := by
    rw [vacant]
    rfl
  have least := contest.leastAmong start
  rw [List.nil_append] at least
  cases found : (history.foldl perform cache).get? key with
  | none =>
    rw [found] at least
    exact absurd least nonempty
  | some stored => exact ⟨stored, rfl, found ▸ least⟩

variable (less rank) in
/-- If values of the same rank are the same, every contest is settled by the value of least
rank. -/
theorem exists_settlesOn (key : κ) (nonempty : offers ≠ [])
    (apart : ∀ left ∈ offers, ∀ right ∈ offers, rank left = rank right → left = right) :
    ∃ stored ∈ offers, (∀ value ∈ offers, value ≠ stored → less (rank stored) (rank value)) ∧
      SettlesOn key (keepsLess less rank) offers stored := by
  -- Which of the offers is the least can be read off any contest, as one on the empty cache.
  obtain ⟨stored, -, least⟩ := (contest_offers key (keepsLess less rank) offers).exists_stored
    (get?_empty key) nonempty
  refine ⟨stored, least.1, fun value listed differs => ?_, ?_⟩
  · rcases trichotomous_of less (rank stored) (rank value) with before | same | behind
    · exact before
    · exact absurd (apart stored least.1 value listed same).symm differs
    · exact absurd behind (least.2 value listed)
  · intro cache history order vacant perm contest
    have someOffer : order ≠ [] := by
      rintro rfl
      exact nonempty perm.nil_eq.symm
    obtain ⟨final, found, leastFinal⟩ := contest.exists_stored vacant someOffer
    obtain rfl : final = stored := least.eq_of_perm leastFinal perm apart
    have conserved := contest.perm cache
    rw [found, vacant] at conserved
    exact ⟨found, conserved.trans perm⟩

end JavaIndex.Cache

namespace JavaIndex

/-! ### Records by their paths -/

/-- The order of paths, as one of what different spellings share. -/
def Path.KeyBefore (left right : Path.Key) : Prop :=
  Component.compareLists left right = .lt

instance : DecidableRel Path.KeyBefore :=
  fun left right => inferInstanceAs (Decidable (Component.compareLists left right = .lt))

instance : IsStrictTotalOrder Path.Key Path.KeyBefore where
  irrefl key before := by
    have same : Component.compareLists key key = .eq := Std.LawfulEqCmp.compare_eq_iff_eq.mpr rfl
    rw [Path.KeyBefore, same] at before
    cases before
  trans _ _ _ first second :=
    @Std.TransCmp.lt_trans _ Component.compareLists _ _ _ _ first second
  trichotomous left right notBefore notBehind := by
    have swapped := @Std.OrientedCmp.eq_swap _ Component.compareLists _ right left
    rw [Path.KeyBefore] at notBefore notBehind
    rw [swapped] at notBehind
    apply @Std.LawfulEqCmp.eq_of_compare _ Component.compareLists
    cases compared : Component.compareLists left right with
    | lt => exact absurd compared notBefore
    | eq => rfl
    | gt => exact absurd (congrArg Ordering.swap compared) notBehind

/-- A name is contested by records in the order of their paths. -/
theorem Tables.keepsName_eq : keepsName = Cache.keepsLess Path.KeyBefore Record.key := by
  funext current claimant
  rw [Bool.eq_iff_iff, keepsName_iff, Cache.keepsLess, decide_eq_true_iff]
  rfl

namespace Cache

variable {κ : Type} [DecidableEq κ]

/-- Contests are settled by the least offer, whatever the order of the offers and whatever happens
to other keys, and all other offers are handed back: when the values are ordered themselves,
when they are ordered by something in which no two of the offers agree, and so when records
of different paths claim a name. -/
theorem contests_settle (key : κ) :
    (∀ (ν : Type) [LinearOrder ν] (offers : List ν), offers ≠ [] →
      ∃ stored ∈ offers, (∀ value ∈ offers, stored ≤ value) ∧
        SettlesOn key (fun current new => current < new) offers stored) ∧
    (∀ (ν ρ : Type) (less : ρ → ρ → Prop) [DecidableRel less] [IsStrictTotalOrder ρ less]
      (rank : ν → ρ) (offers : List ν), offers ≠ [] → (offers.map rank).Nodup →
      ∃ stored ∈ offers, (∀ value ∈ offers, value ≠ stored → less (rank stored) (rank value)) ∧
        SettlesOn key (fun current new => less (rank current) (rank new)) offers stored) ∧
    (∀ records : List Record, records ≠ [] → (records.map Record.key).Nodup →
      ∃ owner ∈ records, (∀ record ∈ records, record ≠ owner → owner.path < record.path) ∧
        SettlesOn key Tables.keepsName records owner) := by
  have apart {ν ρ : Type} {rank : ν → ρ} {offers : List ν} (distinct : (offers.map rank).Nodup) :
      ∀ left ∈ offers, ∀ right ∈ offers, rank left = rank right → left = right :=
    fun _ left _ right => List.inj_on_of_nodup_map distinct left right
  refine ⟨fun ν _ offers nonempty => ?_, fun ν ρ less _ _ rank offers nonempty distinct => ?_,
    fun records nonempty distinct => ?_⟩
  · -- Values that are not different by their order are the same, so ties do no harm.
    obtain ⟨stored, member, least, settles⟩ :=
      exists_settlesOn (· < ·) id key nonempty fun _ _ _ _ same => same
    refine ⟨stored, member, fun value listed => ?_, settles⟩
    by_cases same : value = stored
    · exact same.ge
    · exact (least value listed same).le
  · exact exists_settlesOn less rank key nonempty (apart distinct)
  · rw [Tables.keepsName_eq]
    exact exists_settlesOn Path.KeyBefore Record.key key nonempty (apart distinct)

/-- Offers with a tie, among calls about another key; values ordered by their second part; and two
records that claim a name, which goes to the one with the lesser path. -/
theorem contests_settle_ties :
    let smaller (current new : Nat) : Bool := current < new
    let cache : Cache String Nat := (empty.put "b" 7).2
    let history : List (Operation String Nat) :=
      [.putUnless "a" 5 smaller, .put "b" 1, .putUnless "a" 2 smaller, .keys, .remove "b",
        .putUnless "a" 9 smaller, .putUnless "a" 2 smaller]
    let ranked : List (String × Nat) := [("x", 3), ("y", 1), ("z", 2)]
    let record (path : String) : Record :=
      ⟨⟨⟨path⟩, ⟨"T", .projectReference⟩, [], ImportContext.ofImports "" [], []⟩, 0⟩
    Contest "a" smaller history [5, 2, 9, 2] ∧
      (history.foldl perform cache).get? "a" = some 2 ∧
      (2 :: handedBack "a" cache history).Perm [5, 2, 9, 2] ∧
      (ranked.map Prod.snd).Nodup ∧
      SettlesOn "a" (fun current new => current.2 < new.2) ranked ("y", 1) ∧
      SettlesOn "T" Tables.keepsName [record "b/T.java", record "a/T.java"]
        (record "a/T.java") := by
  intro smaller cache history ranked record
  obtain ⟨ordered, byRank, -⟩ := contests_settle "a"
  obtain ⟨-, -, byPath⟩ := contests_settle "T"
  have contest : Contest "a" smaller history [5, 2, 9, 2] := by
    refine .offer 5 (.elsewhere ?_ ?_ (.offer 2 (.elsewhere ?_ ?_ (.elsewhere ?_ ?_
      (.offer 9 (.offer 2 .nil))))))
    all_goals simp [Operation.key?]
  have two : (history.foldl perform cache).get? "a" = some 2 ∧
      (2 :: handedBack "a" cache history).Perm [5, 2, 9, 2] := by
    obtain ⟨stored, member, least, settles⟩ := ordered Nat [5, 2, 9, 2] (by decide)
    have atMost := least 2 (by decide)
    obtain rfl : stored = 2 := by
      simp only [List.mem_cons, List.not_mem_nil, or_false] at member
      omega
    exact settles cache history _ (by decide) (.refl _) contest
  have distinct : (ranked.map Prod.snd).Nodup := by decide
  have one : SettlesOn "a" (fun current new => current.2 < new.2) ranked ("y", 1) := by
    obtain ⟨stored, member, least, settles⟩ :=
      byRank (String × Nat) Nat (· < ·) Prod.snd ranked (by decide) distinct
    obtain rfl : stored = ("y", 1) := by
      by_contra differs
      have before := least ("y", 1) (by decide) (Ne.symm differs)
      simp only [ranked, List.mem_cons, List.not_mem_nil, or_false, differs, false_or] at member
      rcases member with rfl | rfl
      · exact absurd before (by decide)
      · exact absurd before (by decide)
    exact settles
  have first : SettlesOn "T" Tables.keepsName [record "b/T.java", record "a/T.java"]
      (record "a/T.java") := by
    obtain ⟨owner, member, least, settles⟩ :=
      byPath [record "b/T.java", record "a/T.java"] (by simp) (by decide)
    obtain rfl : owner = record "a/T.java" := by
      by_contra differs
      have before := least (record "a/T.java") (by simp) (Ne.symm differs)
      rw [Path.lt_iff] at before
      simp only [List.mem_cons, List.not_mem_nil, or_false, differs] at member
      subst member
      exact absurd before (by decide)
    exact settles
  exact ⟨contest, two.1, two.2, distinct, one, first⟩

end Cache

end JavaIndex
