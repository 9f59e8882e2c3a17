import JavaIndex.Index.Tables
import JavaIndex.Proofs.Caches
import JavaIndex.Proofs.PathOrder

/-!
# What a change does to the tables

Entering a record and taking one out again, read off lookup by lookup. Every later
argument about an index goes through these equations and never unfolds the writes
behind them.

## Main definitions

* `Tables.Holds` — a record is filed in the tables
* `Tables.Same` — two states of the tables answer every lookup alike

## Main results

* `Tables.records_insert`, `Tables.owners_insert`, `Tables.packages_insert`
* `Tables.records_withdraw`, `Tables.owners_withdraw`
-/

namespace JavaIndex

theorem Outline.declares_iff {outline : Outline} {name : String} :
    outline.declares name = true ↔ name ∈ outline.declaredTypes.map QualifiedType.name := by
  simp [declares, List.mem_map]

namespace Tables

variable {tables : Tables} {record current : Record} {key : Path.Key} {name package : String}

/-- A record is filed in the tables. -/
def Holds (tables : Tables) (record : Record) : Prop :=
  ∃ key, tables.records.get? key = some record

/-- Two states of the tables answer every lookup alike. -/
structure Same (left right : Tables) : Prop where
  records : ∀ key, left.records.get? key = right.records.get? key
  owners : ∀ name, left.owners.get? name = right.owners.get? name
  packages : ∀ package, left.packages.get? package = right.packages.get? package

@[simp] theorem empty_records (key : Path.Key) : empty.records.get? key = none := rfl

@[simp] theorem empty_owners (name : String) : empty.owners.get? name = none := rfl

@[simp] theorem empty_packages (package : String) : empty.packages.get? package = none := rfl

theorem not_holds_empty (record : Record) : ¬ empty.Holds record := by
  rintro ⟨key, found⟩
  simp at found

/-! ### Contests for a name -/

theorem keepsName_iff : keepsName current record = true ↔ current.path < record.path := by
  unfold keepsName
  split_ifs with same
  · have notBelow : ¬ current.path < record.path :=
      Path.not_lt_iff.mpr (Path.le_of_components_eq same.symm)
    simp [notBelow]
  · exact Path.before_iff

theorem settled_of_lt (below : current.path < record.path) :
    Cache.settled keepsName record (some current) = current := by
  simp [Cache.settled, keepsName_iff.mpr below]

theorem settled_of_not_lt (notBelow : ¬ current.path < record.path) :
    Cache.settled keepsName record (some current) = record := by
  have gives : keepsName current record = false := by
    rw [Bool.eq_false_iff, Ne, keepsName_iff]
    exact notBelow
  simp [Cache.settled, gives]

/-- A contest ends with the record that claims the name, unless the one that has it lies
before. -/
theorem settled_cases (record : Record) (owner? : Option Record) :
    (Cache.settled keepsName record owner? = record ∧
        ∀ current, owner? = some current → record.path ≤ current.path) ∨
      ∃ current, owner? = some current ∧ current.path < record.path ∧
        Cache.settled keepsName record owner? = current := by
  cases owner? with
  | none => exact .inl ⟨rfl, by simp⟩
  | some current =>
    by_cases below : current.path < record.path
    · exact .inr ⟨current, rfl, below, settled_of_lt below⟩
    · refine .inl ⟨settled_of_not_lt below, ?_⟩
      rintro _ ⟨⟩
      exact Path.not_lt_iff.mp below

/-- A record that claims a name twice changes nothing the second time. -/
theorem settled_settled (record : Record) (owner? : Option Record) :
    Cache.settled keepsName record (some (Cache.settled keepsName record owner?)) =
      Cache.settled keepsName record owner? := by
  rcases settled_cases record owner? with ⟨won, -⟩ | ⟨current, -, below, kept⟩
  · rw [won]
    exact settled_of_not_lt (lt_irrefl record.path)
  · rw [kept]
    exact settled_of_lt below

/-! ### Entering a record -/

@[simp] theorem apply_claim_records (tables : Tables) (name : String) (record : Record) :
    (tables.apply (.claim name record)).records = tables.records := rfl

@[simp] theorem apply_count_records (tables : Tables) (package : String) :
    (tables.apply (.count package)).records = tables.records := rfl

theorem owners_apply_claim (tables : Tables) (name : String) (record : Record) (asked : String) :
    (tables.apply (.claim name record)).owners.get? asked =
      if asked = name then some (Cache.settled keepsName record (tables.owners.get? name))
      else tables.owners.get? asked :=
  Cache.get?_putUnless _ _ _ _ _

/-- The claims of a record, one for each of the given types. -/
def claims (record : Record) (types : List QualifiedType) : List Write :=
  types.map fun type => .claim type.name record

theorem foldl_claims (tables : Tables) (record : Record) (types : List QualifiedType) :
    ((claims record types).foldl apply tables).records = tables.records ∧
      ((claims record types).foldl apply tables).packages = tables.packages ∧
      ∀ name, ((claims record types).foldl apply tables).owners.get? name =
        if name ∈ types.map QualifiedType.name then
          some (Cache.settled keepsName record (tables.owners.get? name))
        else tables.owners.get? name := by
  induction types generalizing tables with
  | nil => simp [claims]
  | cons type rest ih =>
    obtain ⟨records, packages, owners⟩ := ih (tables.apply (.claim type.name record))
    refine ⟨records, packages, fun name => ?_⟩
    change ((claims record rest).foldl apply (tables.apply (.claim type.name record))).owners.get?
      name = _
    rw [owners name, owners_apply_claim]
    by_cases same : name = type.name
    · -- The name may come again in the rest, where a second claim changes nothing.
      subst same
      simp [settled_settled]
    · simp [same]

theorem insert_eq (tables : Tables) (record : Record) :
    tables.insert record =
      ((claims record record.declaredTypes).foldl apply (tables.apply (.file record))).addPackage
        record.packageName := by
  simp [insert, Record.writes, List.foldl_append, claims, apply]

theorem records_insert (tables : Tables) (record : Record) (key : Path.Key) :
    (tables.insert record).records.get? key =
      if key = record.key then some record else tables.records.get? key := by
  rw [insert_eq]
  change ((claims record record.declaredTypes).foldl apply _).records.get? key = _
  rw [(foldl_claims _ record _).1]
  exact Cache.get?_insert _ _ _ _

theorem owners_insert (tables : Tables) (record : Record) (name : String) :
    (tables.insert record).owners.get? name =
      if record.declares name then
        some (Cache.settled keepsName record (tables.owners.get? name))
      else tables.owners.get? name := by
  rw [insert_eq]
  change ((claims record record.declaredTypes).foldl apply _).owners.get? name = _
  rw [(foldl_claims _ record _).2.2]
  simp only [← Outline.declares_iff]
  rfl

theorem packages_insert (tables : Tables) (record : Record) (package : String) :
    (tables.insert record).packages.get? package =
      if package = record.packageName then some (tables.usage record.packageName + 1)
      else tables.packages.get? package := by
  have unclaimed := (foldl_claims (tables.apply (.file record)) record record.declaredTypes).2.1
  rw [insert_eq, addPackage, Cache.get?_insert, usage, unclaimed]
  rfl

/-! ### Taking a record out -/

theorem records_removePackage (tables : Tables) (package : String) :
    (tables.removePackage package).records = tables.records := by
  unfold removePackage
  split
  · rfl
  · split_ifs <;> rfl

theorem owners_removePackage (tables : Tables) (package : String) :
    (tables.removePackage package).owners = tables.owners := by
  unfold removePackage
  split
  · rfl
  · split_ifs <;> rfl

/-- The owner of a name that stays after a record gives up its names. -/
def unlessOwned (record : Record) (owner? : Option Record) : Option Record :=
  if owner?.any fun current => current.number == record.number then none else owner?

theorem records_release (record : Record) (tables : Tables) (name : String) :
    (release record tables name).records = tables.records := by
  unfold release
  split_ifs <;> rfl

theorem owners_release (record : Record) (tables : Tables) (name other : String) :
    (release record tables name).owners.get? other =
      if other = name then unlessOwned record (tables.owners.get? name)
      else tables.owners.get? other := by
  unfold release unlessOwned
  split_ifs with owned same same
  · simp [same]
  · simp [Cache.get?_erase, same]
  · rw [same]
  · rfl

theorem foldl_release (record : Record) (tables : Tables) (names : List String) :
    (names.foldl (release record) tables).records = tables.records ∧
      ∀ name, (names.foldl (release record) tables).owners.get? name =
        if name ∈ names then unlessOwned record (tables.owners.get? name)
        else tables.owners.get? name := by
  induction names generalizing tables with
  | nil => simp
  | cons first rest ih =>
    obtain ⟨records, owners⟩ := ih (release record tables first)
    refine ⟨records.trans (records_release record tables first), fun name => ?_⟩
    rw [List.foldl_cons, owners name, owners_release]
    by_cases same : name = first
    · -- A name released twice has no owner the second time.
      have again (owner? : Option Record) :
          unlessOwned record (unlessOwned record owner?) = unlessOwned record owner? := by
        unfold unlessOwned
        split_ifs <;> simp_all
      simp [same, again]
    · simp [same]

theorem records_withdraw (tables : Tables) (record : Record) (key : Path.Key) :
    (tables.withdraw record).records.get? key =
      if key = record.key then none else tables.records.get? key := by
  rw [withdraw, records_removePackage, (foldl_release record _ _).1]
  exact Cache.get?_erase _ _ _

theorem owners_withdraw (tables : Tables) (record : Record) (name : String) :
    (tables.withdraw record).owners.get? name =
      if record.declares name then unlessOwned record (tables.owners.get? name)
      else tables.owners.get? name := by
  rw [withdraw, owners_removePackage, (foldl_release record _ _).2]
  simp only [← Outline.declares_iff]

end Tables

end JavaIndex
