import JavaIndex.Proofs.Tables
import Mathlib.Data.List.Nodup
import Mathlib.Data.List.Perm.Basic
import Mathlib.Logic.Relation

/-!
# Records entered side by side

Several records enter the tables at once, each by its own sequence of writes, and
the writes of different records mix in any order. What the tables say in the end
is said by the writes that were made and not by their order: a path has the record
that was filed under it, a name the least record that claimed it, a package as many
uses as were counted. So all schedules end alike, and like entering the records one
after the other.

The invariant is `Tables.Reflects`, which relates the tables to the writes made so
far. It holds after every single write, hence also where some records are entered
by half.

## Main definitions

* `Progress`, `Progress.Step` — what each record still has to write, and one write
* `Tables.Reflects` — the tables say what was written
* `Tables.Tabulates` — the tables say what a list of records says
* `Tables.EntersAfresh`, `Progress.ClaimsAfresh` — no record contests a name with its own path

## Main results

* `Tables.Reflects.apply` — one write keeps the tables in step with what was written
* `Tables.Reflects.same` — what was written determines what the tables say
* `Progress.finished_tables` — every schedule ends with the same tables
* `Tables.entersAfresh`, `Progress.Consistent.claimsAfresh` — no record meets its own path
-/

namespace JavaIndex

/-! ### Tables and what was written -/

/-- The record that a write is about. -/
def Write.record? : Write → Option Record
  | .file record => some record
  | .claim _ record => some record
  | .count _ => none

/-- Writes about one path are about one record. -/
def OnePerPath (writes : List Write) : Prop :=
  ∀ left ∈ writes, ∀ right ∈ writes, ∀ record other,
    left.record? = some record → right.record? = some other → record.key = other.key →
      record = other

theorem OnePerPath.subset {few many : List Write} (single : OnePerPath many)
    (subset : few ⊆ many) : OnePerPath few :=
  fun left inLeft right inRight => single left (subset inLeft) right (subset inRight)

/-- The entry of a package with so many uses. -/
def countEntry (count : Nat) : Option Nat :=
  if count = 0 then none else some count

theorem getD_countEntry (count : Nat) : (countEntry count).getD 0 = count := by
  unfold countEntry
  split_ifs with zero <;> simp [zero]

namespace Tables

variable {tables left right : Tables} {writes done : List Write}

/-- The tables say what was written, in whatever order. -/
structure Reflects (tables : Tables) (writes : List Write) : Prop where
  records : ∀ key record,
    tables.records.get? key = some record ↔ .file record ∈ writes ∧ record.key = key
  /-- An owner has claimed its name. -/
  claimed : ∀ name owner, tables.owners.get? name = some owner → .claim name owner ∈ writes
  /-- No claim to a name lies before its owner. -/
  least : ∀ name owner other, tables.owners.get? name = some owner →
    .claim name other ∈ writes → owner.path ≤ other.path
  /-- A claimed name has an owner. -/
  owned : ∀ name record, .claim name record ∈ writes →
    ∃ owner, tables.owners.get? name = some owner
  packages : ∀ package,
    tables.packages.get? package = countEntry (writes.count (.count package))

namespace Reflects

theorem empty : Tables.empty.Reflects [] where
  records := by simp
  claimed := by simp
  least := by simp
  owned := by simp
  packages := by simp [countEntry]

theorem perm (reflects : tables.Reflects writes) (reordered : writes.Perm done) :
    tables.Reflects done where
  records key record := by rw [reflects.records, reordered.mem_iff]
  claimed name owner found := reordered.mem_iff.mp (reflects.claimed name owner found)
  least name owner other found claim :=
    reflects.least name owner other found (reordered.mem_iff.mpr claim)
  owned name record claim := reflects.owned name record (reordered.mem_iff.mpr claim)
  packages package := by rw [reflects.packages, reordered.count_eq]

theorem file (reflects : tables.Reflects done) (record : Record)
    (single : OnePerPath (.file record :: done)) :
    (tables.apply (.file record)).Reflects (.file record :: done) where
  records key other := by
    have found : (tables.apply (.file record)).records.get? key =
        if key = record.key then some record else tables.records.get? key :=
      Cache.get?_insert _ _ _ _
    rw [found, List.mem_cons]
    split_ifs with here
    · constructor
      · rintro ⟨⟩
        exact ⟨.inl rfl, here.symm⟩
      · rintro ⟨written, keyed⟩
        have same := single _ List.mem_cons_self _ (List.mem_cons.mpr written) record other rfl rfl
          (here.symm.trans keyed.symm)
        rw [same]
    · rw [reflects.records]
      constructor
      · rintro ⟨written, keyed⟩
        exact ⟨.inr written, keyed⟩
      · rintro ⟨same | written, keyed⟩
        · exact absurd (Write.file.inj same ▸ keyed).symm here
        · exact ⟨written, keyed⟩
  claimed name owner found := List.mem_cons_of_mem _ (reflects.claimed name owner found)
  least name owner other found claim :=
    reflects.least name owner other found (by simpa using claim)
  owned name other claim := reflects.owned name other (by simpa using claim)
  packages package := by
    rw [List.count_cons_of_ne (by simp)]
    exact reflects.packages package

theorem claim (reflects : tables.Reflects done) (name : String) (record : Record) :
    (tables.apply (.claim name record)).Reflects (.claim name record :: done) := by
  constructor
  case records =>
    intro key other
    simpa using reflects.records key other
  case claimed =>
    intro asked owner
    rw [owners_apply_claim]
    split_ifs with same
    · rintro ⟨⟩
      subst same
      rcases settled_cases record (tables.owners.get? asked) with ⟨won, -⟩ | ⟨current, had, -, kept⟩
      · exact won.symm ▸ List.mem_cons_self
      · exact kept.symm ▸ List.mem_cons_of_mem _ (reflects.claimed asked current had)
    · exact fun owned => List.mem_cons_of_mem _ (reflects.claimed asked owner owned)
  case least =>
    intro asked owner other
    rw [owners_apply_claim, List.mem_cons]
    split_ifs with same
    · rintro ⟨⟩ made
      subst same
      rcases settled_cases record (tables.owners.get? asked) with
        ⟨won, ahead⟩ | ⟨current, had, below, kept⟩
      · -- The new owner lies before the old one, and that before all earlier claims.
        rw [won]
        rcases made with here | before
        · exact (Write.claim.inj here).2 ▸ le_refl record.path
        · obtain ⟨current, had⟩ := reflects.owned asked other before
          exact (ahead current had).trans (reflects.least asked current other had before)
      · rw [kept]
        rcases made with here | before
        · exact (Write.claim.inj here).2 ▸ below.le
        · exact reflects.least asked current other had before
    · rintro owned (here | before)
      · exact absurd (Write.claim.inj here).1 same
      · exact reflects.least asked owner other owned before
  case owned =>
    intro asked other made
    rw [owners_apply_claim]
    split_ifs with same
    · exact ⟨_, rfl⟩
    · rcases List.mem_cons.mp made with here | before
      · exact absurd (Write.claim.inj here).1 same
      · exact reflects.owned asked other before
  case packages =>
    intro package
    rw [List.count_cons_of_ne (by simp)]
    exact reflects.packages package

theorem count (reflects : tables.Reflects done) (package : String) :
    (tables.apply (.count package)).Reflects (.count package :: done) where
  records key record := by simpa using reflects.records key record
  claimed name owner found := List.mem_cons_of_mem _ (reflects.claimed name owner found)
  least name owner other found claim :=
    reflects.least name owner other found (by simpa using claim)
  owned name record claim := reflects.owned name record (by simpa using claim)
  packages asked := by
    change (tables.packages.insert package (tables.usage package + 1)).get? asked = _
    rw [Cache.get?_insert, usage, reflects.packages, reflects.packages, getD_countEntry]
    by_cases same : asked = package
    · simp [same, countEntry]
    · rw [if_neg same, List.count_cons_of_ne (by simpa using Ne.symm same)]

/-- One write keeps the tables in step with what was written. -/
theorem apply (reflects : tables.Reflects done) (write : Write)
    (single : OnePerPath (write :: done)) : (tables.apply write).Reflects (write :: done) := by
  cases write with
  | file record => exact reflects.file record single
  | claim name record => exact reflects.claim name record
  | count package => exact reflects.count package

theorem foldl_apply (reflects : tables.Reflects done) (writes : List Write)
    (single : OnePerPath (writes ++ done)) :
    (writes.foldl Tables.apply tables).Reflects (writes ++ done) := by
  -- The writes made so far grow at the front, so each step has to move one write across the rest.
  induction writes generalizing tables done with
  | nil => exact reflects
  | cons write rest ih =>
    have swapped : (rest ++ write :: done).Perm (write :: rest ++ done) := List.perm_middle
    have first : OnePerPath (write :: done) := single.subset (by simp)
    exact (ih (reflects.apply write first) (single.subset swapped.subset)).perm swapped

/-- What was written determines what the tables say. -/
theorem same (first : left.Reflects writes) (second : right.Reflects writes)
    (single : OnePerPath writes) : left.Same right where
  records key := by
    ext record
    rw [first.records, second.records]
  owners name := by
    cases owned : left.owners.get? name with
    | none =>
      cases owned' : right.owners.get? name with
      | none => rfl
      | some owner =>
        obtain ⟨_, found⟩ := first.owned name owner (second.claimed name owner owned')
        exact absurd (owned.symm.trans found) (by simp)
    | some owner =>
      have claim := first.claimed name owner owned
      obtain ⟨owner', owned'⟩ := second.owned name owner claim
      have claim' := second.claimed name owner' owned'
      -- Each of the two owners lies before the other, so they have one path.
      have onePath := Path.components_eq_of_le_of_le (first.least name owner owner' owned claim')
        (second.least name owner' owner owned' claim)
      rw [owned', single _ claim _ claim' owner owner' rfl rfl onePath]
  packages package := by rw [first.packages, second.packages]

end Reflects

/-! ### Tables and the records entered -/

/-- Of the records among some, one of least path that declares a name. -/
structure LeastDeclaring (among : Record → Prop) (name : String) (record : Record) : Prop where
  member : among record
  declares : record.declares name = true
  least : ∀ other, among other → other.declares name = true → record.path ≤ other.path

/-- The tables say what a list of records says: the records are filed under their paths,
each name that one of them declares belongs to the least that does, and each package is
counted once for each of its records. -/
structure Tabulates (tables : Tables) (records : List Record) : Prop where
  filed : ∀ key record,
    tables.records.get? key = some record ↔ record ∈ records ∧ record.key = key
  names : ∀ name,
    (∃ owner, tables.owners.get? name = some owner) ↔ ∃ record ∈ records, record.declares name
  owners : ∀ name owner,
    tables.owners.get? name = some owner → LeastDeclaring (· ∈ records) name owner
  packages : ∀ package, tables.packages.get? package =
    countEntry (records.countP fun record => record.packageName == package)

end Tables

theorem file_mem_writes {records : List Record} {record : Record} :
    .file record ∈ records.flatMap Record.writes ↔ record ∈ records := by
  simp [List.mem_flatMap, Record.writes]

theorem Record.claim_mem_writes {record other : Record} {name : String} :
    .claim name other ∈ record.writes ↔ other = record ∧ record.declares name = true := by
  simp only [writes, List.cons_append, List.mem_cons, List.mem_append, List.mem_map,
    Write.claim.injEq, reduceCtorEq, false_or, or_false, List.not_mem_nil, Outline.declares_iff]
  constructor
  · rintro ⟨type, declared, named, rfl⟩
    exact ⟨rfl, type, declared, named⟩
  · rintro ⟨rfl, type, declared, named⟩
    exact ⟨type, declared, named, rfl⟩

theorem claim_mem_writes {records : List Record} {name : String} {record : Record} :
    .claim name record ∈ records.flatMap Record.writes ↔
      record ∈ records ∧ record.declares name = true := by
  simp only [List.mem_flatMap, Record.claim_mem_writes]
  constructor
  · rintro ⟨_, member, rfl, declares⟩
    exact ⟨member, declares⟩
  · rintro ⟨member, declares⟩
    exact ⟨record, member, rfl, declares⟩

theorem count_count_writes (records : List Record) (package : String) :
    (records.flatMap Record.writes).count (.count package) =
      records.countP fun record => record.packageName == package := by
  induction records with
  | nil => rfl
  | cons record rest ih =>
    have claims : (record.declaredTypes.map fun type => Write.claim type.name record).count
        (.count package) = 0 := List.count_eq_zero.mpr (by simp)
    rw [List.flatMap_cons, List.count_append, ih, List.countP_cons, Record.writes,
      List.cons_append, List.count_cons_of_ne (by simp), List.count_append, claims]
    by_cases same : record.packageName = package
    · simp [same, Nat.add_comm]
    · simp [same]

theorem onePerPath_writes {records : List Record} (distinct : (records.map Record.key).Nodup) :
    OnePerPath (records.flatMap Record.writes) := by
  have about {write : Write} {record : Record} (made : write ∈ records.flatMap Record.writes)
      (about : write.record? = some record) : record ∈ records := by
    obtain ⟨writer, member, written⟩ := List.mem_flatMap.mp made
    have same : writer = record := by
      cases write with
      | file other => simp_all [Record.writes, Write.record?]
      | claim name other =>
        obtain ⟨rfl, -⟩ := Record.claim_mem_writes.mp written
        exact Option.some.inj about
      | count package => simp [Write.record?] at about
    exact same ▸ member
  intro left inLeft right inRight record other leftAbout rightAbout onePath
  exact List.inj_on_of_nodup_map distinct (about inLeft leftAbout) (about inRight rightAbout)
    onePath

/-- A record with different names makes no write twice. -/
theorem nodup_writes {record : Record}
    (named : (record.declaredTypes.map QualifiedType.name).Nodup) : record.writes.Nodup := by
  have claims : (record.declaredTypes.map fun type => Write.claim type.name record).Nodup := by
    rw [List.Nodup, List.pairwise_map] at named ⊢
    exact named.imp fun differ same => differ (Write.claim.inj same).1
  rw [Record.writes, List.cons_append, List.nodup_cons, List.nodup_append]
  exact ⟨by simp, claims, by simp, by simp⟩

/-- Records of different paths make each claim once at most. -/
theorem count_claim_writes {records : List Record} (name : String) (record : Record)
    (distinct : (records.map Record.key).Nodup)
    (named : ∀ record ∈ records, (record.declaredTypes.map QualifiedType.name).Nodup) :
    (records.flatMap Record.writes).count (.claim name record) ≤ 1 := by
  induction records with
  | nil => simp
  | cons first rest ih =>
    obtain ⟨notLater, distinct⟩ := List.nodup_cons.mp distinct
    have later := ih distinct fun record member => named record (List.mem_cons_of_mem _ member)
    rw [List.flatMap_cons, List.count_append]
    by_cases here : .claim name record ∈ first.writes
    · have isFirst : record = first := (Record.claim_mem_writes.mp here).1
      have notRest : .claim name record ∉ rest.flatMap Record.writes := by
        intro claim
        have member := (claim_mem_writes.mp claim).1
        exact notLater (isFirst ▸ List.mem_map_of_mem member)
      have once := List.nodup_iff_count_le_one.mp (nodup_writes (named first List.mem_cons_self))
      rw [List.count_eq_zero.mpr notRest, Nat.add_zero]
      exact once _
    · rw [List.count_eq_zero.mpr here, Nat.zero_add]
      exact later

namespace Tables

variable {tables left right : Tables} {records : List Record}

theorem Tabulates.holds_iff (tabulates : tables.Tabulates records) {record : Record} :
    tables.Holds record ↔ record ∈ records := by
  simp only [Holds, tabulates.filed]
  constructor
  · rintro ⟨_, member, _⟩
    exact member
  · exact fun member => ⟨record.key, member, rfl⟩

theorem Reflects.tabulates (reflects : tables.Reflects (records.flatMap Record.writes)) :
    tables.Tabulates records where
  filed key record := by rw [reflects.records, file_mem_writes]
  names name := by
    constructor
    · rintro ⟨owner, owned⟩
      exact ⟨owner, claim_mem_writes.mp (reflects.claimed name owner owned)⟩
    · rintro ⟨record, member, declares⟩
      exact reflects.owned name record (claim_mem_writes.mpr ⟨member, declares⟩)
  owners name owner owned := by
    obtain ⟨member, declares⟩ := claim_mem_writes.mp (reflects.claimed name owner owned)
    refine ⟨member, declares, fun other otherMember otherDeclares => ?_⟩
    exact reflects.least name owner other owned
      (claim_mem_writes.mpr ⟨otherMember, otherDeclares⟩)
  packages package := by rw [reflects.packages, count_count_writes]

theorem foldl_insert_eq (tables : Tables) (records : List Record) :
    records.foldl insert tables = (records.flatMap Record.writes).foldl apply tables := by
  induction records generalizing tables with
  | nil => rfl
  | cons record rest ih => rw [List.foldl_cons, ih, List.flatMap_cons, List.foldl_append]; rfl

theorem reflects_foldl_insert (distinct : (records.map Record.key).Nodup) :
    (records.foldl insert empty).Reflects (records.flatMap Record.writes) := by
  have single := onePerPath_writes distinct
  rw [foldl_insert_eq]
  simpa using Reflects.empty.foldl_apply (records.flatMap Record.writes) (by simpa using single)

end Tables

/-! ### Schedules -/

/-- Records on their way into the tables: what each of them still has to write, and the
tables so far. -/
structure Progress where
  pending : List (List Write)
  tables : Tables

namespace Progress

variable {records : List Record} {before after : Progress}

/-- Any record makes its next write. -/
inductive Step : Progress → Progress → Prop
  | write (front back : List (List Write)) (write : Write) (rest : List Write) (tables : Tables) :
    Step ⟨front ++ (write :: rest) :: back, tables⟩ ⟨front ++ rest :: back, tables.apply write⟩

/-- Nothing is written yet. -/
def start (records : List Record) : Progress :=
  ⟨records.map Record.writes, Tables.empty⟩

/-- Nothing is left to be written. -/
def Finished (progress : Progress) : Prop :=
  ∀ task ∈ progress.pending, task = []

/-- The tables reflect some writes, and these with the pending ones are the writes of all
records. -/
def Consistent (records : List Record) (progress : Progress) : Prop :=
  ∃ done, progress.tables.Reflects done ∧
    (done ++ progress.pending.flatten).Perm (records.flatMap Record.writes)

theorem consistent_start (records : List Record) : Consistent records (start records) :=
  ⟨[], Tables.Reflects.empty, by simp [start, List.flatMap_def]⟩

theorem Consistent.step (distinct : (records.map Record.key).Nodup) (step : Step before after)
    (consistent : Consistent records before) : Consistent records after := by
  obtain ⟨front, back, write, rest, tables⟩ := step
  obtain ⟨done, reflects, all⟩ := consistent
  -- One write moves from the pending ones to those made; together they stay the same.
  have moved : (done ++ (front ++ (write :: rest) :: back).flatten).Perm
      (write :: done ++ (front ++ rest :: back).flatten) := by
    rw [List.flatten_append, List.flatten_append, List.flatten_cons, List.flatten_cons,
      List.cons_append, ← List.append_assoc, ← List.append_assoc]
    exact List.perm_middle
  have remaining := moved.symm.trans all
  have single : OnePerPath (write :: done) :=
    (onePerPath_writes distinct).subset fun made written =>
      remaining.subset (List.mem_append_left _ written)
  exact ⟨write :: done, reflects.apply write single, remaining⟩

theorem Consistent.run (distinct : (records.map Record.key).Nodup)
    (run : Relation.ReflTransGen Step (start records) after) : Consistent records after := by
  induction run with
  | refl => exact consistent_start records
  | tail _ step ih => exact ih.step distinct step

theorem Consistent.reflects_of_finished (consistent : Consistent records after)
    (finished : after.Finished) : after.tables.Reflects (records.flatMap Record.writes) := by
  obtain ⟨done, reflects, all⟩ := consistent
  have nothing : after.pending.flatten = [] := List.flatten_eq_nil_iff.mpr finished
  rw [nothing, List.append_nil] at all
  exact reflects.perm all

/-- However the writes of the records are mixed, the tables end up with what the records say. -/
theorem tabulates_of_finished {progress : Progress} (distinct : (records.map Record.key).Nodup)
    (run : Relation.ReflTransGen Step (start records) progress) (finished : progress.Finished) :
    progress.tables.Tabulates records :=
  ((Consistent.run distinct run).reflects_of_finished finished).tabulates

/-- However the writes of the records are mixed, the tables end as if the records had been
entered one after the other in the order of their paths. No write is lost, and each name
belongs to the least record that declares it. -/
theorem finished_tables {progress : Progress} (distinct : (records.map Record.key).Nodup)
    (run : Relation.ReflTransGen Step (start records) progress) (finished : progress.Finished) :
    progress.tables.Same ((sortRecords records).foldl Tables.insert Tables.empty) ∧
      progress.tables.Tabulates records := by
  -- Both sides reflect the writes of all records, and these determine the tables.
  have reflects := (Consistent.run distinct run).reflects_of_finished finished
  have reordered : (sortRecords records).Perm records := List.mergeSort_perm records _
  have distinct' : ((sortRecords records).map Record.key).Nodup :=
    (reordered.map Record.key).nodup_iff.mpr distinct
  have inOrder := (Tables.reflects_foldl_insert distinct').perm
    (reordered.flatMap_right Record.writes)
  exact ⟨reflects.same inOrder (onePerPath_writes distinct),
    tabulates_of_finished distinct run finished⟩

/-- The record of a file that declares one type and mentions none. -/
def plainRecord (path package name : String) (number : Nat) : Record where
  path := ⟨path⟩
  primary := QualifiedType.inPackage package name
  inner := []
  context := ⟨package, [], []⟩
  references := []
  number := number

/-- Two files that declare one type, the second one ahead with its claim. -/
theorem finished_tables_contested :
    let first := plainRecord "a/T.java" "p" "T" 0
    let second := plainRecord "b/T.java" "p" "T" 1
    let tables := [.file second, .claim "p.T" second, .file first, .claim "p.T" first,
      .count "p", .count "p"].foldl Tables.apply Tables.empty
    tables.Same ((sortRecords [second, first]).foldl Tables.insert Tables.empty) ∧
      tables.Tabulates [second, first] := by
  intro first second tables
  refine @finished_tables [second, first] ⟨[[], []], tables⟩ ?_ ?_ ?_
  · decide
  · refine .head (.write [] [first.writes] _ _ _) (.head (.write [] [first.writes] _ _ _)
      (.head (.write [_] [] _ _ _) (.head (.write [_] [] _ _ _)
        (.head (.write [] [_] _ _ _) (.single (.write [_] [] _ _ _))))))
  · simp [Finished]

end Progress

/-! ### A record never meets itself -/

/-- No name is in the hands of a record's own path when the record is entered: neither before
its first write nor when it comes to claim that name. -/
structure Tables.EntersAfresh (tables : Tables) (record : Record) : Prop where
  unowned : ∀ name owner, tables.owners.get? name = some owner → owner.key ≠ record.key
  claims : ∀ done name rest owner, record.writes = done ++ .claim name record :: rest →
    (done.foldl apply tables).owners.get? name = some owner → owner.key ≠ record.key

/-- An owner was there before some writes or is there by one of them. -/
theorem Tables.owners_foldl_apply {tables : Tables} {writes : List Write} {name : String}
    {owner : Record} (owned : (writes.foldl apply tables).owners.get? name = some owner) :
    tables.owners.get? name = some owner ∨ .claim name owner ∈ writes := by
  induction writes generalizing tables with
  | nil => exact .inl owned
  | cons write rest ih =>
    rcases ih owned with before | later
    · cases write with
      | file record => exact .inl before
      | count package => exact .inl before
      | claim claimed record =>
        rw [owners_apply_claim] at before
        split_ifs at before with same
        · subst same
          rcases settled_cases record (tables.owners.get? name) with ⟨won, -⟩ | ⟨_, had, -, kept⟩
          · rw [← Option.some.inj before, won]
            exact .inr List.mem_cons_self
          · exact .inl (had.trans (kept ▸ before))
        · exact .inl before
    · exact .inr (List.mem_cons_of_mem _ later)

theorem Tables.entersAfresh {tables : Tables} {record : Record}
    (named : (record.declaredTypes.map QualifiedType.name).Nodup)
    (unowned : ∀ name owner, tables.owners.get? name = some owner → owner.key ≠ record.key) :
    tables.EntersAfresh record := by
  refine ⟨unowned, fun done name rest owner split owned => ?_⟩
  rcases owners_foldl_apply owned with before | claimed
  · exact unowned name owner before
  · exfalso
    have nodup := nodup_writes named
    have written : .claim name owner ∈ record.writes := split ▸ List.mem_append_left _ claimed
    have isSelf : owner = record := (Record.claim_mem_writes.mp written).1
    rw [split, List.nodup_append] at nodup
    exact nodup.2.2 _ claimed _ List.mem_cons_self (by rw [isSelf])

namespace Progress

variable {records : List Record}

/-- No record finds a name in the hands of its own path: neither before its first write nor
when its claim to that name is next. -/
structure ClaimsAfresh (progress : Progress) : Prop where
  unowned : ∀ (record : Record) name owner, record.writes ∈ progress.pending →
    progress.tables.owners.get? name = some owner → owner.key ≠ record.key
  claims : ∀ (record : Record) name owner rest, .claim name record :: rest ∈ progress.pending →
    progress.tables.owners.get? name = some owner → owner.key ≠ record.key

theorem Consistent.claimsAfresh {progress : Progress} (consistent : Consistent records progress)
    (distinct : (records.map Record.key).Nodup)
    (named : ∀ record ∈ records, (record.declaredTypes.map QualifiedType.name).Nodup) :
    progress.ClaimsAfresh := by
  obtain ⟨done, reflects, all⟩ := consistent
  have single := onePerPath_writes distinct
  -- An owner has made its claim, and no claim is made twice.
  have noMore {name : String} {owner : Record}
      (owned : progress.tables.owners.get? name = some owner) :
      .claim name owner ∉ progress.pending.flatten := by
    intro isPending
    have made := List.count_pos_iff.mpr (reflects.claimed name owner owned)
    have pending := List.count_pos_iff.mpr isPending
    have once := count_claim_writes name owner distinct named
    rw [← all.count_eq, List.count_append] at once
    omega
  -- A record with pending writes has the path of an owner only if it is that owner.
  have onlySelf {name : String} {record owner : Record} {write : Write}
      (owned : progress.tables.owners.get? name = some owner)
      (isPending : write ∈ progress.pending.flatten) (about : write.record? = some record)
      (same : owner.key = record.key) : owner = record :=
    single _ (all.subset (List.mem_append_left _ (reflects.claimed name owner owned))) _
      (all.subset (List.mem_append_right _ isPending)) owner record rfl about same
  constructor
  case unowned =>
    intro record name owner isPending owned same
    have pending {write : Write} (written : write ∈ record.writes) :
        write ∈ progress.pending.flatten := List.mem_flatten_of_mem isPending written
    have isSelf := onlySelf owned (pending (.head _)) rfl same
    have claim := all.subset (List.mem_append_left _ (reflects.claimed name owner owned))
    have declares := (claim_mem_writes.mp claim).2
    exact noMore owned (pending (Record.claim_mem_writes.mpr ⟨isSelf, isSelf ▸ declares⟩))
  case claims =>
    intro record name owner rest isPending owned same
    have pending : .claim name record ∈ progress.pending.flatten :=
      List.mem_flatten_of_mem isPending (.head _)
    have isSelf := onlySelf owned pending rfl same
    exact noMore owned (isSelf ▸ pending)

end Progress

end JavaIndex
