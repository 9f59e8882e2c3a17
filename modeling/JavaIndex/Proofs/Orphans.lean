import JavaIndex.Proofs.Runs

/-!
# Names without an owner

A name should belong to the least file that declares it. A registration can break
this: it takes out the earlier record of its path with all names of that record, and
claims those that the new record declares. A name that only other files declare from
then on is left without an owner, and these files do not claim it again until they are
entered again themselves.

So the owner of a name is the least among the records that were entered since the name
was last orphaned. This holds in every index that comes about, and it determines in
which of them the least file of all answers for the name.

## Main definitions

* `Index.CompleteAt` — a name that is declared belongs to the least record that declares it
* `Index.orphans` — an operation leaves a name without an owner although it is declared
* `Index.lostBelow` — the records made before a name was last orphaned

## Main results

* `Index.OwnedSince.perform` — what one operation does to the owner of a name
* `Index.completeAt_run_iff` — the owner of a name after any run, and when it is the least
  record of all
-/

namespace JavaIndex.Index

open Tables (LeastDeclaring)

variable {index start after : Index} {operation : Operation} {record owner : Record} {name : String}
  {since : Nat}

/-- If a record declares the name, its owner is the least that does. -/
def CompleteAt (index : Index) (name : String) : Prop :=
  ∀ record, index.tables.Holds record → record.declares name = true →
    ∃ owner, index.tables.owners.get? name = some owner ∧
      LeastDeclaring index.tables.Holds name owner

/-- Whether an operation leaves a name without an owner although it is declared: the name
belongs to the earlier record of a path that is registered again, the new record does not
declare it, and that of another path does. -/
def orphans (index : Index) (operation : Operation) (name : String) : Bool :=
  (index.registered? operation).any fun record =>
    !record.declares name &&
      (index.tables.owners.get? name).any (fun owner => decide (owner.key = record.key)) &&
      index.tables.records.values.any fun other =>
        decide (other.key ≠ record.key) && other.declares name

/-- The records with lower numbers were made before the name was last orphaned. -/
def lostBelow (index : Index) (name : String) (since : Nat) : List Operation → Nat
  | [] => since
  | operation :: rest =>
    (index.perform operation).lostBelow name
      (if index.orphans operation name then (index.perform operation).cells.size else since) rest

theorem orphans_iff : index.orphans operation name = true ↔
    ∃ record owner other, index.registered? operation = some record ∧
      record.declares name = false ∧
      index.tables.owners.get? name = some owner ∧ owner.key = record.key ∧
      index.tables.Holds other ∧ other.key ≠ record.key ∧ other.declares name = true := by
  simp only [orphans, Option.any_eq_true, List.any_eq_true, Bool.and_eq_true, Bool.not_eq_true',
    decide_eq_true_eq, Cache.mem_values, Tables.Holds]
  constructor
  · rintro ⟨record, registered, ⟨undeclared, owner, owned, same⟩, other, held, differs, declares⟩
    exact ⟨record, owner, other, registered, undeclared, owned, same, held, differs, declares⟩
  · rintro ⟨record, owner, other, registered, undeclared, owned, same, held, differs, declares⟩
    exact ⟨record, registered, ⟨undeclared, owner, owned, same⟩, other, held, differs, declares⟩

/-! ### The least of the later records -/

/-- The owner of a name is the least among the records from a number on. -/
structure OwnedSince (index : Index) (since : Nat) (name : String) : Prop where
  owned : ∀ record, index.tables.Holds record → since ≤ record.number →
    record.declares name = true → ∃ owner, index.tables.owners.get? name = some owner
  least : ∀ owner, index.tables.owners.get? name = some owner →
    LeastDeclaring (fun record => index.tables.Holds record ∧ since ≤ record.number) name owner

theorem owners_enter_undeclared (undeclared : record.declares name = false) :
    (index.enter record).tables.owners.get? name =
      (index.makeRoom record.key).tables.owners.get? name := by
  rw [enter_tables, Tables.owners_insert, undeclared, if_neg Bool.false_ne_true]

namespace OwnedSince

theorem of_keeps (ownedSince : index.OwnedSince since name) (keeps : index.Keeps after) :
    after.OwnedSince since name := by
  constructor
  case owned => simpa only [Tables.Holds, keeps.records, keeps.owners] using ownedSince.owned
  case least => simpa only [Tables.Holds, keeps.records, keeps.owners] using ownedSince.least

theorem afterPhases (index : Index) (tree : FileTree) {files : List Path}
    (distinct : (files.map Path.components).Nodup) (early : since ≤ index.cells.size) :
    (index.afterPhases tree files).OwnedSince since name := by
  have tabulates := tabulates_afterPhases index tree distinct
  constructor
  case owned =>
    intro record held _ declares
    exact (tabulates.names name).mpr ⟨record, tabulates.holds_iff.mp held, declares⟩
  case least =>
    intro owner owned
    obtain ⟨entered, declares, least⟩ := tabulates.owners name owner owned
    have late := early.trans (number_of_newRecord entered).1
    refine ⟨⟨tabulates.holds_iff.mpr entered, late⟩, declares, fun other among => ?_⟩
    exact least other (tabulates.holds_iff.mp among.1)

/-- A registration that claims the name contests it with the least of the others. -/
theorem enter_declaring (ownedSince : index.OwnedSince since name) (sound : index.Sound)
    (late : since ≤ record.number) (declares : record.declares name = true) :
    (index.enter record).OwnedSince since name := by
  have contest : (index.enter record).tables.owners.get? name = some (Cache.settled
      Tables.keepsName record ((index.makeRoom record.key).tables.owners.get? name)) := by
    rw [enter_tables, Tables.owners_insert, if_pos declares]
  refine ⟨fun _ _ _ _ => ⟨_, contest⟩, fun owner owned => ?_⟩
  rw [contest, Option.some.injEq] at owned
  rw [← owned]
  rcases Tables.settled_cases record ((index.makeRoom record.key).tables.owners.get? name) with
    ⟨won, ahead⟩ | ⟨current, had, below, kept⟩
  · rw [won]
    refine ⟨⟨(sound.holds_enter record).mpr (.inl rfl), late⟩, declares, ?_⟩
    rintro other ⟨held, otherLate⟩ otherDeclares
    rcases (sound.holds_enter record).mp held with rfl | ⟨before, -⟩
    · exact le_refl other.path
    · obtain ⟨current, owned'⟩ := ownedSince.owned other before otherLate otherDeclares
      have behind := (ownedSince.least current owned').least other ⟨before, otherLate⟩ otherDeclares
      -- The owner so far is taken out with its path, or it has lost the contest.
      by_cases same : current.key = record.key
      · exact (Path.le_of_components_eq same.symm).trans behind
      · exact (ahead current ((sound.owners_makeRoom record.key).mpr ⟨owned', same⟩)).trans behind
  · rw [kept]
    obtain ⟨owned', differs⟩ := (sound.owners_makeRoom record.key).mp had
    obtain ⟨⟨held, currentLate⟩, currentDeclares, least⟩ := ownedSince.least current owned'
    refine ⟨⟨(sound.holds_enter record).mpr (.inr ⟨held, differs⟩), currentLate⟩,
      currentDeclares, ?_⟩
    rintro other ⟨held', otherLate⟩ otherDeclares
    rcases (sound.holds_enter record).mp held' with rfl | ⟨before, -⟩
    · exact below.le
    · exact least other ⟨before, otherLate⟩ otherDeclares

/-- A registration that does not claim the name leaves its owner alone, unless that goes and
others stay. -/
theorem enter_undeclared (ownedSince : index.OwnedSince since name) (sound : index.Sound)
    (undeclared : record.declares name = false)
    (stays : ∀ owner other, index.tables.owners.get? name = some owner →
      index.tables.Holds other → other.key ≠ record.key → other.declares name = true →
        owner.key ≠ record.key) :
    (index.enter record).OwnedSince since name := by
  have earlier {other : Record} (held : (index.enter record).tables.Holds other)
      (declares : other.declares name = true) :
      index.tables.Holds other ∧ other.key ≠ record.key := by
    rcases (sound.holds_enter record).mp held with rfl | before
    · rw [undeclared] at declares
      cases declares
    · exact before
  constructor
  case owned =>
    intro other held otherLate declares
    obtain ⟨before, differs⟩ := earlier held declares
    obtain ⟨owner, owned⟩ := ownedSince.owned other before otherLate declares
    rw [owners_enter_undeclared undeclared]
    exact ⟨owner, (sound.owners_makeRoom record.key).mpr
      ⟨owned, stays owner other owned before differs declares⟩⟩
  case least =>
    intro owner owned
    rw [owners_enter_undeclared undeclared] at owned
    obtain ⟨owned, differs⟩ := (sound.owners_makeRoom record.key).mp owned
    obtain ⟨⟨held, late⟩, declares, least⟩ := ownedSince.least owner owned
    refine ⟨⟨(sound.holds_enter record).mpr (.inr ⟨held, differs⟩), late⟩, declares, ?_⟩
    rintro other ⟨held', otherLate⟩ otherDeclares
    exact least other ⟨(earlier held' otherDeclares).1, otherLate⟩ otherDeclares

theorem of_empty (nothing : index.tables = Tables.empty) : index.OwnedSince since name := by
  constructor
  case owned => simp [nothing, Tables.not_holds_empty]
  case least => simp [nothing]

/-- An index without the name owns it since any number that no record has reached. -/
theorem of_unowned (sound : index.Sound) (unowned : index.tables.owners.get? name = none)
    (late : index.cells.size ≤ since) : index.OwnedSince since name := by
  constructor
  case owned =>
    intro record held recordLate
    have := sound.numbered record held
    omega
  case least =>
    intro owner owned
    rw [unowned] at owned
    cases owned

theorem settle (ownedSince : index.OwnedSince since name) (record : Record) :
    (index.settle record).2.OwnedSince since name := by
  constructor
  case owned => simpa only [settle_tables] using ownedSince.owned
  case least => simpa only [settle_tables] using ownedSince.least

/-- The owner of a name stays the least of the records from a number on, or the operation
orphans the name. -/
theorem perform (ownedSince : index.OwnedSince since name) (sound : index.Sound)
    (early : since ≤ index.cells.size) (kept : index.orphans operation name = false) :
    (index.perform operation).OwnedSince since name := by
  rcases perform_cases index operation with
    ⟨record, registered, registers⟩ | ⟨-, ⟨tree, files, distinct, result⟩ | keeps⟩
  · rw [registers.result]
    refine OwnedSince.settle ?_ record
    cases declares : record.declares name with
    | true => exact ownedSince.enter_declaring sound (registers.number ▸ early) declares
    | false =>
      refine ownedSince.enter_undeclared sound declares ?_
      intro owner other owned held differs otherDeclares same
      -- An owner that goes while another file declares the name is what `orphans` excludes.
      have orphaned := orphans_iff.mpr ⟨record, owner, other, registered, declares, owned, same,
        held, differs, otherDeclares⟩
      rw [kept] at orphaned
      cases orphaned
  · rw [result]
    exact OwnedSince.afterPhases index tree distinct early
  · exact ownedSince.of_keeps keeps

end OwnedSince

/-- An operation that orphans a name leaves it without an owner. -/
theorem Sound.unowned_of_orphans (sound : index.Sound)
    (orphaned : index.orphans operation name = true) :
    (index.perform operation).tables.owners.get? name = none := by
  obtain ⟨record, owner, other, registered, undeclared, owned, same, -⟩ := orphans_iff.mp orphaned
  rw [(registers_of_registered registered).result, settle_tables,
    owners_enter_undeclared undeclared]
  refine Option.eq_none_iff_forall_ne_some.mpr fun current found => ?_
  obtain ⟨owned', differs⟩ := (sound.owners_makeRoom record.key).mp found
  exact differs (Option.some.inj (owned.symm.trans owned') ▸ same)

theorem Sound.not_completeAt_of_orphans (sound : index.Sound)
    (orphaned : index.orphans operation name = true) :
    ¬ (index.perform operation).CompleteAt name := by
  intro complete
  obtain ⟨record, -, other, registered, -, -, -, held, differs, declares⟩ := orphans_iff.mp orphaned
  have stays : (index.perform operation).tables.Holds other := by
    rw [(registers_of_registered registered).result, settle_tables, sound.holds_enter]
    exact .inr ⟨held, differs⟩
  obtain ⟨owner, owned, -⟩ := complete other stays declares
  rw [sound.unowned_of_orphans orphaned] at owned
  cases owned

/-! ### The owner of a name after any run -/

theorem OwnedSince.run (ownedSince : index.OwnedSince since name) (sound : index.Sound)
    (early : since ≤ index.cells.size) (operations : List Operation) :
    (index.run operations).OwnedSince (index.lostBelow name since operations) name := by
  induction operations generalizing index since with
  | nil => exact ownedSince
  | cons operation rest ih =>
    have sound' := sound.perform operation
    rw [run_cons, lostBelow]
    split_ifs with orphaned
    · -- All records made so far have lost the name, so the count starts over.
      have unowned := sound.unowned_of_orphans orphaned
      exact ih (of_unowned sound' unowned le_rfl) sound' le_rfl
    · rw [Bool.not_eq_true] at orphaned
      exact ih (ownedSince.perform sound early orphaned) sound'
        (early.trans (size_perform index operation))

/-- Where no operation orphans the name, no record loses it. -/
theorem lostBelow_of_kept {operations : List Operation}
    (kept : ∀ done operation rest, operations = done ++ operation :: rest →
      (index.run done).orphans operation name = false) :
    index.lostBelow name since operations = since := by
  induction operations generalizing index with
  | nil => rfl
  | cons operation rest ih =>
    have first : index.orphans operation name = false := kept [] operation rest rfl
    rw [lostBelow, first, if_neg Bool.false_ne_true]
    exact ih fun done next later split => kept (operation :: done) next later (by rw [split]; rfl)

/-- Of some records that declare a name, one has the least path. -/
theorem exists_leastDeclaring {records : List Record} (member : record ∈ records)
    (declares : record.declares name = true) :
    ∃ least, LeastDeclaring (· ∈ records) name least := by
  induction records generalizing record with
  | nil => simp at member
  | cons first rest ih =>
    by_cases later : ∃ other ∈ rest, other.declares name = true
    · obtain ⟨other, isLater, otherDeclares⟩ := later
      obtain ⟨least, inRest, leastDeclares, isLeast⟩ := ih isLater otherDeclares
      by_cases ahead : first.declares name = true ∧ first.path ≤ least.path
      · refine ⟨first, List.mem_cons_self, ahead.1, ?_⟩
        rintro other (_ | ⟨_, isLater⟩) otherDeclares
        · exact le_refl first.path
        · exact ahead.2.trans (isLeast other isLater otherDeclares)
      · refine ⟨least, List.mem_cons_of_mem _ inRest, leastDeclares, ?_⟩
        rintro other (_ | ⟨_, isLater⟩) otherDeclares
        · exact (Path.le_total least.path first.path).resolve_right fun below =>
            ahead ⟨otherDeclares, below⟩
        · exact isLeast other isLater otherDeclares
    · have isFirst : record = first := (List.mem_cons.mp member).resolve_right fun isLater =>
        later ⟨record, isLater, declares⟩
      refine ⟨first, List.mem_cons_self, isFirst ▸ declares, ?_⟩
      rintro other (_ | ⟨_, isLater⟩) otherDeclares
      · exact le_refl first.path
      · exact absurd ⟨other, isLater, otherDeclares⟩ later

theorem Sound.eq_of_le_of_le (sound : index.Sound) {other : Record}
    (held : index.tables.Holds record) (held' : index.tables.Holds other)
    (below : record.path ≤ other.path) (above : other.path ≤ record.path) : record = other :=
  sound.eq_of_key held held' (Path.components_eq_of_le_of_le below above)

theorem OwnedSince.owner_iff (ownedSince : index.OwnedSince since name) (sound : index.Sound) :
    index.tables.owners.get? name = some owner ↔
      LeastDeclaring (fun record => index.tables.Holds record ∧ since ≤ record.number) name
        owner := by
  refine ⟨ownedSince.least owner, fun ⟨⟨held, late⟩, declares, least⟩ => ?_⟩
  obtain ⟨current, owned⟩ := ownedSince.owned owner held late declares
  obtain ⟨⟨held', late'⟩, declares', least'⟩ := ownedSince.least current owned
  rw [owned, sound.eq_of_le_of_le held' held (least' owner ⟨held, late⟩ declares)
    (least current ⟨held', late'⟩ declares')]

/-- The owner of a name is the least record of all if and only if that one has not lost it. -/
theorem OwnedSince.completeAt_iff (ownedSince : index.OwnedSince since name)
    (sound : index.Sound) : index.CompleteAt name ↔
      ∀ record, LeastDeclaring index.tables.Holds name record → since ≤ record.number := by
  constructor
  · intro complete record ⟨held, declares, least⟩
    obtain ⟨owner, owned, isHeld, ownerDeclares, ownerLeast⟩ := complete record held declares
    rw [sound.eq_of_le_of_le held isHeld (least owner isHeld ownerDeclares)
      (ownerLeast record held declares)]
    exact (ownedSince.least owner owned).member.2
  · -- The records are finitely many, so one of those that declare the name is the least.
    intro late record held declares
    obtain ⟨least, isLeast⟩ := exists_leastDeclaring (Tables.mem_sortedRecords.mpr held) declares
    simp only [Tables.mem_sortedRecords] at isLeast
    refine ⟨least, (ownedSince.owner_iff sound).mpr ?_, isLeast⟩
    exact ⟨⟨isLeast.member, late least isLeast⟩, isLeast.declares,
      fun other among => isLeast.least other among.1⟩

/-- After any run, the owner of a name is the least of the records that were entered since
the name was last orphaned. So the least record of all answers for the name if and only if
it has not lost it, and it always does so in runs that orphan no name, and in no others. -/
theorem completeAt_run_iff {config : Config} {cores : Nat}
    (created : create config cores = .ok start) (operations : List Operation) (name : String) :
    (∀ owner, (start.run operations).tables.owners.get? name = some owner ↔
        LeastDeclaring (fun record => (start.run operations).tables.Holds record ∧
          start.lostBelow name 0 operations ≤ record.number) name owner) ∧
      ((start.run operations).CompleteAt name ↔
        ∀ record, LeastDeclaring (start.run operations).tables.Holds name record →
          start.lostBelow name 0 operations ≤ record.number) ∧
      ((∀ done rest, operations = done ++ rest → (start.run done).CompleteAt name) ↔
        ∀ done operation rest, operations = done ++ operation :: rest →
          (start.run done).orphans operation name = false) := by
  have sound := Sound.of_create created
  have nothing : start.OwnedSince 0 name := .of_empty (tables_of_create created)
  have ownedSince (done : List Operation) :
      (start.run done).OwnedSince (start.lostBelow name 0 done) name :=
    nothing.run sound (Nat.zero_le _) done
  refine ⟨fun owner => (ownedSince operations).owner_iff (sound.run operations),
    (ownedSince operations).completeAt_iff (sound.run operations), ?_⟩
  constructor
  · intro complete done operation rest split
    by_contra orphaned
    rw [Bool.not_eq_false] at orphaned
    have next := complete (done ++ [operation]) rest (by simp [split])
    rw [run_append] at next
    exact (sound.run done).not_completeAt_of_orphans orphaned next
  · rintro kept done rest rfl
    refine ((ownedSince done).completeAt_iff (sound.run done)).mpr fun record _ => ?_
    rw [lostBelow_of_kept]
    · exact Nat.zero_le _
    · intro earlier operation later split
      exact kept earlier operation (later ++ rest) (by simp [split])

/-- Two files declare one type, and the first of them is registered again without it. The
second file still declares the type but no longer answers for it. -/
theorem completeAt_run_iff_renamed :
    let start : Index := ⟨{}, 1, Tables.empty, #[], []⟩
    let operations : List Operation :=
      [.registerSource ⟨"a/T.java"⟩ "package p; class T \x7b\x7d",
        .registerSource ⟨"b/T.java"⟩ "package p; class T \x7b\x7d",
        .registerSource ⟨"a/T.java"⟩ "package p; class U \x7b\x7d"]
    (start.run operations).tables.owners.get? "p.T" = none ∧
      (start.run operations).tables.records.values.any (·.declares "p.T") = true ∧
      ¬ ∀ done rest, operations = done ++ rest → (start.run done).CompleteAt "p.T" := by
  intro start operations
  have created : create {} 1 = .ok start := rfl
  refine ⟨by decide +kernel, by decide +kernel, fun complete => ?_⟩
  have kept := (completeAt_run_iff created operations "p.T").2.2.mp complete
  have orphaned : (start.run (operations.take 2)).orphans operations[2] "p.T" = true := by
    decide +kernel
  rw [kept (operations.take 2) operations[2] [] rfl] at orphaned
  cases orphaned

end JavaIndex.Index
