import JavaIndex.Proofs.Failures

/-!
# What a registration changes

A registration puts a record in the place of the one under its path. It changes nothing but
what lies at that path and the names that one of the two records declares. A name that the
new record declares goes to it, unless the name is held by a record of a lesser path.

When the same source is registered once more, the second record takes over all that the
first one had and gets nothing else. So the index stays as it was, except that one record
stands in the place of another with the same outline.

## Main definitions

* `Index.GivesWay` — the owner of a name gives way to a record that declares it
* `Index.Replaces` — all that a registration changes
* `Index.SameBut` — two indexes are the same, but for the identity of one record

## Main results

* `Index.Sound.replaces` — a registration changes nothing else
* `Index.Sound.sameBut` — registering an outline twice
* `Index.reachable_replaces` — what a registration changes, and what a second one does
-/

namespace JavaIndex

/-- The path that an operation registers, if it is a registration. -/
def Operation.path? : Operation → Option Path
  | .registerFile _ path | .registerSource path _ => some path
  | _ => none

namespace Record

variable {record again other : Record}

/-- A record, with another one in the place of a given one. -/
def exchange (record again other : Record) : Record :=
  if other = record then again else other

@[simp] theorem exchange_self (record again : Record) : record.exchange again record = again :=
  if_pos rfl

theorem exchange_of_ne (differs : other ≠ record) : record.exchange again other = other :=
  if_neg differs

theorem map_exchange {found : Option Record} (absent : found ≠ some record) :
    found.map (record.exchange again) = found := by
  cases found with
  | none => rfl
  | some other => rw [Option.map_some, exchange_of_ne fun same => absent (congrArg some same)]

end Record

namespace Index

variable {index after last : Index} {operation : Operation} {outline : Outline}
  {record again owner : Record} {name : String}

/-! ### Registrations that succeed -/

theorem outline_of_register {path : Path} {build : Except (Failure Error) Outline}
    (registered : (index.register path build).1.toOption = some record) :
    (∀ error, ¬ index.Refuses path error) ∧ build = .ok record.toOutline := by
  rcases register_outcome index path build with
    ⟨error, -, result⟩ | ⟨accepted, ⟨failure, -, result⟩ | ⟨outline, built, result⟩⟩ <;>
    rw [result] at registered <;> cases registered
  exact ⟨accepted_iff.mpr accepted, built⟩

theorem builds_of_registered (registered : index.registered? operation = some record) :
    index.Builds operation record.toOutline := by
  cases operation with
  | registerFile tree path =>
    obtain ⟨accepted, built⟩ := outline_of_register registered
    exact .file accepted built
  | registerSource path source =>
    obtain ⟨accepted, built⟩ := outline_of_register registered
    exact .source accepted built
  | _ => cases registered

namespace Builds

theorem path (builds : index.Builds operation outline) :
    operation.path? = some outline.path := by
  cases builds with
  | file accepted built => rw [Outline.path_ofFile built, Operation.path?]
  | source accepted built => rw [Outline.path_ofSource built, Operation.path?]

/-- Whether an outline is built depends on the configuration alone. -/
theorem of_config (builds : index.Builds operation outline)
    (same : after.config = index.config) : after.Builds operation outline := by
  have refused (path : Path) : after.refusal? path = index.refusal? path := by
    rw [refusal?, refusal?, same]
  cases builds with
  | file accepted built =>
    refine .file ?_ (same ▸ built)
    rwa [accepted_iff, refused, ← accepted_iff]
  | source accepted built =>
    refine .source ?_ (same ▸ built)
    rwa [accepted_iff, refused, ← accepted_iff]

end Builds

/-! ### What changes -/

/-- The owner of a name gives way to a record: it is filed under the path of the record, or
its own path lies behind that. -/
def GivesWay (index : Index) (record owner : Record) : Prop :=
  index.byPath? record.path = some owner ∨ record.path < owner.path

/-- All that changes when a record is put under its path. -/
structure Replaces (index : Index) (record : Record) (after : Index) : Prop where
  filed : after.byPath? record.path = some record
  others : ∀ path : Path, path.components ≠ record.path.components →
    after.byPath? path = index.byPath? path
  used : ∀ path other, path.components ≠ record.path.components →
    index.byPath? path = some other → after.usedBy? other = index.usedBy? other
  /-- A name that neither the record nor the one it replaces declares keeps its owner. -/
  undeclared : ∀ name, record.declares name = false →
    (∀ previous, index.byPath? record.path = some previous → previous.declares name = false) →
      after.tables.owners.get? name = index.tables.owners.get? name
  /-- A name goes to the record if nobody has it, or if its owner gives way. -/
  claimed : ∀ name, record.declares name = true →
    (∀ owner, index.tables.owners.get? name = some owner → index.GivesWay record owner) →
      after.tables.owners.get? name = some record
  /-- An owner that does not give way keeps the name. -/
  kept : ∀ name owner, record.declares name = true →
    index.tables.owners.get? name = some owner → ¬ index.GivesWay record owner →
      after.tables.owners.get? name = some owner

namespace Sound

theorem byPath?_iff (sound : index.Sound) (held : index.tables.Holds owner) :
    index.byPath? record.path = some owner ↔ owner.key = record.key := by
  constructor
  · exact fun found => sound.filed _ owner found
  · intro same
    rw [byPath?, ← sound.holds_iff.mp held, same]
    rfl

theorem owners_undeclared (sound : index.Sound) (undeclared : record.declares name = false)
    (nor : ∀ previous, index.byPath? record.path = some previous →
      previous.declares name = false) :
    (index.enter record).tables.owners.get? name = index.tables.owners.get? name := by
  rw [owners_enter_undeclared undeclared]
  ext owner
  rw [sound.owners_makeRoom]
  refine and_iff_left_of_imp fun owned same => ?_
  have replaced := (sound.byPath?_iff (sound.holds_owner owned)).mpr same
  have declares := sound.justified name owner owned
  rw [nor owner replaced] at declares
  cases declares

theorem owners_claimed (sound : index.Sound) (declares : record.declares name = true)
    (free : ∀ owner, index.tables.owners.get? name = some owner → index.GivesWay record owner) :
    (index.enter record).tables.owners.get? name = some record := by
  rw [enter_tables, Tables.owners_insert, if_pos declares]
  rcases Tables.settled_cases record ((index.makeRoom record.key).tables.owners.get? name) with
    ⟨won, -⟩ | ⟨current, had, below, -⟩
  · rw [won]
  · -- Whoever is left to contest the name neither lay at the path nor lies behind it.
    obtain ⟨owned, differs⟩ := (sound.owners_makeRoom record.key).mp had
    rcases free current owned with replaced | behind
    · exact absurd ((sound.byPath?_iff (sound.holds_owner owned)).mp replaced) differs
    · exact absurd behind below.asymm

/-- An owner that does not give way has a lesser path. -/
theorem lt_of_stays (sound : index.Sound) (owned : index.tables.owners.get? name = some owner)
    (stays : ¬ index.GivesWay record owner) : owner.path < record.path := by
  obtain ⟨notReplaced, notBehind⟩ := not_or.mp stays
  exact Path.lt_of_le_of_components_ne (Path.not_lt_iff.mp notBehind)
    ((sound.byPath?_iff (sound.holds_owner owned)).not.mp notReplaced)

theorem owners_kept (sound : index.Sound) (declares : record.declares name = true)
    (owned : index.tables.owners.get? name = some owner)
    (stays : ¬ index.GivesWay record owner) :
    (index.enter record).tables.owners.get? name = some owner := by
  have below := sound.lt_of_stays owned stays
  have differs : owner.key ≠ record.key :=
    fun same => Path.not_lt_iff.mpr (Path.le_of_components_eq same.symm) below
  rw [enter_tables, Tables.owners_insert, if_pos declares,
    (sound.owners_makeRoom record.key).mpr ⟨owned, differs⟩, Tables.settled_of_lt below]

/-- A registration changes what lies at its path and who has the names there, and nothing
else. -/
theorem replaces (sound : index.Sound) (registers : index.Registers record after) :
    index.Replaces record after := by
  have found := registers.byPath?_eq sound
  constructor
  case filed => rw [found, if_pos rfl]
  case others => exact fun path differs => by rw [found, if_neg differs]
  case used =>
    exact fun path other _ filed => registers.usedBy?_of_lt (sound.numbered other ⟨_, filed⟩)
  case undeclared =>
    rw [registers.tables]
    exact fun name => sound.owners_undeclared
  case claimed =>
    rw [registers.tables]
    exact fun name => sound.owners_claimed
  case kept =>
    rw [registers.tables]
    exact fun name owner => sound.owners_kept

end Sound

/-! ### Registering once more -/

/-- Two indexes are the same, but a record of the first has another one with the same outline
in its place. -/
structure SameBut (index : Index) (record again : Record) (after : Index) : Prop where
  outlined : again.toOutline = record.toOutline
  records : ∀ key, after.tables.records.get? key =
    (index.tables.records.get? key).map (record.exchange again)
  owners : ∀ name, after.tables.owners.get? name =
    (index.tables.owners.get? name).map (record.exchange again)
  packages : ∀ package, after.tables.packages.get? package = index.tables.packages.get? package
  used : ∀ other, index.tables.Holds other →
    after.usedBy? (record.exchange again other) = index.usedBy? other

namespace Sound

/-- After a registration a name that the record declares belongs to it, or to a record with a
lesser path. -/
theorem owner_cases (sound : index.Sound) (registers : index.Registers record after)
    (declares : record.declares name = true) :
    after.tables.owners.get? name = some record ∨
      ∃ owner, after.tables.owners.get? name = some owner ∧ owner.path < record.path := by
  have replaces := sound.replaces registers
  by_cases free : ∀ owner, index.tables.owners.get? name = some owner →
      index.GivesWay record owner
  · exact .inl (replaces.claimed name declares free)
  · push Not at free
    obtain ⟨owner, owned, stays⟩ := free
    exact .inr ⟨owner, replaces.kept name owner declares owned stays,
      (sound.lt_of_stays owned stays)⟩

/-- Registering an outline a second time puts the new record in the place of the first one
and changes nothing else. -/
theorem sameBut (sound : index.Sound) (first : index.Registers record after)
    (second : after.Registers again last) (same : again.toOutline = record.toOutline) :
    after.SameBut record again last := by
  have sound' := sound.registers first
  have replaces' := sound'.replaces second
  have sameKey : again.key = record.key := by rw [Record.key, Record.key, same]
  have filed : after.byPath? again.path = some record := by
    rw [same]
    exact (sound.replaces first).filed
  have owners (name : String) : last.tables.owners.get? name =
      (after.tables.owners.get? name).map (record.exchange again) := by
    cases declares : record.declares name with
    | false =>
      have absent : after.tables.owners.get? name ≠ some record := by
        intro owned
        rw [sound'.justified name record owned] at declares
        cases declares
      rw [Record.map_exchange absent]
      refine replaces'.undeclared name (same ▸ declares) fun previous found => ?_
      rw [← Option.some.inj (filed.symm.trans found)]
      exact declares
    | true =>
      have declares' : again.declares name = true := same ▸ declares
      rcases sound.owner_cases first declares with owned | ⟨owner, owned, below⟩
      · rw [owned, Option.map_some, Record.exchange_self]
        refine replaces'.claimed name declares' fun current owned' => .inl ?_
        rw [filed, ← Option.some.inj (owned.symm.trans owned')]
      · have differs : owner ≠ record := by
          rintro rfl
          exact lt_irrefl owner.path below
        rw [owned, Option.map_some, Record.exchange_of_ne differs]
        refine replaces'.kept name owner declares' owned ?_
        rintro (replaced | behind)
        · exact differs (Option.some.inj (replaced.symm.trans filed))
        · rw [same] at behind
          exact below.asymm behind
  -- The same names have an owner, so the second record is resolved as the first one was.
  have known : last.known = after.known := by
    rw [Index.known, Index.known]
    congr 1
    funext name
    rw [Tables.knows, Tables.knows, Cache.contains, Cache.contains, owners, Option.isSome_map]
  constructor
  case outlined => exact same
  case records =>
    intro key
    rw [second.tables, sound'.records_enter]
    split_ifs with here
    · have found : after.tables.records.get? key = some record := by
        rw [here]
        exact filed
      rw [found, Option.map_some, Record.exchange_self]
    · refine (Record.map_exchange fun found => here ?_).symm
      rw [sameKey, sound'.filed key record found]
  case owners => exact owners
  case packages =>
    intro package
    have counted : after.tables.packages.get? again.packageName =
        some ((index.makeRoom record.key).tables.usage record.packageName + 1) := by
      rw [same, first.tables, enter_tables, Tables.packages_insert, if_pos rfl]
    rw [second.tables]
    exact packages_enter_again filed (by rw [same]) counted package
  case used =>
    intro other held
    by_cases isFirst : other = record
    · rw [isFirst, Record.exchange_self, second.usedBy?_self, first.usedBy?_self, known,
        same]
    · rw [Record.exchange_of_ne isFirst]
      exact second.usedBy?_of_lt (sound'.numbered other held)

end Sound

/-- A registration that succeeds, on an index that comes about, puts a record under its path.
The records of other paths stay, with the types that they use, and so do the owners of names
that neither the new record nor the one it replaces declares. A name that the new record
declares goes to it if nobody has the name or its owner gives way, and otherwise stays where
it is. Registering the same outline once more succeeds and leaves all as it is, but for the
identity of the record. -/
theorem reachable_replaces (reachable : index.Reachable)
    (registered : index.registered? operation = some record) :
    let after := index.perform operation
    operation.path? = some record.path ∧ index.Replaces record after ∧
      after.Builds operation record.toOutline ∧
      ∀ repeated, after.Builds repeated record.toOutline →
        ∃ again, after.registered? repeated = some again ∧
          after.SameBut record again (after.perform repeated) := by
  intro after
  have sound := Sound.of_reachable reachable
  have registers := registers_of_registered registered
  have builds := builds_of_registered registered
  refine ⟨builds.path, sound.replaces registers, builds.of_config registers.config, ?_⟩
  intro repeated buildsAgain
  have registered' := (registered?_of_builds buildsAgain).1
  exact ⟨_, registered', sound.sameBut registers (registers_of_registered registered') rfl⟩

/-- A file is registered again when it declares the type of another file, which lies behind
it. -/
theorem reachable_replaces_renamed :
    let index : Index := (Index.mk {} 1 Tables.empty #[] []).run
      [.registerSource ⟨"a/T.java"⟩ "class T \x7b\x7d",
        .registerSource ⟨"b/X.java"⟩ "class X \x7b\x7d",
        .registerSource ⟨"c/U.java"⟩ "class U \x7b T t; \x7d"]
    let operation : Operation := .registerSource ⟨"b/X.java"⟩ "class U \x7b T t; \x7d"
    let after := index.perform operation
    ((index.tables.owners.get? "U").map (·.path.text) = some "c/U.java" ∧
        (after.tables.owners.get? "U").map (·.path.text) = some "b/X.java" ∧
        (after.tables.owners.get? "T").map (·.path.text) = some "a/T.java") ∧
      ∃ record, index.registered? operation = some record ∧ index.Replaces record after ∧
        ∃ again, after.registered? operation = some again ∧
          after.SameBut record again (after.perform operation) := by
  intro index operation after
  have reachable : index.Reachable := ⟨{}, 1, _, _, rfl, rfl⟩
  have succeeds : (index.registered? operation).isSome = true := by decide +kernel
  obtain ⟨record, registered⟩ := Option.isSome_iff_exists.mp succeeds
  obtain ⟨-, replaces, builds, repeating⟩ := reachable_replaces reachable registered
  exact ⟨by decide +kernel, record, registered, replaces, repeating operation builds⟩

end Index

end JavaIndex
