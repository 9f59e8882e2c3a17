import JavaIndex.Proofs.PackageCounts
import Mathlib.Data.List.Infix

/-!
# What happens to a record

A record is entered, then the types that it uses are noted, and then the post-processor, if
there is one, is shown the record together with these types. That is all that ever happens
to it: the journal of an index has these events for each record, once and in this order, and
has no others. A panic of the post-processor comes after the types are noted and is caught,
so it can neither repeat nor suppress anything.

The argument goes by the numbers of records. An operation adds the events of the records
that it puts into the index (`Index.Chronicle`), all of them with numbers that were not in
use before; so the history of a record is settled by the operation that enters it.

## Main definitions

* `Index.history` — the events about the record of a number
* `Index.lifeOf` — all that happens to a record
* `Index.enteredBy` — the records that an operation puts into the index
* `Index.Chronicle` — what an operation adds to the journal

## Main results

* `Index.settleAll_journal` — what the second phase of a build adds to the journal
* `Index.chronicle_perform` — what an operation adds to the journal
* `Index.Recorded.run` — the histories of all records after a run
* `Index.lives_run` — every record is resolved once and then shown to the post-processor once
-/

namespace JavaIndex

/-! ### Events about a record -/

namespace Event

variable {number : Nat} {events : List Event}

/-- The record that an event is about. -/
def record : Event → Record
  | inserted record => record
  | resolved record _ => record
  | called record _ => record

/-- Whether an event is about the record of a number. -/
def about (number : Nat) (event : Event) : Bool :=
  event.record.number == number

theorem filter_about_eq_nil (others : ∀ event ∈ events, event.record.number ≠ number) :
    events.filter (about number) = [] := by
  apply List.filter_eq_nil_iff.mpr
  intro event happened
  simpa [about] using others event happened

/-- Of the events about several records, those about one of them. -/
theorem filter_about_flatMap {records : List Record} {record : Record}
    {eventsOf : Record → List Event}
    (isAbout : ∀ record, ∀ event ∈ eventsOf record, event.record = record)
    (distinct : (records.map Record.number).Nodup) (member : record ∈ records) :
    (records.flatMap eventsOf).filter (about record.number) = eventsOf record := by
  induction records with
  | nil => cases member
  | cons first rest ih =>
    obtain ⟨notLater, distinct⟩ := List.nodup_cons.mp distinct
    rw [List.flatMap_cons, List.filter_append]
    rcases List.mem_cons.mp member with rfl | later
    · have own : (eventsOf record).filter (about record.number) = eventsOf record := by
        apply List.filter_eq_self.mpr
        intro event happened
        rw [about, isAbout record event happened, beq_self_eq_true]
      have others : (rest.flatMap eventsOf).filter (about record.number) = [] := by
        apply filter_about_eq_nil
        intro event happened same
        obtain ⟨other, later, happened⟩ := List.mem_flatMap.mp happened
        rw [isAbout other event happened] at same
        exact notLater (same ▸ List.mem_map_of_mem later)
      rw [own, others, List.append_nil]
    · have others : (eventsOf first).filter (about record.number) = [] := by
        apply filter_about_eq_nil
        intro event happened same
        rw [isAbout first event happened] at same
        exact notLater (same ▸ List.mem_map_of_mem later)
      rw [others, List.nil_append, ih distinct later]

end Event

namespace Index

variable {index start after : Index} {operation : Operation} {record : Record} {tree : FileTree}
  {files : List Path} {happened : List Event}

/-- What happened to the record of a number, the earliest first. -/
def history (index : Index) (number : Nat) : List Event :=
  (index.journal.filter (Event.about number)).reverse

/-- All that happens to a record: it is entered, the types that it uses are noted for the
first time, and the post-processor, if there is one, is shown the record with these types. -/
def lifeOf (index : Index) (record : Record) : List Event :=
  [.inserted record, .resolved record true] ++
    if index.config.postProcessor.isSome then
      [.called record ⟨record.path, true, (index.usedTypes record).length⟩]
    else []

theorem history_of_journal (journal : after.journal = happened.reverse ++ index.journal)
    (number : Nat) :
    after.history number = index.history number ++ happened.filter (Event.about number) := by
  rw [history, journal, List.filter_append, List.filter_reverse, List.reverse_append,
    List.reverse_reverse, history]

/-! ### What the parts of an operation add to the journal -/

/-- What happens to a record when it is resolved for the first time. -/
def settling (index : Index) (record : Record) : List Event :=
  .resolved record true ::
    if index.config.postProcessor.isSome then
      [.called record ⟨record.path, true, (record.resolveWith index.known).length⟩]
    else []

theorem record_of_mem_settling {event : Event} (happened : event ∈ index.settling record) :
    event.record = record := by
  unfold settling at happened
  split_ifs at happened
  · simp only [List.mem_cons, List.not_mem_nil, or_false] at happened
    rcases happened with rfl | rfl <;> rfl
  · rw [List.mem_singleton.mp happened]
    rfl

theorem settling_congr {left right : Index} (config : left.config = right.config)
    (tables : left.tables = right.tables) : left.settling = right.settling := by
  funext record
  rw [settling, settling, known, known, config, tables]

/-- A record that is entered and then resolved has its whole life behind it. -/
theorem lifeOf_eq (used : index.usedBy? record = some (record.resolveWith index.known)) :
    index.lifeOf record = .inserted record :: index.settling record := by
  rw [lifeOf, settling, usedTypes, used, Option.getD_some]
  rfl

theorem addOutlines_journal (index : Index) (outlines : List Outline) :
    (index.addOutlines outlines).journal =
      ((numbered index.cells.size outlines).map Event.inserted).reverse ++ index.journal := by
  induction outlines generalizing index with
  | nil => rfl
  | cons outline rest ih =>
    have size : (index.addRecord (index.nextRecord outline)).cells.size =
        index.cells.size + 1 := Array.size_push _
    have next := ih (index.addRecord (index.nextRecord outline))
    rw [size] at next
    rw [numbered, List.map_cons, List.reverse_cons, List.append_assoc]
    exact next

/-- Resolving a record that was not resolved before adds what happens to it then. -/
theorem settle_journal (fresh : index.cells[record.number]? = some none) :
    (index.settle record).2.journal = (index.settling record).reverse ++ index.journal := by
  have unresolved : index.usedBy? record = none := by rw [usedBy?, fresh]; rfl
  -- Whatever the post-processor does comes after the types are noted.
  have noted : (index.noteUsed record (record.resolveWith index.known)).usedBy? record =
      some (record.resolveWith index.known) := by
    rw [usedBy?, noteUsed_cells, if_pos ⟨rfl, fresh⟩]
    rfl
  have journal : (index.noteUsed record (record.resolveWith index.known)).journal =
      .resolved record true :: index.journal := by
    rw [noteUsed, unresolved]
  rw [settle, callPostProcessor, noteUsed_config, settling]
  cases index.config.postProcessor with
  | none => exact journal
  | some process => simp [noted, journal]

/-- The second phase of a build resolves its records one after the other, each for the first
time. -/
theorem settleAll_journal {records : List Record} (index : Index)
    (distinct : (records.map Record.number).Nodup)
    (fresh : ∀ record ∈ records, index.cells[record.number]? = some none) :
    (index.settleAll records).2.journal =
      (records.flatMap index.settling).reverse ++ index.journal := by
  induction records generalizing index with
  | nil => rfl
  | cons first rest ih =>
    obtain ⟨notLater, distinct⟩ := List.nodup_cons.mp distinct
    obtain ⟨firstFresh, restFresh⟩ := List.forall_mem_cons.mp fresh
    have stillFresh : ∀ record ∈ rest,
        (index.settle first).2.cells[record.number]? = some none := by
      intro record later
      have differs : record.number ≠ first.number :=
        fun same => notLater (same ▸ List.mem_map_of_mem later)
      rw [settle_cells, if_neg (fun both => differs both.1)]
      exact restFresh record later
    rw [settleAll_cons, ih _ distinct stillFresh, settle_journal firstFresh,
      settling_congr (settle_config index first) (settle_tables index first), List.flatMap_cons,
      List.reverse_append, List.append_assoc]

/-- Both phases of a build: all records are entered, then each of them is resolved. -/
theorem afterPhases_journal (index : Index) (tree : FileTree)
    (distinct : (files.map Path.components).Nodup) :
    (index.afterPhases tree files).journal =
      ((index.newRecords tree files).map Event.inserted ++
        (index.afterPhases tree files).allRecords.flatMap
          (index.afterPhases tree files).settling).reverse ++ index.journal := by
  obtain ⟨numbers, fresh⟩ := fresh_sortedRecords index tree distinct
  have tables : (index.afterPhases tree files).tables =
      (index.reset.enterFiles tree files).2.tables := settleAll_tables _ _
  have settling : (index.afterPhases tree files).settling =
      (index.reset.enterFiles tree files).2.settling :=
    settling_congr (settleAll_config _ _) tables
  have entered : (index.reset.enterFiles tree files).2.journal =
      ((index.newRecords tree files).map Event.inserted).reverse ++ index.journal := by
    rw [enterFiles_snd, addOutlines_journal]
    rfl
  rw [settling, allRecords, tables, List.reverse_append, List.append_assoc, ← entered]
  exact settleAll_journal _ numbers fresh

/-! ### What an operation adds to the journal -/

/-- The records that an operation puts into the index: those of a build that succeeds, or the
one of a registration that succeeds. -/
def enteredBy (index : Index) (operation : Operation) : List Record :=
  if index.rebuilds operation then (index.perform operation).allRecords
  else (index.registered? operation).toList

/-- What an operation adds to the journal, the earliest first: for each record that it puts
into the index the whole life of that record, and nothing else. -/
structure Chronicle (index : Index) (operation : Operation) (happened : List Event) : Prop where
  journal : (index.perform operation).journal = happened.reverse ++ index.journal
  /-- Every event is about a record that the operation puts into the index. -/
  about : ∀ event ∈ happened, event.record ∈ index.enteredBy operation
  lives : ∀ record ∈ index.enteredBy operation,
    happened.filter (Event.about record.number) = (index.perform operation).lifeOf record
  /-- No two of the records have the same number. -/
  distinct : ((index.enteredBy operation).map Record.number).Nodup

theorem afterPhases_of_rebuilds (rebuilds : index.rebuilds operation = true) :
    ∃ tree files, (files.map Path.components).Nodup ∧
      index.perform operation = index.afterPhases tree files := by
  cases operation with
  | build tree root =>
    cases folder : tree.folderAt? root with
    | none =>
      simp [Index.rebuilds, failure?, build, folder, failureOf?, Except.mapError] at rebuilds
    | some entries =>
      exact ⟨tree, _, nodup_discover_files _ root (FileTree.wellNamed_folderAt? folder),
        congrArg Prod.snd (build_of_folder index folder)⟩
  | _ => cases rebuilds

/-- An operation that puts no record into the index leaves records, cells and journal alone. -/
theorem idle_of_silent (noBuild : index.rebuilds operation = false)
    (nothing : index.registered? operation = none) :
    index.Keeps (index.perform operation) ∧
      (index.perform operation).journal = index.journal := by
  have ofFailed (failed : index.failure? operation ≠ none) :
      index.Keeps (index.perform operation) ∧
        (index.perform operation).journal = index.journal := by
    rw [perform_of_failed failed]
    exact ⟨Keeps.of_eq rfl, rfl⟩
  cases operation with
  | build tree root =>
    rw [rebuilds, Option.isNone_eq_false_iff, Option.isSome_iff_ne_none] at noBuild
    exact ofFailed noBuild
  | registerFile tree path => exact ofFailed fun succeeded => toOption_ne_none succeeded nothing
  | registerSource path source =>
    exact ofFailed fun succeeded => toOption_ne_none succeeded nothing
  | addPackage package => exact ⟨⟨rfl, rfl, rfl⟩, rfl⟩
  | removePackage package =>
    exact ⟨⟨Tables.records_removePackage _ _, Tables.owners_removePackage _ _, rfl⟩, rfl⟩

theorem enteredBy_of_rebuilds (rebuilds : index.rebuilds operation = true) :
    index.enteredBy operation = (index.perform operation).allRecords :=
  if_pos rebuilds

theorem enteredBy_of_registered (registered : index.registered? operation = some record) :
    index.enteredBy operation = [record] := by
  rw [enteredBy, (silent_of_registered registered).1, if_neg Bool.false_ne_true, registered]
  rfl

theorem enteredBy_of_silent (noBuild : index.rebuilds operation = false)
    (nothing : index.registered? operation = none) : index.enteredBy operation = [] := by
  rw [enteredBy, noBuild, if_neg Bool.false_ne_true, nothing]
  rfl

theorem Registers.journal (registers : index.Registers record after) :
    after.journal = (.inserted record :: after.settling record).reverse ++ index.journal := by
  have fresh : (index.enter record).cells[record.number]? = some none := by
    rw [cells_enter, registers.number]
    exact Array.getElem?_push_size
  have entered : (index.enter record).journal = .inserted record :: index.journal := by
    unfold enter addRecord makeRoom
    split <;> rfl
  have config : after.config = (index.enter record).config := by
    rw [registers.result, settle_config]
  rw [settling_congr config registers.tables, registers.result, settle_journal fresh, entered,
    List.reverse_cons, List.append_assoc]
  rfl

/-- The records of a build are entered one after the other, and resolved one after the
other when all of them are there. -/
theorem chronicle_of_rebuilds (rebuilds : index.rebuilds operation = true) :
    ∃ happened, index.Chronicle operation happened := by
  obtain ⟨tree, files, distinct, result⟩ := afterPhases_of_rebuilds rebuilds
  have tabulates := tabulates_afterPhases index tree distinct
  have listed {record : Record} : record ∈ (index.afterPhases tree files).allRecords ↔
      record ∈ index.newRecords tree files :=
    Tables.mem_sortedRecords.trans tabulates.holds_iff
  have numbers : ((index.afterPhases tree files).allRecords.map Record.number).Nodup := by
    rw [allRecords, afterPhases, settleAll_tables]
    exact (fresh_sortedRecords index tree distinct).1
  have numbers' : ((index.newRecords tree files).map Record.number).Nodup := by
    rw [newRecords, number_numbered]
    exact List.nodup_range'
  refine ⟨(index.newRecords tree files).map .inserted ++
    (index.afterPhases tree files).allRecords.flatMap (index.afterPhases tree files).settling, ?_⟩
  constructor
  case journal => rw [result, afterPhases_journal index tree distinct]
  case about =>
    rw [enteredBy_of_rebuilds rebuilds, result]
    intro event happened
    rcases List.mem_append.mp happened with entered | settled
    · obtain ⟨record, member, rfl⟩ := List.mem_map.mp entered
      exact listed.mpr member
    · obtain ⟨record, member, settled⟩ := List.mem_flatMap.mp settled
      rwa [record_of_mem_settling settled]
  case lives =>
    rw [enteredBy_of_rebuilds rebuilds, result]
    intro record member
    have used := usedBy?_afterPhases index tree distinct (Tables.mem_sortedRecords.mp member)
    have entered : ((index.newRecords tree files).map Event.inserted).filter
        (Event.about record.number) = [.inserted record] := by
      rw [List.map_eq_flatMap]
      exact Event.filter_about_flatMap (by simp [Event.record]) numbers' (listed.mp member)
    have settled : ((index.afterPhases tree files).allRecords.flatMap
        (index.afterPhases tree files).settling).filter (Event.about record.number) =
          (index.afterPhases tree files).settling record :=
      Event.filter_about_flatMap (fun _ _ => record_of_mem_settling) numbers member
    rw [List.filter_append, entered, settled, lifeOf_eq used]
    rfl
  case distinct => rwa [enteredBy_of_rebuilds rebuilds, result]

theorem chronicle_of_registered (registered : index.registered? operation = some record) :
    ∃ happened, index.Chronicle operation happened := by
  have registers := registers_of_registered registered
  have isAbout : ∀ event ∈ Event.inserted record :: (index.perform operation).settling record,
      event.record = record := by
    intro event happened
    rcases List.mem_cons.mp happened with rfl | settled
    · rfl
    · exact record_of_mem_settling settled
  refine ⟨.inserted record :: (index.perform operation).settling record, registers.journal, ?_, ?_,
    ?_⟩ <;> rw [enteredBy_of_registered registered]
  · intro event happened
    rw [isAbout event happened]
    exact List.mem_singleton_self record
  · intro other member
    rw [List.mem_singleton.mp member, lifeOf_eq registers.usedBy?_self]
    apply List.filter_eq_self.mpr
    intro event happened
    rw [Event.about, isAbout event happened, beq_self_eq_true]
  · exact List.nodup_singleton _

/-- Every operation adds the lives of the records that it puts into the index. -/
theorem chronicle_perform (index : Index) (operation : Operation) :
    ∃ happened, index.Chronicle operation happened := by
  cases rebuilds : index.rebuilds operation with
  | true => exact chronicle_of_rebuilds rebuilds
  | false =>
    cases registered : index.registered? operation with
    | some record => exact chronicle_of_registered registered
    | none =>
      refine ⟨[], (idle_of_silent rebuilds registered).2, ?_, ?_, ?_⟩ <;>
        simp [enteredBy_of_silent rebuilds registered]

/-- A record that an operation puts into the index is on file afterwards, under a number that
was not in use before, and it is resolved against the tables that it is part of. -/
theorem entered_perform (entered : record ∈ index.enteredBy operation) :
    (index.perform operation).tables.Holds record ∧
      (index.perform operation).usedBy? record =
        some (record.resolveWith (index.perform operation).known) ∧
      index.cells.size ≤ record.number ∧
      record.number < (index.perform operation).cells.size := by
  cases rebuilds : index.rebuilds operation with
  | true =>
    obtain ⟨tree, files, distinct, result⟩ := afterPhases_of_rebuilds rebuilds
    rw [enteredBy_of_rebuilds rebuilds, result] at entered
    have held := Tables.mem_sortedRecords.mp entered
    have isNew := (tabulates_afterPhases index tree distinct).holds_iff.mp held
    rw [result, afterPhases_size]
    exact ⟨held, usedBy?_afterPhases index tree distinct held, number_of_newRecord isNew⟩
  | false =>
    cases registered : index.registered? operation with
    | none =>
      rw [enteredBy_of_silent rebuilds registered] at entered
      cases entered
    | some other =>
      rw [enteredBy_of_registered registered, List.mem_singleton] at entered
      subst entered
      have registers := registers_of_registered registered
      refine ⟨⟨record.key, ?_⟩, registers.usedBy?_self, registers.number.ge, ?_⟩
      · rw [registers.tables, enter_tables, Tables.records_insert, if_pos rfl]
      · rw [registers.size, registers.number]
        omega

/-- What is on file after an operation was there before, or the operation put it there. -/
theorem Sound.holds_or_entered (sound : index.Sound)
    (held : (index.perform operation).tables.Holds record) :
    index.tables.Holds record ∨ record ∈ index.enteredBy operation := by
  cases rebuilds : index.rebuilds operation with
  | true =>
    rw [enteredBy_of_rebuilds rebuilds]
    exact .inr (Tables.mem_sortedRecords.mpr held)
  | false =>
    cases registered : index.registered? operation with
    | none =>
      rw [Tables.Holds, (idle_of_silent rebuilds registered).1.records] at held
      exact .inl held
    | some other =>
      rw [enteredBy_of_registered registered, List.mem_singleton]
      rw [(registers_of_registered registered).tables, sound.holds_enter] at held
      rcases held with same | ⟨before, -⟩
      · exact .inr same
      · exact .inl before

/-- An operation leaves the cells of earlier records alone. -/
theorem usedBy?_perform (operation : Operation) (earlier : record.number < index.cells.size) :
    (index.perform operation).usedBy? record = index.usedBy? record := by
  rcases perform_cases index operation with
    ⟨entered, -, registers⟩ | ⟨-, ⟨tree, files, distinct, result⟩ | keeps⟩
  · exact registers.usedBy?_of_lt earlier
  · -- The second phase fills the cells of the records of the first, which are all new.
    have tabulates := tabulates_afterPhases index tree distinct
    have others : record.number ∉
        (index.reset.enterFiles tree files).2.tables.sortedRecords.map Record.number := by
      intro listed
      obtain ⟨other, member, same⟩ := List.mem_map.mp listed
      rw [Tables.mem_sortedRecords, ← settleAll_tables _ (index.reset.enterFiles tree
        files).2.tables.sortedRecords] at member
      have isNew := (number_of_newRecord (tabulates.holds_iff.mp member)).1
      omega
    have inside : record.number < index.reset.cells.size := earlier
    rw [result, usedBy?, afterPhases, settleAll_cells _ (.inl others), enterFiles_snd,
      addOutlines_cells, Array.getElem?_append_left inside]
    rfl
  · rw [usedBy?, keeps.cells, usedBy?]

/-! ### Histories of a run -/

/-- A record that was resolved keeps the types noted for it, whatever happens later. -/
theorem usedBy?_run {types : TypeSet} (noted : index.usedBy? record = some types)
    (operations : List Operation) : (index.run operations).usedBy? record = some types := by
  induction operations generalizing index with
  | nil => exact noted
  | cons operation rest ih =>
    have made : record.number < index.cells.size := by
      by_contra outside
      rw [usedBy?, Array.getElem?_eq_none (Nat.not_lt.mp outside)] at noted
      cases noted
    exact ih ((usedBy?_perform operation made).trans noted)

/-- The journal holds the whole life of each record that it mentions. -/
structure Recorded (index : Index) : Prop where
  /-- Whatever happens, happens to a record that was entered. -/
  entered : ∀ event ∈ index.journal, .inserted event.record ∈ index.journal
  made : ∀ record, .inserted record ∈ index.journal → record.number < index.cells.size
  resolved : ∀ record, .inserted record ∈ index.journal → index.isResolved record = true
  lives : ∀ record, .inserted record ∈ index.journal →
    index.history record.number = index.lifeOf record

theorem mem_journal_perform (chronicle : index.Chronicle operation happened) :
    .inserted record ∈ (index.perform operation).journal ↔
      .inserted record ∈ index.journal ∨ record ∈ index.enteredBy operation := by
  rw [chronicle.journal, List.mem_append, List.mem_reverse, or_comm]
  refine or_congr_right ⟨chronicle.about _, fun entered => ?_⟩
  have life : Event.inserted record ∈ (index.perform operation).lifeOf record := by
    simp [lifeOf]
  rw [← chronicle.lives record entered] at life
  exact List.mem_of_mem_filter life

theorem config_perform (index : Index) (operation : Operation) :
    (index.perform operation).config = index.config :=
  config_run index [operation]

namespace Recorded

theorem of_create {config : Config} {cores : Nat} (created : create config cores = .ok index) :
    index.Recorded := by
  obtain ⟨workers, -, rfl⟩ := create_eq_ok.mp created
  constructor <;> simp

theorem perform (recorded : index.Recorded) (operation : Operation) :
    (index.perform operation).Recorded := by
  obtain ⟨happened, chronicle⟩ := chronicle_perform index operation
  have entered_iff {record : Record} : .inserted record ∈ (index.perform operation).journal ↔
      .inserted record ∈ index.journal ∨ record ∈ index.enteredBy operation :=
    mem_journal_perform chronicle
  constructor
  case entered =>
    intro event member
    rw [entered_iff]
    rw [chronicle.journal, List.mem_append, List.mem_reverse] at member
    rcases member with isNew | before
    · exact .inr (chronicle.about event isNew)
    · exact .inl (recorded.entered event before)
  case made =>
    intro record member
    rcases entered_iff.mp member with before | isNew
    · exact (recorded.made record before).trans_le (size_perform index operation)
    · exact (entered_perform isNew).2.2.2
  case resolved =>
    intro record member
    rw [isResolved]
    rcases entered_iff.mp member with before | isNew
    · rw [usedBy?_perform operation (recorded.made record before)]
      exact recorded.resolved record before
    · rw [(entered_perform isNew).2.1]
      rfl
  case lives =>
    intro record member
    rw [history_of_journal chronicle.journal]
    rcases entered_iff.mp member with before | isNew
    · have made := recorded.made record before
      have nothing : happened.filter (Event.about record.number) = [] := by
        apply Event.filter_about_eq_nil
        intro event member same
        have later := (entered_perform (chronicle.about event member)).2.2.1
        omega
      rw [nothing, List.append_nil, recorded.lives record before, lifeOf, lifeOf, usedTypes,
        usedTypes, config_perform, usedBy?_perform operation made]
    · have later := (entered_perform isNew).2.2.1
      have nothing : index.history record.number = [] := by
        rw [history, List.reverse_eq_nil_iff]
        apply Event.filter_about_eq_nil
        intro event member same
        have made := recorded.made _ (recorded.entered event member)
        omega
      rw [nothing, List.nil_append, chronicle.lives record isNew]

theorem run (recorded : index.Recorded) (operations : List Operation) :
    (index.run operations).Recorded := by
  induction operations generalizing index with
  | nil => exact recorded
  | cons operation rest ih => exact ih (recorded.perform operation)

theorem not_resolved_again (recorded : index.Recorded) (record : Record) :
    .resolved record false ∉ index.journal := by
  intro again
  have about : Event.resolved record false ∈ index.history record.number := by
    rw [history, List.mem_reverse, List.mem_filter]
    exact ⟨again, beq_self_eq_true _⟩
  rw [recorded.lives record (recorded.entered _ again), lifeOf] at about
  split_ifs at about <;> simp at about

end Recorded

/-- The journal mentions the records that were on file at some time of a run. -/
theorem mem_journal_run {config : Config} {cores : Nat} (created : create config cores = .ok start)
    (operations : List Operation) :
    .inserted record ∈ (start.run operations).journal ↔
      ∃ earlier, earlier <+: operations ∧ (start.run earlier).tables.Holds record := by
  induction operations using List.reverseRecOn with
  | nil =>
    obtain ⟨workers, -, rfl⟩ := create_eq_ok.mp created
    simp [Tables.not_holds_empty]
  | append_singleton operations operation ih =>
    obtain ⟨happened, chronicle⟩ := chronicle_perform (start.run operations) operation
    have sound := (Sound.of_create created).run operations
    rw [run_append, run_cons, run_nil, mem_journal_perform chronicle, ih]
    constructor
    · rintro (⟨earlier, before, held⟩ | isNew)
      · exact ⟨earlier, before.trans (List.prefix_append _ _), held⟩
      · refine ⟨operations ++ [operation], List.prefix_rfl, ?_⟩
        rw [run_append]
        exact (entered_perform isNew).1
    · rintro ⟨earlier, before, held⟩
      rcases List.prefix_concat_iff.mp before with rfl | before
      · rw [run_append] at held
        rcases sound.holds_or_entered held with held | isNew
        · exact .inl ⟨operations, List.prefix_rfl, held⟩
        · exact .inr isNew
      · exact .inl ⟨earlier, before, held⟩

/-- Over any run, all that happens to a record that is ever on file is this: it is entered,
then the types that it uses are noted, and then the post-processor, if there is one, is shown
the record with these types; each of this once, whatever the post-processor does. Nothing
happens to anything else. An operation adds the lives of the records that it puts into the
index, which are those of a build or the one of a registration, if these succeed. And the
types noted for a record stay the same ever after. -/
theorem lives_run {config : Config} {cores : Nat} (created : create config cores = .ok start)
    (operations : List Operation) :
    let index := start.run operations
    (∀ earlier record, earlier <+: operations → (start.run earlier).tables.Holds record →
        index.isResolved record = true ∧ index.history record.number = index.lifeOf record) ∧
      (∀ event ∈ index.journal, ∃ earlier, earlier <+: operations ∧
        (start.run earlier).tables.Holds event.record) ∧
      (∀ record, .resolved record false ∉ index.journal) ∧
      (∀ operation, ∃ happened, index.Chronicle operation happened) ∧
      ∀ record types, index.usedBy? record = some types →
        ∀ later, (index.run later).usedBy? record = some types := by
  intro index
  have recorded := (Recorded.of_create created).run operations
  refine ⟨fun earlier record before held => ?_, fun event member => ?_, recorded.not_resolved_again,
    index.chronicle_perform, fun record types noted later => usedBy?_run noted later⟩
  · have entered := (mem_journal_run created operations).mpr ⟨earlier, before, held⟩
    exact ⟨recorded.resolved record entered, recorded.lives record entered⟩
  · exact (mem_journal_run created operations).mp (recorded.entered event member)

/-- A file is built, registered again with a source without types, which fails, and once more
with another source, while the post-processor panics on everything. -/
theorem lives_run_panicking :
    let sources : List Entry := [.file "A.java" "class A \x7b\x7d".toUTF8]
    let tree : FileTree := ⟨⟨"/"⟩, [.folder "src" sources], by decide⟩
    let config : Config := { postProcessor := some fun _ _ => some (.text "post failed") }
    let start : Index := ⟨config, 1, Tables.empty, #[], []⟩
    let build : Operation := .build tree ⟨"src"⟩
    let failing : Operation := .registerSource ⟨"src/A.java"⟩ "package p;"
    let again : Operation := .registerSource ⟨"src/A.java"⟩ "class A \x7b B b; \x7d"
    let index := start.run [build, failing, again]
    ∃ first second, (start.run [build]).byPath? ⟨"src/A.java"⟩ = some first ∧
      index.byPath? ⟨"src/A.java"⟩ = some second ∧
      index.history 0 = [.inserted first, .resolved first true,
        .called first ⟨⟨"src/A.java"⟩, true, 0⟩] ∧
      index.history 1 = [.inserted second, .resolved second true,
        .called second ⟨⟨"src/A.java"⟩, true, 1⟩] ∧
      index.journal.length = 6 := by
  intro sources tree config start build failing again index
  have created : create config 1 = .ok start := rfl
  have evaluated : ((start.run [build]).byPath? ⟨"src/A.java"⟩).map (fun first =>
        (first.number, first.path, (index.usedTypes first).length)) = some (0, ⟨"src/A.java"⟩, 0) ∧
      (index.byPath? ⟨"src/A.java"⟩).map (fun second =>
        (second.number, second.path, (index.usedTypes second).length)) =
          some (1, ⟨"src/A.java"⟩, 1) ∧
      index.journal.length = 6 := by
    decide +kernel
  have sameConfig : index.config = config := config_run start [build, failing, again]
  have called : index.config.postProcessor.isSome = true := by
    rw [sameConfig]
    rfl
  have lives : ∀ earlier record, earlier <+: [build, failing, again] →
      (start.run earlier).tables.Holds record → index.isResolved record = true ∧
        index.history record.number = index.lifeOf record :=
    (lives_run created [build, failing, again]).1
  have holds (earlier : List Operation) (record : Record)
      (found : (start.run earlier).byPath? ⟨"src/A.java"⟩ = some record) :
      (start.run earlier).tables.Holds record := ⟨_, found⟩
  obtain ⟨atFirst, atLast, length⟩ := evaluated
  obtain ⟨first, found, isFirst⟩ := Option.map_eq_some_iff.mp atFirst
  obtain ⟨second, found', isSecond⟩ := Option.map_eq_some_iff.mp atLast
  obtain ⟨-, life⟩ := lives [build] first (by simp) (holds _ first found)
  obtain ⟨-, life'⟩ := lives [build, failing, again] second List.prefix_rfl (holds _ second found')
  simp only [Prod.mk.injEq] at isFirst isSecond
  rw [lifeOf, if_pos called, isFirst.1, isFirst.2.1, isFirst.2.2] at life
  rw [lifeOf, if_pos called, isSecond.1, isSecond.2.1, isSecond.2.2] at life'
  exact ⟨first, second, found, found', life, life', length⟩

end Index

end JavaIndex
