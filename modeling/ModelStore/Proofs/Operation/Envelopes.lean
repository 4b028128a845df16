import ModelStore.Proofs.Operation.Names
import ModelStore.Proofs.Operation.Running

/-!
# Rows and envelopes

A call that fails answers an envelope, which is an object; a call that does not may answer a row,
which is an object as well.  The fields of a row bear names of the schema, so where the schema does
not use the names of an envelope the two cannot be taken for each other.

## Main definitions

* `ErrorKind.envelope`: the envelope of a failure of some kind.
* `Outcome.NamesHave`: the fields of all rows of an outcome have names with some property.

## Main results

* `Work.namesHave_of_run`: the fields of rows have names that the statements use.
* `Outcome.toJson_ne_envelope`: no outcome is taken for an envelope.
-/

namespace ModelStore

/-- The envelope of a failure of a kind. -/
def ErrorKind.envelope (kind : ErrorKind) (message : String) : Json :=
  .object [("isError", .bool true), ("kind", .text kind.name), ("message", .text message)]

/-- Envelopes tell the kinds of failures apart. -/
theorem ErrorKind.envelope_inj {kind other : ErrorKind} {message text : String}
    (hSame : kind.envelope message = other.envelope text) : kind = other := by
  have hName : kind.name = other.name := by
    simp only [envelope, Json.object.injEq, List.cons.injEq, Prod.mk.injEq, Json.text.injEq] at hSame
    exact hSame.2.1.2
  revert hName
  cases kind <;> cases other <;> decide

variable {property : String → Prop}

/-! ## The fields of a row -/

/-- The fields of a row have names with some property. -/
def Record.NamesHave (property : String → Prop) (record : Record) : Prop :=
  ∀ name ∈ Fields.names record, property name

/-- Writing a value adds its name at most. -/
theorem Record.NamesHave.set {record : Record} (hRecord : Record.NamesHave property record)
    {name : String} (hName : property name) (value : Json) :
    Record.NamesHave property (Fields.set record name value) := by
  induction record with
  | nil => simpa [NamesHave, Fields.set, Fields.names] using hName
  | cons entry record ih =>
      obtain ⟨key, old⟩ := entry
      obtain ⟨hKey, hRest⟩ := List.forall_mem_cons.mp hRecord
      rw [Fields.set]
      split
      · exact hRecord
      · exact List.forall_mem_cons.mpr ⟨hKey, ih hRest⟩

/-- The fields of a row have the names of its columns. -/
theorem Record.namesHave_recordOf {columns : List OutputColumn}
    (hColumns : ∀ column ∈ columns, property column.name) (cells : List Cell) :
    Record.NamesHave property (recordOf columns cells) := by
  have hWrite : ∀ (entries : List (OutputColumn × Cell)) {record : Record},
      (∀ entry ∈ entries, property entry.1.name) → Record.NamesHave property record →
        Record.NamesHave property (Fields.setAll record
          (entries.map fun entry => (entry.1.name, entry.2.toJson entry.1.type))) := by
    intro entries
    induction entries with
    | nil => exact fun _ hRecord => hRecord
    | cons entry entries ih =>
        intro record hEntries hRecord
        obtain ⟨hEntry, hRest⟩ := List.forall_mem_cons.mp hEntries
        exact ih hRest (hRecord.set hEntry _)
  refine hWrite _ (fun entry hEntry => ?_) (by simp [NamesHave, Fields.names])
  exact hColumns entry.1 (List.of_mem_zip hEntry).1

/-- The columns that a statement returns have names that it uses. -/
theorem Statement.NamesHave.outputs_have {statement : Statement}
    (hNames : statement.NamesHave property) : ∀ column ∈ statement.outputs, property column.name := by
  cases statement with
  | find plan =>
      -- Each column that is shown stands in the select list, under its name.
      obtain ⟨core, joins⟩ := plan
      intro column hColumn
      have hListed : column.name ∈ (selectItems core joins).map (·.name) := by
        rw [names_selectItems]
        exact List.mem_append_left _ (List.mem_map_of_mem hColumn)
      obtain ⟨item, hItem, hName⟩ := List.mem_map.mp hListed
      have hHead := (List.forall_mem_append.mp hNames).1
      rw [headPieces, List.forall_mem_cons, List.forall_mem_append,
        Sql.forall_mem_intercalate (uses_plain (by decide)), List.forall_mem_map] at hHead
      have hUses := hHead.2.1 item hItem (.name item.name) (by simp [SelectItem.pieces])
      exact hName ▸ uses_name.mp hUses
  | first table columns predicate => exact List.forall_mem_map.mpr hNames.2.1
  | insert table values returned => exact List.forall_mem_map.mpr hNames.2.2
  | update table values predicate returned => exact List.forall_mem_map.mpr hNames.2.2.2
  | delete table predicate returned => exact List.forall_mem_map.mpr hNames.2.2
  | count table predicate => simp [Statement.outputs]

/-! ## Outcomes -/

/-- The fields of all rows of an outcome have names with some property. -/
def Outcome.NamesHave (property : String → Prop) : Outcome → Prop
  | .rows records => ∀ record ∈ records, Record.NamesHave property record
  | .row record => ∀ found ∈ record, Record.NamesHave property found
  | .number _ => True

/-- Whatever a step comes to is as it says. -/
def Transaction.Returns {α : Type} (holds : α → Prop) (step : Transaction α) : Prop :=
  ∀ connection a after, step.run.run connection = (.ok a, after) → holds a

section Returns

variable {α β : Type} {now : Int} {statement : Statement}

theorem Transaction.returns_pure {holds : α → Prop} {a : α} (hHolds : holds a) :
    (pure a : Transaction α).Returns holds := by
  intro connection b after hRun
  cases hRun
  exact hHolds

/-- A step after another one, which may rely on what that one says. -/
theorem Transaction.Returns.bind {step : Transaction α} {next : α → Transaction β}
    {between : α → Prop} {holds : β → Prop} (hStep : step.Returns between)
    (hNext : ∀ a, between a → (next a).Returns holds) : (step >>= next).Returns holds := by
  intro connection b after hRun
  rw [run_bind] at hRun
  split at hRun
  · rename_i a middle hFirst
    exact hNext a (hStep connection a middle hFirst) middle b after hRun
  · cases hRun

theorem Transaction.returns_any (step : Transaction α) : step.Returns fun _ => True :=
  fun _ _ _ _ => trivial

variable (hOutputs : ∀ column ∈ statement.outputs, property column.name)

include hOutputs

/-- The rows that a statement returns have fields with the names of its columns. -/
theorem returns_fetch :
    (fetch now statement).Returns fun records =>
      ∀ record ∈ records, Record.NamesHave property record := by
  refine (Transaction.returns_any _).bind fun answer _ => Transaction.returns_pure ?_
  rw [Answer.records, List.forall_mem_map]
  exact fun cells _ => Record.namesHave_recordOf hOutputs cells

theorem returns_fetchOnly : (fetchOnly now statement).Returns (Record.NamesHave property) := by
  refine (returns_fetch hOutputs).bind fun records hRecords => ?_
  cases records with
  | nil => exact fun _ _ _ hRun => nomatch hRun
  | cons record records => exact Transaction.returns_pure (List.forall_mem_cons.mp hRecords).1

end Returns

namespace Work

/-- The row that work comes to has fields with names that its statements use. -/
theorem returns_perform (now : Int) {work : Work}
    (hWork : ∀ statement ∈ work.statements, statement.NamesHave property) :
    (work.perform now).Returns (Outcome.NamesHave property) := by
  have hOutputs {statement : Statement} (hMem : statement ∈ work.statements) :=
    (hWork statement hMem).outputs_have
  have hRow {record : Record} (hRecord : Record.NamesHave property record) :
      (Outcome.row (some record)).NamesHave property := by
    rintro found ⟨⟩
    exact hRecord
  cases work with
  | rows statement =>
      exact (returns_fetch (hOutputs (List.mem_singleton_self _))).bind fun records hRecords =>
        Transaction.returns_pure hRecords
  | first statement =>
      refine (returns_fetch (hOutputs (List.mem_singleton_self _))).bind fun records hRecords => ?_
      refine (Transaction.returns_any _).bind fun _ _ => Transaction.returns_pure ?_
      exact fun found hFound => hRecords found (List.mem_of_mem_head? hFound)
  | only statement =>
      exact (returns_fetchOnly (hOutputs (List.mem_singleton_self _))).bind fun record hRecord =>
        Transaction.returns_pure (hRow hRecord)
  | number statement =>
      exact (Transaction.returns_any _).bind fun _ _ => Transaction.returns_pure trivial
  | upsert lookup change insertion =>
      have hLookup := hOutputs (show lookup ∈ _ by simp [statements])
      refine (returns_fetch hLookup).bind fun records hRecords => ?_
      split
      · rename_i record hFound
        exact Transaction.returns_pure (hRow (hRecords record (List.mem_of_mem_head? hFound)))
      · exact (returns_fetchOnly (hOutputs (by simp [statements]))).bind fun record hRecord =>
          Transaction.returns_pure (hRow hRecord)
      · exact (returns_fetchOnly (hOutputs (by simp [statements]))).bind fun record hRecord =>
          Transaction.returns_pure (hRow hRecord)

/-- **The fields of rows** have names that the statements of the work use. -/
theorem namesHave_of_run {now : Int} {store after : Store} {barred : Option StoreError}
    {work : Work} (hWork : ∀ statement ∈ work.statements, statement.NamesHave property)
    {outcome : Outcome} (hRun : (work.run now store barred).2 = .ok (outcome, after)) :
    outcome.NamesHave property := by
  rw [run] at hRun
  rcases hPerform : (work.perform now).run.run ⟨store, barred, []⟩ with ⟨_ | result, connection⟩
  · rw [hPerform] at hRun
    cases hRun
  · rw [hPerform] at hRun
    cases hRun
    exact returns_perform now hWork _ _ _ hPerform

end Work

/-- **An outcome is not taken for an envelope** if its rows do not have such fields. -/
theorem Outcome.toJson_ne_envelope {outcome : Outcome}
    (hNames : outcome.NamesHave (· ≠ "isError")) (kind : ErrorKind) (message : String) :
    outcome.toJson ≠ kind.envelope message := by
  intro hSame
  match outcome with
  | .rows records => cases hSame
  | .row none => cases hSame
  | .number n => cases hSame
  | .row (some record) =>
      have hRecord : record =
          [("isError", .bool true), ("kind", .text kind.name), ("message", .text message)] :=
        Json.object.inj hSame
      refine hNames record rfl "isError" ?_ rfl
      rw [hRecord]
      exact List.mem_cons_self

end ModelStore
