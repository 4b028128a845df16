import ModelStore.Proofs.Operation.Integrity
import ModelStore.Proofs.Operation.Turns
import ModelStore.Proofs.Operation.UpsertCorrect

/-!
# Upserts that race

Any number of calls want a user of one email to be there.  Each looks for the user under the email,
changes something else about it, or inserts it with the email.  They share one session, and any of
them may have any turn.

What is decided is decided under the lock, in the transaction of the work, and not while a call is
prepared.  So whichever comes first inserts the user, if there was none, and all others find it;
that the email is a number or a truth value for some of them changes nothing, since it is compared
as the column keeps it.

## Main definitions

* `byEmail`: the condition that the email of a user is a value.
* `UpsertOptions.Registers`: upserts of a user of an email.
* `registered`: the number of users of an email.

## Main results

* `registered_le_one`: there is at most one user of an email.
* `Upsert.Registers.of_run`: what the work of one such upsert comes to.
* `Shared.one_user_registered`: what any number of them comes to, whatever the order of their turns.
-/

namespace ModelStore

open BuiltIn (usersTable)

/-! ## Users of an email -/

/-- The condition that the email of a user is a value. -/
def byEmail (email : Json) : Conditions := [("email", .equals email)]

/-- The number of users of an email. -/
def registered (email : Json) (stored : StoredTable) : Nat :=
  stored.rows.countP fun row => decide ((byEmail email).Holds usersTable row)

/-- The column of emails. -/
def emailColumn : Column := ((Column.plain "email" .text).notNull).asUnique

theorem emailColumn_mem : emailColumn ∈ usersTable.columns := by decide

theorem emailColumn_place : usersTable.columns[2]? = some emailColumn := by decide

theorem emailColumn_found : usersTable.column? "email" = some emailColumn := by decide

section Emails

variable {email : Json} (hScalar : email.isCompound = false) (hValue : email.isNull = false)

include hScalar hValue

/-- A value that is no list, no object and no null is kept as a text in a column of text. -/
theorem exists_text_of_scalar :
    email.bound ≠ .null ∧ ∃ s, Affinity.text.store email.bound = .text s := by
  cases email with
  | null => cases hValue
  | bool b => exact ⟨Cell.noConfusion, _, rfl⟩
  | int i =>
      have hBound : (Json.int i).bound =
          if Affinity.fitsCell i then .int i else .real (Binary64.ofInt i) := rfl
      rw [hBound]
      split
      · exact ⟨Cell.noConfusion, _, rfl⟩
      · exact ⟨Cell.noConfusion, _, rfl⟩
  | real x => exact ⟨Cell.noConfusion, _, rfl⟩
  | text s => exact ⟨Cell.noConfusion, s, rfl⟩
  | list items | object fields => cases hScalar

variable {stored : StoredTable} (hHolds : stored.Holds usersTable)

include hHolds

/-- **Emails**: a user satisfies the condition just if the email is the value, as the column keeps
it. -/
theorem holds_byEmail_iff {row : StoredRow} (hRow : row ∈ stored.rows)
    (hPlain : (usersTable.cell row "email").IsPlain) :
    (byEmail email).Holds usersTable row ↔
      usersTable.cell row "email" = Affinity.text.store email.bound := by
  obtain ⟨hSolid, s, hText⟩ := exists_text_of_scalar hScalar hValue
  obtain ⟨hCell, hKeeps⟩ := hHolds.value_of_column? hRow emailColumn_found
  have hRelates : (byEmail email).Holds usersTable row ↔
      Relates .eq (usersTable.value row "email") email.bound := by
    rw [Conditions.Holds, byEmail, List.forall_mem_singleton, Condition.Holds, IsOperand, hValue]
    rfl
  rw [hRelates, hCell, Relates, hText,
    show Affinity.operand emailColumn.type.affinity email.bound = .text s from hText]
  rcases hPlain.text_of_keeps hKeeps with hNull | ⟨t, hSome⟩
  · rw [hNull]
    simp
  · rw [hSome]
    have hOrder : Sql.Comparison.eq.holds (Cell.order (.text t) (.text s)) = true ↔ t = s := by
      rw [Sql.Comparison.holds, beq_iff_eq]
      change compare t s = .eq ↔ t = s
      exact Std.LawfulEqCmp.compare_eq_iff_eq
    rw [hOrder, Cell.text.injEq]
    exact ⟨fun hAll => hAll.2.2, fun hSame => ⟨Cell.noConfusion, hSolid, hSame⟩⟩

/-- There is at most one user of an email. -/
theorem registered_le_one (hIntact : usersTable.Intact stored.rows)
    (hPlain : usersTable.Contains (fun _ cell => cell.IsPlain) stored.rows) :
    registered email stored ≤ 1 := by
  obtain ⟨-, s, hText⟩ := exists_text_of_scalar hScalar hValue
  have hApart := hIntact.distinct emailColumn emailColumn_mem (.inr rfl)
  have hFiltered := hApart.filter fun row => decide ((byEmail email).Holds usersTable row)
  rw [registered, List.countP_eq_length_filter]
  rcases hRows : stored.rows.filter fun row => decide ((byEmail email).Holds usersTable row) with
    _ | ⟨a, _ | ⟨b, others⟩⟩
  · simp
  · simp
  · -- Two users of the email would have it in common.
    have hEmail : ∀ row ∈ [a, b], usersTable.cell row "email" = .text s := by
      intro row hMem
      have hListed : row ∈ a :: b :: others := List.mem_of_mem_take (i := 2) hMem
      rw [← hRows] at hListed
      obtain ⟨hRow, hHas⟩ := List.mem_filter.mp hListed
      rw [← hText]
      exact (holds_byEmail_iff hScalar hValue hHolds hRow (hPlain row hRow _ emailColumn_mem)).mp
        (of_decide_eq_true hHas)
    rw [hRows] at hFiltered
    have hPair := (List.pairwise_cons.mp hFiltered).1 b List.mem_cons_self
    have hNot := hPair.ne (by rw [show emailColumn.name = "email" from rfl, hEmail a (by simp)]; simp)
    exact absurd ((hEmail a (by simp)).trans (hEmail b (by simp)).symm) hNot

end Emails

/-! ## Upserts of a user of an email -/

/-- An upsert that looks for a user under an email, inserts it with the email, and otherwise leaves
emails alone. -/
structure UpsertOptions.Registers (options : UpsertOptions) (email : Json) : Prop where
  filter : options.filter = some (byEmail email)
  update : ∀ entry ∈ options.update, entry.1 ≠ "email"
  create : options.create.get? "email" = some email

/-- The same of an upsert that has been compiled. -/
structure Upsert.Registers (upsert : Upsert usersTable) (email : Json) : Prop where
  conditions : upsert.conditions = byEmail email
  update : ∀ entry ∈ upsert.update, entry.1 ≠ "email"
  created : upsert.created.given? "email" = some email.bound

theorem registers_of_prepareUpsert {options : UpsertOptions} {email : Json}
    (hRegisters : options.Registers email) {ids : Nat → String} {work : Work}
    (hPrepared : Operation.prepareUpsert usersTable ids options = .ok work) :
    ∃ upsert : Upsert usersTable, work = upsert.work ∧ upsert.Registers email := by
  obtain ⟨upsert, values, hWork, hFilter, hUpdate, hValues, hCreated⟩ :=
    exists_of_prepareUpsert hPrepared
  refine ⟨upsert, hWork, Option.some.inj (hFilter.symm.trans hRegisters.filter),
    hUpdate ▸ hRegisters.update, ?_⟩
  rw [hCreated]
  exact Table.given?_created hValues hRegisters.create

/-! ## What one upsert comes to -/

/-- A store of the application that holds values of JSON only, and keeps all constraints. -/
abbrev Store.IsPlain (store : Store) : Prop := store.IsGood builtIn fun _ cell => cell.IsPlain

section One

variable {email : Json} {upsert : Upsert usersTable} (hRegisters : upsert.Registers email)
  {stored : StoredTable} (hHolds : stored.Holds usersTable)

include hRegisters

/-- A user that is changed keeps the email. -/
theorem Upsert.Registers.email_of_patched {before after : StoredRow}
    (hPatched : usersTable.Patched upsert.update before after) :
    usersTable.cell after "email" = usersTable.cell before "email" := by
  have hCell := hPatched emailColumn emailColumn_mem
  have hNone : upsert.update.reverse.lookup "email" = none :=
    List.lookup_eq_none_iff.mpr fun entry hEntry =>
      bne_iff_ne.mpr (hRegisters.update entry (List.mem_reverse.mp hEntry)).symm
  rw [show emailColumn.name = "email" from rfl, hNone] at hCell
  exact hCell

include hHolds

/-- The user that is inserted has the email. -/
theorem Upsert.Registers.email_of_insert {now : Int} {row : StoredRow} {after : StoredTable}
    (hInsert : stored.insert now (stored.slotsOf upsert.created) = .ok (row, after)) :
    usersTable.cell row "email" = Affinity.text.store email.bound := by
  have hKey : stored.rowId = none := hHolds.rowId_eq
  have hCell := hHolds.cell_of_insert upsert.created_within hInsert emailColumn_place
  rw [hKey, if_neg nofun, show emailColumn.name = "email" from rfl, hRegisters.created] at hCell
  exact hCell

end One

section Run

variable {email : Json} (hScalar : email.isCompound = false) (hValue : email.isNull = false)
  {store left : Store} {stored : StoredTable}

include hScalar hValue

/-- A user satisfies the condition just if the email stands in the row. -/
theorem Store.IsPlain.holds_byEmail_iff (hStore : store.IsPlain)
    (hFound : store.table? usersTable.name = some stored) {row : StoredRow}
    (hRow : row ∈ stored.rows) :
    (byEmail email).Holds usersTable row ↔
      usersTable.cell row "email" = Affinity.text.store email.bound :=
  have hHolds : stored.Holds (builtIn.table .users) := hStore.holds.of_table? hFound
  ModelStore.holds_byEmail_iff hScalar hValue hHolds hRow
    (hStore.contains .users stored hFound row hRow _ emailColumn_mem)

/-- The users of an email are those in whose rows it stands. -/
theorem Store.IsPlain.registered_eq (hStore : store.IsPlain)
    (hFound : store.table? usersTable.name = some stored) :
    registered email stored = stored.rows.countP fun row =>
      decide (usersTable.cell row "email" = Affinity.text.store email.bound) :=
  List.countP_congr fun row hRow => by
    rw [decide_eq_true_iff, decide_eq_true_iff,
      hStore.holds_byEmail_iff hScalar hValue hFound hRow]

variable {upsert : Upsert usersTable} (hRegisters : upsert.Registers email)
  (hStore : store.IsPlain) (hFound : store.table? usersTable.name = some stored)
  (hLeft : left.IsPlain)

include hRegisters hStore hFound hLeft

/-- Where there is no user of the email, one is added. -/
theorem Upsert.Registers.of_insert {now : Int} {row : StoredRow} {after : StoredTable}
    (hNone : ∀ old ∈ stored.rows, ¬(byEmail email).Holds usersTable old)
    (hInsert : stored.insert now (stored.slotsOf upsert.created) = .ok (row, after))
    (hPut : left = store.put after) :
    left.table? usersTable.name = some after ∧ 0 < registered email after ∧
      after.rows.length + registered email stored =
        stored.rows.length + registered email after := by
  have hHolds : stored.Holds (builtIn.table .users) := hStore.holds.of_table? hFound
  have hEmail := hRegisters.email_of_insert hHolds hInsert
  have hAfter : left.table? usersTable.name = some after := by
    rw [hPut]
    exact Store.table?_put_self hFound (StoredTable.name_of_insert hInsert)
  obtain ⟨_, -, -, -, hRows⟩ := StoredTable.insert_eq_ok.mp hInsert
  have hPerm : after.rows.Perm (row :: stored.rows) := by
    rw [hRows]
    exact StoredTable.place_perm row stored.rows
  have hOld : registered email stored = 0 :=
    List.countP_eq_zero.mpr fun old hMem => by simpa using hNone old hMem
  have hNew : registered email after = registered email stored + 1 := by
    rw [hLeft.registered_eq hScalar hValue hAfter, hStore.registered_eq hScalar hValue hFound,
      hPerm.countP_eq]
    exact List.countP_cons_of_pos (decide_eq_true hEmail)
  have hLength : after.rows.length = stored.rows.length + 1 := hPerm.length_eq
  refine ⟨hAfter, ?_, ?_⟩ <;> omega

/-- The users of the email are changed, keep it, and none is added to them. -/
theorem Upsert.Registers.of_change {rows made : List StoredRow}
    (hPut : left = store.put { stored with rows := rows })
    (hMade : List.Forall₂ (usersTable.Patched upsert.update)
      (stored.rows.filter fun old => decide ((byEmail email).Holds usersTable old)) made)
    (hPerm : rows.Perm
      (made ++ stored.rows.filter fun old => decide (¬(byEmail email).Holds usersTable old))) :
    left.table? usersTable.name = some { stored with rows := rows } ∧
      registered email { stored with rows := rows } = registered email stored ∧
      ∀ row ∈ made, usersTable.cell row "email" = Affinity.text.store email.bound := by
  have hAfter : left.table? usersTable.name = some { stored with rows := rows } := by
    rw [hPut]
    exact Store.table?_put_self hFound rfl
  have hEmails : ∀ row ∈ made, usersTable.cell row "email" = Affinity.text.store email.bound := by
    intro row hRow
    obtain ⟨old, hOld, hPatched⟩ := StoredTable.exists_left_of_forall₂ hMade hRow
    obtain ⟨hMem, hHas⟩ := List.mem_filter.mp hOld
    rw [hRegisters.email_of_patched hPatched]
    exact (hStore.holds_byEmail_iff hScalar hValue hFound hMem).mp (of_decide_eq_true hHas)
  have hOthers : ∀ row ∈ stored.rows.filter fun old =>
      decide (¬(byEmail email).Holds usersTable old),
      ¬usersTable.cell row "email" = Affinity.text.store email.bound := by
    intro row hRow hEmail
    obtain ⟨hMem, hNot⟩ := List.mem_filter.mp hRow
    exact of_decide_eq_true hNot
      ((hStore.holds_byEmail_iff hScalar hValue hFound hMem).mpr hEmail)
  refine ⟨hAfter, ?_, hEmails⟩
  rw [hLeft.registered_eq hScalar hValue hAfter, hPerm.countP_eq, List.countP_append,
    List.countP_eq_length.mpr fun row hRow => decide_eq_true (hEmails row hRow),
    List.countP_eq_zero.mpr fun row hRow => by simpa using hOthers row hRow, ← hMade.length_eq,
    registered, List.countP_eq_length_filter]
  rfl

/-- **One upsert**: if it succeeds, there is a user of the email, and it returns one; and it has
added a user just if there was none of the email. -/
theorem Upsert.Registers.of_run {now : Int} {barred : Option StoreError} {outcome : Outcome}
    (hRun : (upsert.work.run now store barred).2 = .ok (outcome, left)) :
    ∃ row after, outcome = .row (some (usersTable.record row)) ∧
      usersTable.cell row "email" = Affinity.text.store email.bound ∧
      left.table? usersTable.name = some after ∧ 0 < registered email after ∧
      after.rows.length + registered email stored =
        stored.rows.length + registered email after := by
  have hHolds : stored.Holds (builtIn.table .users) := hStore.holds.of_table? hFound
  by_cases hSome : ∃ old ∈ stored.rows, (byEmail email).Holds usersTable old
  · obtain ⟨row, hOutcome, hDone⟩ := upsert.upserted_of_run hHolds hFound
      (hStore.sound.of_table? hFound) hRun
    rw [hRegisters.conditions] at hDone
    have hOld : 0 < registered email stored := by
      obtain ⟨old, hMem, hHas⟩ := hSome
      exact List.countP_pos_iff.mpr ⟨old, hMem, decide_eq_true hHas⟩
    by_cases hUpdate : upsert.update = []
    · obtain ⟨rfl, hRow, hHas⟩ := hDone.found hSome hUpdate
      have hEmail := (hStore.holds_byEmail_iff hScalar hValue hFound hRow).mp hHas
      exact ⟨row, stored, hOutcome, hEmail, hFound, hOld, rfl⟩
    · obtain ⟨rows, made, hPut, hMade, hPerm, hLength, hRow⟩ := hDone.changed hSome hUpdate
      obtain ⟨hAfter, hSame, hEmails⟩ :=
        hRegisters.of_change hScalar hValue hStore hFound hLeft hPut hMade hPerm
      refine ⟨row, _, hOutcome, hEmails row hRow, hAfter, hSame ▸ hOld, ?_⟩
      rw [hSame]
      exact congrArg (· + _) hLength
  · have hNone : ∀ old ∈ stored.rows, ¬(byEmail email).Holds usersTable old :=
      fun old hOld hHas => hSome ⟨old, hOld, hHas⟩
    rcases upsert.run_of_none hHolds hFound (hRegisters.conditions ▸ hNone) with
      hInsertion | ⟨-, refusal, hRefused⟩
    · obtain ⟨row, after, hOutcome, hInsert, hPut⟩ :=
        Upsert.exists_insert_of_onlyRow hHolds hFound (hInsertion.symm.trans hRun)
      exact ⟨row, after, hOutcome, hRegisters.email_of_insert hHolds hInsert,
        hRegisters.of_insert hScalar hValue hStore hFound hLeft hNone hInsert hPut⟩
    · cases hRefused.symm.trans hRun

end Run

/-! ## Any number of upserts -/

/-- What is offered to the tables of the application is always a value of JSON. -/
theorem Operation.Sends.keeps_isPlain {key : BuiltIn} {operation : Operation} {ids : Nat → String}
    {statement : Statement} (hSends : operation.Sends (builtIn.table key) ids statement) :
    statement.Keeps Store.IsPlain :=
  hSends.keeps builtIn_distinct (provides_isPlain _)
    fun _ _ entry _ _ _ => (isPlain_bound entry.2).store _

namespace Shared

variable {κ : Type}

/-- What holds all along of a session that began with some users, while calls race for one of an
email. -/
structure Racing (email : Json) (start : StoredTable) (shared : Shared κ) : Prop where
  plain : shared.session.store.IsPlain
  /-- Work that is prepared registers the user. -/
  prepared : ∀ call work, shared.errand call = .prepared work →
    (∀ statement ∈ work.statements, statement.Keeps Store.IsPlain) ∧
      ∃ upsert : Upsert usersTable, work = upsert.work ∧ upsert.Registers email
  /-- Users come to the table just as they come to be registered. -/
  growth : ∀ stored, shared.session.store.table? usersTable.name = some stored →
    stored.rows.length + registered email start = start.rows.length + registered email stored
  /-- A call that has succeeded has returned a user of the email, and there is one. -/
  answered : ∀ call outcome, shared.errand call = .done (.ok outcome) →
    (∀ stored, shared.session.store.table? usersTable.name = some stored →
      0 < registered email stored) ∧
    ∃ row, outcome = .row (some (usersTable.record row)) ∧
      usersTable.cell row "email" = Affinity.text.store email.bound

variable [DecidableEq κ] {email : Json} {start : StoredTable} {calls : κ → UpsertOptions}
  {shared : Shared κ}

/-- A turn in which the store stays as it is keeps what holds all along, if its errand is in
order. -/
theorem Racing.of_record (hRacing : shared.Racing email start) {call : κ} {errand : Errand}
    {session : Session} (hStore : session.store = shared.session.store)
    (hPrepared : ∀ work, errand = .prepared work →
      (∀ statement ∈ work.statements, statement.Keeps Store.IsPlain) ∧
        ∃ upsert : Upsert usersTable, work = upsert.work ∧ upsert.Registers email)
    (hDone : ∀ outcome, errand ≠ .done (.ok outcome)) :
    (shared.record call errand session).Racing email start where
  plain := hStore ▸ hRacing.plain
  prepared := fun other work hOther => by
    by_cases hSame : other = call
    · subst hSame
      exact hPrepared work (errand_record_self.symm.trans hOther)
    · rw [errand_record_of_ne hSame] at hOther
      exact hRacing.prepared other work hOther
  growth := fun stored hFound => hRacing.growth stored (hStore ▸ hFound)
  answered := fun other outcome hOther => by
    by_cases hSame : other = call
    · subst hSame
      exact absurd (errand_record_self.symm.trans hOther) (hDone outcome)
    · rw [errand_record_of_ne hSame] at hOther
      obtain ⟨hThere, hRow⟩ := hRacing.answered other outcome hOther
      exact ⟨fun stored hFound => hThere stored (hStore ▸ hFound), hRow⟩

/-- A turn in which an upsert succeeds keeps what holds all along. -/
theorem Racing.of_success (hScalar : email.isCompound = false) (hValue : email.isNull = false)
    (hRacing : shared.Racing email start) {upsert : Upsert usersTable}
    (hRegisters : upsert.Registers email) {world : World} {call : κ} {outcome : Outcome}
    {session : Session} (hLeft : session.store.IsPlain)
    (hRun : (upsert.work.run world.now shared.session.store shared.session.barred).2 =
      .ok (outcome, session.store)) :
    (shared.record call (.done (.ok outcome)) session).Racing email start := by
  obtain ⟨stored, hFound, -⟩ := hRacing.plain.holds .users
  obtain ⟨row, after, hOutcome, hEmail, hAfter, hThere, hCount⟩ :=
    hRegisters.of_run hScalar hValue hRacing.plain hFound hLeft hRun
  have hGrowth := hRacing.growth stored hFound
  have hOnly : ∀ other, session.store.table? usersTable.name = some other → other = after :=
    fun other hOther => Option.some.inj (hOther.symm.trans hAfter)
  refine ⟨hLeft, fun other work hOther => ?_, fun other hOther => ?_, fun other result hOther => ?_⟩
  · by_cases hSame : other = call
    · subst hSame
      cases errand_record_self.symm.trans hOther
    · rw [errand_record_of_ne hSame] at hOther
      exact hRacing.prepared other work hOther
  · rw [hOnly other hOther]
    omega
  · refine ⟨fun last hLast => hOnly last hLast ▸ hThere, ?_⟩
    by_cases hSame : other = call
    · subst hSame
      cases errand_record_self.symm.trans hOther
      exact ⟨row, hOutcome, hEmail⟩
    · rw [errand_record_of_ne hSame] at hOther
      exact (hRacing.answered other result hOther).2

/-- **One turn** keeps what holds all along, whoever takes it. -/
theorem Racing.advance (hScalar : email.isCompound = false) (hValue : email.isNull = false)
    (hCalls : ∀ call, (calls call).Registers email) (hRacing : shared.Racing email start)
    (world : World) (call : κ) :
    (shared.advance builtIn (fun call => (.users, .upsert (calls call))) world call).Racing email
      start := by
  cases hErrand : shared.errand call with
  | asked =>
      rcases hTurn : shared.session.prepareTurn builtIn world .users (.upsert (calls call)) with
        ⟨e | work, between⟩
      · have hStore : between.store = shared.session.store := congrArg (·.2.store) hTurn.symm
        rw [advance_of_refused hErrand hTurn]
        exact hRacing.of_record hStore (fun _ hWork => by cases hWork) nofun
      · have hStore : between.store = shared.session.store := congrArg (·.2.store) hTurn.symm
        rw [advance_of_asked hErrand hTurn]
        refine hRacing.of_record hStore (fun _ hWork => ?_) nofun
        obtain rfl := Errand.prepared.inj hWork
        have hYields := Session.yields_of_prepareTurn (congrArg Prod.fst hTurn)
        exact ⟨fun statement hMem => (sends_of_prepare hYields statement hMem).keeps_isPlain,
          registers_of_prepareUpsert (hCalls call) hYields.of_liftExcept⟩
  | prepared work =>
      obtain ⟨hKeeps, upsert, rfl, hRegisters⟩ := hRacing.prepared call work hErrand
      have hTurn := Session.workTurn_eq world shared.session upsert.work
      rw [advance_of_prepared hErrand]
      rcases hRun : (upsert.work.run world.now shared.session.store shared.session.barred).2 with
        e | ⟨outcome, left⟩
      · rw [hRun] at hTurn
        obtain ⟨hResult, hStore⟩ := Prod.mk.inj hTurn
        rw [hResult]
        exact hRacing.of_record hStore (fun _ hWork => by cases hWork) nofun
      · have hLeft := Work.keeps_run hKeeps hRacing.plain hRun
        rw [hRun] at hTurn
        obtain ⟨hResult, hStore⟩ := Prod.mk.inj hTurn
        rw [hResult]
        rw [← hStore] at hRun hLeft
        exact hRacing.of_success hScalar hValue hRegisters hLeft hRun
  | done result =>
      rw [advance_of_done hErrand]
      exact hRacing

/-- **Races**: whatever the order of the turns that any number of calls take, each of which is to
register a user of one email, the table gains at most one row; and as soon as one of the calls has
succeeded, there is exactly one user of the email.  Every call that succeeds returns a user of the
email. -/
theorem one_user_registered {session : Session} (hReachable : builtIn.Reachable session.store)
    (hScalar : email.isCompound = false) (hValue : email.isNull = false)
    (hCalls : ∀ call, (calls call).Registers email) (turns : List (World × κ)) :
    ∃ before after, session.store.table? usersTable.name = some before ∧
      ((Shared.start session).after builtIn (fun call => (.users, .upsert (calls call)))
        turns).session.store.table? usersTable.name = some after ∧
      after.rows.length ≤ before.rows.length + 1 ∧
      ∀ call outcome,
        ((Shared.start session).after builtIn (fun call => (.users, .upsert (calls call)))
          turns).errand call = .done (.ok outcome) →
        registered email after = 1 ∧
          ∃ row, outcome = .row (some (usersTable.record row)) ∧
            usersTable.cell row "email" = Affinity.text.store email.bound := by
  have hPlain : session.store.IsPlain :=
    ⟨hReachable.holds builtIn_distinct, hReachable.sound, hReachable.contains builtIn_distinct
      (fun key => provides_isPlain (builtIn.table key))
      fun _ _ _ _ _ entry _ _ _ => (isPlain_bound entry.2).store _⟩
  obtain ⟨before, hBefore, -⟩ := hPlain.holds .users
  have hStart : (Shared.start session : Shared κ).Racing email before := by
    refine ⟨hPlain, fun _ _ hWork => (by cases hWork), fun stored hStored => ?_,
      fun _ _ hDone => (by cases hDone)⟩
    rw [Option.some.inj (hStored.symm.trans hBefore)]
  have hRacing := after_keeps (P := Racing email before)
    (fun _ world call hRacing => hRacing.advance hScalar hValue hCalls world call) turns hStart
  obtain ⟨after, hAfter, hHolds⟩ := hRacing.plain.holds .users
  have hContains := hRacing.plain.contains .users after hAfter
  have hIntact : usersTable.Intact after.rows :=
    Table.intact_of_sound hHolds (hRacing.plain.sound.of_table? hAfter) (by decide) hContains
  have hMost := registered_le_one hScalar hValue hHolds hIntact hContains
  have hGrowth := hRacing.growth after hAfter
  refine ⟨before, after, hBefore, hAfter, by omega, fun call outcome hDone => ?_⟩
  obtain ⟨hThere, hRow⟩ := hRacing.answered call outcome hDone
  have hLeast := hThere after hAfter
  exact ⟨by omega, hRow⟩

/-- Two calls for a user whose email is given as a number; only the second one has something to
change. -/
def rivalUpserts (second : Bool) : UpsertOptions :=
  { filter := some (byEmail (.int 7))
    update := if second then [("name", .text "Bob")] else []
    create := [("name", .text "Ada"), ("email", .int 7)] }

/-- Both calls are prepared before any work is done, and the second one works first. -/
def crossedTurns : List (World × Bool) :=
  [(deskWorld, false), (deskWorld, true), (deskWorld, true), (deskWorld, false)]

/-- A session on the tables of the application, without rows. -/
def emptySession : Session := .start emptyDesk none .deny

/-- The two calls after their turns. -/
def crossed : Shared Bool :=
  (Shared.start emptySession).after builtIn (fun call => (.users, .upsert (rivalUpserts call)))
    crossedTurns

/-- Both calls succeed. -/
theorem crossed_done (call : Bool) : ∃ outcome, crossed.errand call = .done (.ok outcome) := by
  have hTest : (match crossed.errand call with
      | .done (.ok _) => true
      | _ => false) = true := by
    revert call
    decide +kernel
  split at hTest
  · rename_i outcome hOutcome
    exact ⟨outcome, hOutcome⟩
  · cases hTest

/-- The two calls register one user in a store without any, and both return it. -/
theorem one_user_registered_crossedTurns :
    ∃ after, crossed.session.store.table? "users" = some after ∧ after.rows.length ≤ 1 ∧
      registered (.int 7) after = 1 ∧
      ∀ call, ∃ row, crossed.errand call = .done (.ok (.row (some (usersTable.record row)))) ∧
        usersTable.cell row "email" = .text "7" := by
  have hReachable : builtIn.Reachable emptySession.store := .created bootstrap_builtIn
  have hCalls : ∀ call, (rivalUpserts call).Registers (.int 7) := fun call =>
    ⟨rfl, by cases call <;> decide, rfl⟩
  have hRace := one_user_registered hReachable rfl rfl hCalls crossedTurns
  rw [← crossed] at hRace
  obtain ⟨before, after, hBefore, hAfter, hMost, hEach⟩ := hRace
  have hEmpty : before.rows = [] := by
    rw [← Option.some.inj (hBefore : some { storedUsers with rows := [] } = some before)]
  rw [hEmpty] at hMost
  obtain ⟨first, hFirst⟩ := crossed_done false
  refine ⟨after, hAfter, hMost, (hEach false first hFirst).1, fun call => ?_⟩
  obtain ⟨outcome, hOutcome⟩ := crossed_done call
  obtain ⟨-, row, rfl, hEmail⟩ := hEach call outcome hOutcome
  exact ⟨row, hOutcome, hEmail⟩

end Shared

end ModelStore
