import ModelStore.Proofs.Operation.Written
import ModelStore.Proofs.Query.Encoding
import ModelStore.Proofs.Query.Keys
import ModelStore.Proofs.Query.Reports

/-!
# What the searches report

Work on the store reports nothing: all that an operation reports, it reports while it is prepared.
So a search reports the unknown relations that it asks for, in the order of the caller and going
down into each relation before the next, if it has a plan; what comes of the plan makes no
difference.  A search without a plan has reported what stands in front of its first fault, and sends
nothing.

An include may be read from a flag, from options or from null, which is a flag that is not set.

## Main results

* `Session.events_perform`: what is reported while an operation is prepared.
* `Session.search_reports`: what the searches report, and what their plans join.
-/

namespace ModelStore

/-! ## Includes that are read -/

/-- Includes are read one by one: a flag is read as it is set, and null as one that is not. -/
theorem forall₂_includesOfFields {fields : Fields Json} {includes : Includes}
    (hRead : includesOfFields fields = .ok includes) :
    List.Forall₂ (fun field entry => entry.1 = field.1 ∧
      (field.2 = .null → entry.2 = .flag false) ∧
      ∀ value, field.2 = .bool value → entry.2 = .flag value) fields includes := by
  rw [includesOfFields, includesAt_succ] at hRead
  refine forall₂_of_mapM (fun field _ entry hEntry => ?_) hRead
  obtain ⟨name, value⟩ := field
  obtain ⟨ask, hAsk, hPure⟩ := bind_eq_ok.mp hEntry
  rw [← pure_eq_ok.mp hPure]
  refine ⟨rfl, ?_, ?_⟩
  · rintro rfl
    exact (Except.ok.inj hAsk).symm
  · rintro value rfl
    exact (Except.ok.inj hAsk).symm

/-! ## Work -/

/-- Work reports nothing. -/
theorem Work.eventsOf_run (now : Int) (store : Store) (barred : Option StoreError) (work : Work) :
    Note.eventsOf (work.run now store barred).1 = [] := by
  have hNote : ∀ {notes : List Note} {n : Note}, Note.eventsOf notes = [] → n.event? = none →
      Note.eventsOf (notes ++ [n]) = [] := by
    intro notes n hNotes hNone
    rw [Note.eventsOf] at hNotes ⊢
    rw [List.filterMap_append, hNotes, List.nil_append, List.filterMap_cons_none hNone]
    rfl
  have hPreserves : (work.perform now).Preserves fun connection =>
      Note.eventsOf connection.notes = [] := by
    refine Work.preserves_perform (fun statement _ connection hBefore => ?_)
      fun connection table rows hBefore => hNote hBefore rfl
    rw [run_send]
    split <;> exact hNote hBefore rfl
  exact hPreserves ⟨store, barred, []⟩ rfl

/-! ## Operations -/

namespace Session

variable {ι : Type}

section Operations

variable {schema : Schema ι} {world : World} {session : Session} {key : ι}

/-- An operation reports what is reported while it is prepared. -/
theorem events_perform {operation : Operation} {result : Except Error Work} {events : List Event}
    (hPrepared : (operation.prepare schema key session.policy
      fun k => world.freshId (session.issued + k)).run.run [] = (result, events)) :
    (session.perform schema world key operation).2.events = session.events ++ events := by
  have hReported : Note.eventsOf (session.history ++ events.map .reported) =
      session.events ++ events := by
    rw [Note.eventsOf, List.filterMap_append, List.filterMap_map]
    exact congrArg (session.events ++ ·) (List.filterMap_some)
  rw [perform, hPrepared]
  cases result with
  | error e => exact hReported
  | ok work =>
      have hWork := Work.eventsOf_run world.now session.store session.barred work
      dsimp only [remember]
      rcases hRun : work.run world.now session.store session.barred with
        ⟨notes, _ | ⟨outcome, left⟩⟩
      all_goals
        rw [hRun] at hWork
        change Note.eventsOf (session.history ++ events.map .reported ++ notes) = _
        rw [Note.eventsOf, List.filterMap_append, ← Note.eventsOf, ← Note.eventsOf, hReported,
          hWork, List.append_nil]

/-- A search is prepared by building its plan. -/
theorem exists_prepare_search {options : FindOptions} {operation : Operation}
    (hOperation : operation ∈ options.operations) (policy : BulkPolicy) (ids : Nat → String)
    {result : Except Error Plan} {events : List Event}
    (hBuilt : (Plan.build schema key options).run.run [] = (result, events)) :
    ∃ make : Plan → Work, (operation.prepare schema key policy ids).run.run [] =
      (result.map make, events) := by
  rcases List.mem_pair.mp hOperation with rfl | rfl
  · refine ⟨fun plan => .rows (.find plan), ?_⟩
    rw [Operation.prepare, Reporting.run_bind, hBuilt]
    cases result <;> rfl
  · refine ⟨fun plan => .first (.find (plan.withWindow ⟨some 1, options.own.skip⟩)), ?_⟩
    rw [Operation.prepare, Reporting.run_bind, hBuilt]
    cases result <;> rfl

end Operations

/-- **Reports**: a search for all rows or for the first one goes through the same remarks, for every
table of any tables, on any store.

If it has a plan, the plan joins the relations that are asked for and known, in the order of the
caller at every level, and what is reported is one unknown relation after another, with the table
that it was asked of.  These are all remarks that there are.  If it has none, it fails with the
first fault among its remarks, has reported those in front of it, and sends nothing.

Where includes are read, null is a flag that is not set, and such a flag is no request. -/
theorem search_reports (schema : Schema ι) (world : World) (session : Session) (key : ι)
    (options : FindOptions) :
    (∀ operation ∈ options.operations,
      (∃ plan, (Plan.build schema key options).run.run [] =
          (.ok plan, Request.events (options.requests schema key)) ∧
        plan.requests = Request.joined (options.requests schema key) ∧
        options.remarks schema key =
          (Request.events (options.requests schema key)).map .reported ∧
        (session.perform schema world key operation).2.events =
          session.events ++ Request.events (options.requests schema key)) ∨
      ∃ e done rest, options.remarks schema key = done.map .reported ++ .fault e :: rest ∧
        (session.perform schema world key operation).1 = .error e ∧
        (session.perform schema world key operation).2.events = session.events ++ done ∧
        session.sentSince (session.perform schema world key operation).2 = []) ∧
    ∀ fields includes, includesOfFields fields = .ok includes →
      List.Forall₂ (fun field entry => entry.1 = field.1 ∧
        (field.2 = .null → entry.2 = .flag false) ∧
        ∀ value, field.2 = .bool value → entry.2 = .flag value) fields includes := by
  refine ⟨fun operation hOperation => ?_, fun fields includes => forall₂_includesOfFields⟩
  rcases tells_build key options [] with
    ⟨plan, hBuilt, hJoins, hRemarks⟩ | ⟨e, done, rest, hBuilt, hRemarks⟩
  · obtain ⟨make, hPrepared⟩ := exists_prepare_search hOperation session.policy
      (fun k => world.freshId (session.issued + k)) hBuilt
    exact .inl ⟨plan, hBuilt, hJoins, hRemarks, events_perform hPrepared⟩
  · obtain ⟨make, hPrepared⟩ := exists_prepare_search hOperation session.policy
      (fun k => world.freshId (session.issued + k)) hBuilt
    obtain ⟨hFails, hSent⟩ := sentSince_of_prepare_error hPrepared
    exact .inr ⟨e, done, rest, hRemarks, hFails, events_perform hPrepared, hSent⟩

/-- Users are searched for with a relation that is not there, with their printers and a relation
that these do not have, and with two relations that are not wanted.  Nothing is said of what is
asked below the unknown relations. -/
def straySearch : FindOptions :=
  ⟨.empty, some
    [("ghosts", .nested { SearchOptions.empty with orderBy := some [("weight", .ascending)] } none),
      ("printers", .nested .empty
        (some [("spools", .nested .empty (some [("ghosts", .flag true)]))])),
      ("templates", .flag false), ("phantoms", .flag false)]⟩

example : Request.events (straySearch.requests builtIn .users) =
    [.unknownRelation "users" "ghosts", .unknownRelation "printers" "spools"] := by decide

end Session

end ModelStore
