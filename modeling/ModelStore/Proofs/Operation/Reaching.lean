import ModelStore.Proofs.Operation.Contents

/-!
# Stores that operations lead to

A store begins empty, with the tables of a schema.  From there operations lead to others, one after
another, on any table and in any session: whatever the policy, whether the store refuses changes,
whatever the time and the identifiers, and whether the operation succeeds or fails.

What may be asked for is a parameter, so that the same argument serves for all operations and for
those whose payloads are of some kind.

## Main definitions

* `Schema.Reaches`, `Schema.Reachable`: the stores that operations of some kind, or any, lead to.

## Main results

* `Schema.Reaches.holds`, `Schema.Reaches.sound`: such a store holds the schema and keeps the
  constraints.
* `Schema.Reaches.contains`: its columns hold what is good for them, if nothing else is put there.
-/

namespace ModelStore

variable {ι : Type}

/-- The stores that operations of some kind lead to, also where they come as the arguments of a
call. -/
inductive Schema.Reaches (schema : Schema ι) (allowed : ι → Operation → Prop) : Store → Prop where
  | created {store : Store} (hCreated : Store.bootstrap [] schema = .ok store) :
      schema.Reaches allowed store
  | performed (world : World) (key : ι) {operation : Operation} {session : Session}
      (hAllowed : allowed key operation) (hBefore : schema.Reaches allowed session.store) :
      schema.Reaches allowed (session.perform schema world key operation).2.store
  | dispatched (world : World) (key : ι) (method : Method) (args : Json) {session : Session}
      (hAllowed : ∀ operation, Operation.ofJson method args = .ok operation →
        allowed key operation) (hBefore : schema.Reaches allowed session.store) :
      schema.Reaches allowed (session.dispatch schema world key method args).2.store

/-- The stores that any operations lead to. -/
def Schema.Reachable (schema : Schema ι) (store : Store) : Prop :=
  schema.Reaches (fun _ _ => True) store

namespace Schema.Reaches

variable {schema : Schema ι} {allowed : ι → Operation → Prop} {store : Store}

/-- **Runs**: what is true of a store when it is created, and kept by every operation, is true of
every store that operations lead to. -/
theorem keeps {P : Store → Prop} (hReaches : schema.Reaches allowed store)
    (hCreated : ∀ store, Store.bootstrap [] schema = .ok store → P store)
    (hPerformed : ∀ (world : World) (key : ι) (operation : Operation) (session : Session),
      allowed key operation → P session.store →
        P (session.perform schema world key operation).2.store) : P store := by
  induction hReaches with
  | created hNew => exact hCreated _ hNew
  | performed world key hAllowed _ ih => exact hPerformed world key _ _ hAllowed ih
  | @dispatched world key method args session hAllowed _ ih =>
      cases hOperation : Operation.ofJson method args with
      | error failure =>
          rw [Session.dispatch, hOperation]
          exact ih
      | ok operation =>
          rw [Session.dispatch_of_ofJson world session hOperation]
          exact hPerformed world key operation session (hAllowed operation hOperation) ih

/-- The constraints of the tables are kept. -/
theorem sound (hReaches : schema.Reaches allowed store) : store.Sound :=
  hReaches.keeps (fun _ => Store.sound_of_bootstrap) fun world key operation _ _ hBefore =>
    Session.perform_keeps Statement.keep_sound world key operation hBefore

/-- The schema is held. -/
theorem holds (hDistinct : schema.Distinct) (hReaches : schema.Reaches allowed store) :
    store.Holds schema :=
  hReaches.keeps (fun _ => Store.holds_of_bootstrap hDistinct.keys hDistinct.names)
    fun world key operation _ _ hBefore =>
      Session.perform_keeps Statement.keep_holds world key operation hBefore

/-- **Contents**: the columns hold what is good for them, if neither the tables nor the payloads
put anything else there. -/
theorem contains (hDistinct : schema.Distinct) {good : Column → Cell → Prop}
    (hProvides : ∀ key, (schema.table key).Provides good)
    (hOffers : ∀ key operation, allowed key operation → operation.Offers (schema.table key) good)
    (hReaches : schema.Reaches allowed store) : store.Contains schema good := by
  have hGood : store.IsGood schema good := by
    refine hReaches.keeps (P := fun store => store.IsGood schema good)
      (fun fresh hCreated => ?_) fun world key operation _ hAllowed hBefore =>
        (hOffers key operation hAllowed).keeps hDistinct (hProvides key) world hBefore
    have hNone := Store.forall_of_bootstrap (P := fun stored => stored.rows = [])
      (fun _ _ hNew => by rw [(StoredTable.ofTable_eq_ok hNew).2.2]) hCreated
    refine ⟨Store.holds_of_bootstrap hDistinct.keys hDistinct.names hCreated,
      Store.sound_of_bootstrap hCreated, fun key stored hFound row hRow => ?_⟩
    rw [hNone stored (List.mem_of_find?_eq_some hFound)] at hRow
    cases hRow
  exact hGood.contains

end Schema.Reaches

end ModelStore
