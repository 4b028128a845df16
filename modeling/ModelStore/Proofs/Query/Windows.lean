import ModelStore.Proofs.Query.Levels
import ModelStore.Proofs.Query.Rendering

/-!
# Plans in other windows

A window says how many rows of a plan are left out and how many are kept at most.  It is the last
that is done with the rows: neither the order in which tables are read nor the joins look at it.  So
the rows of a plan in a window are those of the plan without one, cut to the window.

Nor does it matter to what the store may object to.  A window is written in plain words and numbers,
has no parameters and names no column.  It moves the places of the references behind it, but
whether one fits does not depend on where it stands.

## Main definitions

* `FindOptions.paged`: a search with other numbers of rows to keep and to leave out.

## Main results

* `Window.apply_eq`: what a window leaves of some rows.
* `flatMap_pages`: pages of one size, one after another.
* `Plan.build_paged`: the plan of a search with other numbers of rows.
* `Plan.rows_withWindow`: the rows of a plan in a window.
* `Plan.readingFault_withWindow`, `Plan.check_withWindow`: what the store has against a plan.
-/

namespace ModelStore

open Sql (textOf valuesOf)

variable {ι : Type}

/-! ## Windows -/

/-- What a window leaves: some rows are left out in front, and of the others so many are kept. -/
theorem Window.apply_eq {α : Type} (window : Window) (rows : List α) :
    window.apply rows =
      (rows.drop (window.offset.getD 0)).take (window.limit.getD rows.length) := by
  unfold Window.apply
  cases window.limit with
  | some limit => rfl
  | none =>
      dsimp only [Option.getD_none]
      rw [List.take_of_length_le]
      rw [List.length_drop]
      exact Nat.sub_le _ _

/-- A window leaves the same of rows and of what stands for them. -/
theorem Window.map_apply {α β : Type} (window : Window) (f : α → β) (rows : List α) :
    (window.apply rows).map f = window.apply (rows.map f) := by
  rw [Window.apply_eq, Window.apply_eq, List.map_take, List.map_drop, List.length_map]

/-- **Pages**: so many pages of one size, one after another, are as many rows from the first on. -/
theorem flatMap_pages {α : Type} (size : Nat) (rows : List α) (count : Nat) :
    (List.range count).flatMap (fun k => (rows.drop (k * size)).take size) =
      rows.take (count * size) := by
  induction count with
  | zero => simp
  | succ count ih =>
      rw [List.range_succ, List.flatMap_append, ih, List.flatMap_singleton, Nat.succ_mul,
        List.take_add]

/-- A plan that is put in two windows is in the second. -/
theorem Plan.withWindow_withWindow (plan : Plan) (first second : Window) :
    (plan.withWindow first).withWindow second = plan.withWindow second := by
  cases plan
  rfl

/-! ## Building -/

/-- What a search does on its own table, in another window. -/
theorem PlanCore.build_window (table : Table ι) (own : SearchOptions) (take skip : Option Nat) :
    PlanCore.build table { own with take := take, skip := skip } =
      (PlanCore.build table own).map fun core => { core with window := ⟨take, skip⟩ } := by
  rw [PlanCore.build, PlanCore.build]
  cases compileFilter table (some table.name) own.filter with
  | error e => rfl
  | ok predicate =>
      dsimp only
      cases compileOrderBy table (own.orderBy.getD []) <;> rfl

/-- A search with other numbers of rows. -/
def FindOptions.paged (options : FindOptions) (take skip : Option Nat) : FindOptions :=
  { options with own := { options.own with take := take, skip := skip } }

/-- **Building**: with other numbers of rows, the same plan is built in another window. -/
theorem Plan.build_paged (schema : Schema ι) (key : ι) (options : FindOptions)
    (take skip : Option Nat) :
    Plan.build schema key (options.paged take skip) =
      Plan.withWindow ⟨take, skip⟩ <$> Plan.build schema key options := by
  have hCore : buildCore schema key { options.own with take := take, skip := skip } =
      (fun core : PlanCore => { core with window := ⟨take, skip⟩ }) <$>
        buildCore schema key options.own := by
    rw [buildCore, buildCore, PlanCore.build_window]
    cases PlanCore.build (schema.table key) options.own <;> rfl
  obtain ⟨own, includes⟩ := options
  cases includes with
  | none => simp [Plan.build, FindOptions.paged, buildPlan, hCore, Plan.withWindow]
  | some includes => simp [Plan.build, FindOptions.paged, buildPlan, hCore, Plan.withWindow]

/-! ## Rows -/

/-- **Rows**: those of a plan in a window are those of the plan without one, cut to it. -/
theorem Plan.rows_withWindow (store : Store) (plan : Plan) (window : Window) :
    ((plan.withWindow window).eval store).rows =
      window.apply ((plan.withWindow ⟨none, none⟩).eval store).rows := by
  obtain ⟨core, joins⟩ := plan
  rw [Plan.withWindow, Plan.withWindow, Plan.eval, Plan.eval]
  unfold runCore
  dsimp only
  rw [← Window.map_apply]
  rfl

/-! ## Statements -/

/-- Whether the text of a plan is read does not depend on its window. -/
theorem Plan.readingFault_withWindow (plan : Plan) (window : Window) :
    Sql.readingFault (plan.withWindow window).sql = none ↔
      Sql.readingFault plan.sql = none := by
  have hRead : ∀ other : Plan, Sql.readingFault other.sql = none ↔
      (∀ piece ∈ other.pieces, piece.isReadable = true) ∧
        other.params.length ≤ Sql.placeholderLimit := by
    intro other
    rw [Sql.readingFault_eq_none_iff other.wellSpaced_pieces other.textOf_pieces,
      other.valuesOf_pieces]
  have hWindow : ∀ (other : Window), ∀ piece ∈ other.pieces, piece.isReadable = true := by
    intro other piece hPiece
    unfold Window.pieces at hPiece
    split at hPiece
    · cases hPiece
    · rw [List.mem_singleton.mp hPiece]
      rfl
  obtain ⟨core, joins⟩ := plan
  rw [hRead, hRead, Plan.withWindow, Plan.pieces, Plan.pieces, Plan.params, Plan.params, tailPieces,
    tailPieces]
  simp only [List.forall_mem_append, iff_true_intro (hWindow _), and_true]
  rfl

/-- Nor does it depend on its window whether the check of a plan succeeds. -/
theorem Plan.check_withWindow (store : Store) (plan : Plan) (window : Window) :
    (plan.withWindow window).check store = .ok () ↔ plan.check store = .ok () := by
  have hRefusal : (plan.withWindow window).refusalAt store (plan.withWindow window).sql 0 = none ↔
      plan.refusalAt store plan.sql 0 = none := by
    obtain ⟨core, joins⟩ := plan
    rw [Plan.refusalAt_eq_none_iff, Plan.refusalAt_eq_none_iff, Plan.withWindow, Plan.nodes,
      Plan.nodes, List.forall_mem_cons, List.forall_mem_cons]
    rfl
  have hCheck : ∀ other : Plan, other.check store = .ok () ↔
      (store.table? other.core.table).isSome = true ∧ other.showsTooMany = false ∧
        other.refusalAt store other.sql 0 = none ∧ other.joinsTooMany = false := by
    intro other
    unfold Plan.check
    cases store.table? other.core.table with
    | none => simp
    | some stored =>
        cases other.showsTooMany with
        | true => simp
        | false =>
            cases other.refusalAt store other.sql 0 with
            | some e => simp
            | none => cases other.joinsTooMany <;> simp
  rw [hCheck, hCheck, hRefusal]
  obtain ⟨core, joins⟩ := plan
  rfl

end ModelStore
