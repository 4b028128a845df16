import ModelStore.Proofs.Query.Reference
import ModelStore.Query.Eval

/-!
# What a search finds in rows that are met in a fixed order

The order in which the rows of a table are met is the one thing that a search leaves open.  Once it
is fixed, for the table of the search and for those of all relations that are asked for, there is
one answer, and it can be computed.

A plan reads the rows of each of its tables in some order.  The access path that it chooses depends
on its conditions and on its sort keys, and also on the columns that it fetches.

## Main definitions

* `Scan`: the rows of all tables of a search, in the order in which they are met.
* `Plan.scan`: the rows that a plan reads.
* `Query.foundIn`: what a search finds in rows that are met in a fixed order.
-/

namespace ModelStore

/-- The rows of the table of a search in the order in which they are met, and those of the relations
that are asked for. -/
inductive Scan where
  | node (rows : List StoredRow) (joined : List Scan)
  deriving Repr, Inhabited

/-! ## Comparing scans -/

mutual

/-- Whether two scans meet the same rows in the same order. -/
def Scan.decEq : (a b : Scan) → Decidable (a = b)
  | .node rows joined, .node others rest =>
    match instDecidableEqList rows others, Scan.decEqAll joined rest with
    | .isTrue hRows, .isTrue hJoined => .isTrue (hRows ▸ hJoined ▸ rfl)
    | .isFalse hRows, _ => .isFalse fun hSame => hRows (Scan.node.inj hSame).1
    | _, .isFalse hJoined => .isFalse fun hSame => hJoined (Scan.node.inj hSame).2

/-- Whether some scans are the same as others, one by one. -/
def Scan.decEqAll : (as bs : List Scan) → Decidable (as = bs)
  | [], [] => .isTrue rfl
  | [], _ :: _ => .isFalse nofun
  | _ :: _, [] => .isFalse nofun
  | a :: as, b :: bs =>
    match Scan.decEq a b, Scan.decEqAll as bs with
    | .isTrue hFirst, .isTrue hRest => .isTrue (hFirst ▸ hRest ▸ rfl)
    | .isFalse hFirst, _ => .isFalse fun hSame => hFirst (List.cons.inj hSame).1
    | _, .isFalse hRest => .isFalse fun hSame => hRest (List.cons.inj hSame).2

end

instance : DecidableEq Scan := Scan.decEq

/-! ## What a plan reads -/

mutual

/-- The rows that a plan reads, in the order in which it reads them. -/
def Plan.scan (store : Store) : Plan → Scan
  | .node core joins =>
    .node (((store.table? core.table).getD default).read
        (accessOf core (selectItems core joins) (joins.map (·.1))))
      (Plan.scanJoins store joins)

/-- The rows that joined plans read. -/
def Plan.scanJoins (store : Store) : List (Link × Plan) → List Scan
  | [] => []
  | (_, plan) :: rest => Plan.scan store plan :: Plan.scanJoins store rest

end

/-! ## What is found -/

section Found

variable {ι : Type} (schema : Schema ι)

mutual

/-- What a search on the table of a key finds in the rows of a scan. -/
def Query.foundIn (key : ι) : Query ι → Scan → Findings
  | .node own related, .node rows joined =>
    Findings.gather (schema.table key) own rows (Query.allFoundIn related joined)

/-- What the searches for some relations find, each in a scan of its own. -/
def Query.allFoundIn : List (Relation ι × Query ι) → List Scan → List (Related ι)
  | [], _ => []
  | (relation, query) :: rest, scans =>
    ⟨relation, schema.table relation.target,
        Query.foundIn relation.target query (scans.headD default)⟩ ::
      Query.allFoundIn rest scans.tail

end

end Found

end ModelStore
