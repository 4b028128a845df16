import ModelStore.Query.Options

/-!
# Building options

Options built step by step instead of being read: conditions from tests on columns, searches by adding to the empty
one, payloads by setting columns. What is built is again a value of the option types, so that everything said of
these holds of it.

## Main definitions

* `Filter`, `Filter.conditions`: conjunctions of tests, and the conditions that they stand for.
* `Search`, `Search.options`: searches under construction, and the options that they stand for.
-/

namespace ModelStore

/-! ## Filters -/

/-- A test of one column. -/
inductive Test where
  | eq (value : Json)
  | ne (value : Json)
  | gt (value : Json)
  | gte (value : Json)
  | lt (value : Json)
  | lte (value : Json)
  | among (values : List Json)
  | isNull
  | isNotNull
  deriving Repr, Inhabited

/-- The condition that a test stands for. -/
def Test.condition : Test → Condition
  | eq value => .equals value
  | ne value => .operators { Operators.empty with ne := some value }
  | gt value => .operators { Operators.empty with gt := some value }
  | gte value => .operators { Operators.empty with gte := some value }
  | lt value => .operators { Operators.empty with lt := some value }
  | lte value => .operators { Operators.empty with lte := some value }
  | among values => .operators { Operators.empty with among := some values }
  | isNull => .equals .null
  | isNotNull => .operators { Operators.empty with ne := some .null }

/-- A conjunction of tests, never empty. -/
inductive Filter where
  | test (column : String) (test : Test)
  | both (left right : Filter)
  deriving Repr, Inhabited

/-- The conditions that a filter stands for, in the order of its tests. -/
def Filter.conditions : Filter → Conditions
  | test column t => [(column, t.condition)]
  | both left right => left.conditions ++ right.conditions

/-- The conjunction of some filters, if there are any. -/
def Filter.all : List Filter → Option Filter
  | [] => none
  | filter :: rest => some (rest.foldl both filter)

/-! ## Searches -/

/-- A search under construction. -/
structure Search where
  filtered : Option Filter
  options : FindOptions
  deriving Repr, Inhabited

namespace Search

/-- The search for every row. -/
def empty : Search := ⟨none, .empty⟩

/-- Demands a filter besides those demanded before. -/
def filter (search : Search) (filter : Filter) : Search :=
  { search with
    filtered := some (match search.filtered with
      | some earlier => .both earlier filter
      | none => filter) }

/-- Changes what the search says about its own table. -/
def mapOwn (search : Search) (f : SearchOptions → SearchOptions) : Search :=
  { search with options := { search.options with own := f search.options.own } }

/-- Shows columns besides those shown by earlier selections. -/
def select (search : Search) (columns : List String) : Search :=
  search.mapOwn fun own =>
    { own with select := some (Fields.setAll (own.select.getD []) (columns.map fun name => (name, true))) }

/-- Adds a sort key behind the earlier ones. -/
def orderBy (search : Search) (column : String) (direction : Direction) : Search :=
  search.mapOwn fun own => { own with orderBy := some (own.orderBy.getD [] ++ [(column, direction)]) }

/-- Returns so many rows at most. -/
def take (search : Search) (limit : Nat) : Search := search.mapOwn fun own => { own with take := some limit }

/-- Leaves out so many rows. -/
def skip (search : Search) (offset : Nat) : Search := search.mapOwn fun own => { own with skip := some offset }

/-- Asks for a relation behind the earlier ones. -/
def ask (search : Search) (relation : String) (request : Include) : Search :=
  { search with
    options := { search.options with
      includes := some (search.options.includes.getD [] ++ [(relation, request)]) } }

/-- The options that the search stands for. -/
def toOptions (search : Search) : FindOptions :=
  match search.filtered with
  | none => search.options
  | some filter =>
    { search.options with
      own := { search.options.own with
        filter := some (search.options.own.filter.getD [] ++ filter.conditions) } }

/-- Asks for a relation, searched as another search says. -/
def join (search : Search) (relation : String) (inner : Search) : Search :=
  search.ask relation (.nested inner.toOptions.own inner.toOptions.includes)

/-- Asks for all of a relation. -/
def joinAll (search : Search) (relation : String) : Search := search.ask relation (.flag true)

end Search

/-! ## Payloads -/

/-- The payload of some assignments, of which the last one on a column counts. -/
def Payload.ofAssignments (assignments : List (String × Json)) : Payload := Fields.setAll [] assignments

end ModelStore
