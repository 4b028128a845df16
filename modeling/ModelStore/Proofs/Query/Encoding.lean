import ModelStore.Proofs.Query.FirstFault
import ModelStore.Proofs.Query.Written

/-!
# Every search has an object

A search is written as an object part by part: what is not said is left out, what is said stands
under its name, and under each relation stands a flag or the object of the search that is asked of
it.  So a condition that was not given differs from one that constrains nothing, an operator that
was not given from one with a null operand, and a relation that is not asked for from one that is
declined.

An object has no key twice.  A search is read back from its object if it says nothing twice and
compares with scalars only: no column is tested, selected or sorted by twice and no relation named
twice, at any level.

## Main definitions

* `FindOptions.json`: the object of a search.
* `FindOptions.Expressible`: searches that an object can say.

## Main results

* `Conditions.read_json`: conditions are read back from their object.
* `includesAt_fields`: what is asked of relations is read back, at any depth.
* `FindOptions.roundtrip_json`: a search is read back from its object.
-/

namespace ModelStore

open Json (FromValue Source)

/-! ## Objects -/

/-- The operators on a column under their names, those that are not given without an operand. -/
def Operators.parts (ops : Operators) : List (String × Option Json) :=
  [ ("eq", ops.eq), ("ne", ops.ne), ("gt", ops.gt), ("gte", ops.gte), ("lt", ops.lt)
  , ("lte", ops.lte), ("in", ops.among.map .list) ]

/-- The value of a condition: a bare value, or the object of its operators. -/
def Condition.json : Condition → Json
  | .equals value => value
  | .operators ops => .object (Fields.given ops.parts)

/-- The object of some conditions. -/
def Conditions.json (conditions : Conditions) : Json :=
  .object (conditions.map (Prod.map id Condition.json))

/-- The parts of a search under their names, given what is asked of relations. -/
def SearchOptions.parts (own : SearchOptions) (asked : Option Json) : List (String × Option Json) :=
  [ ("where", own.filter.map Conditions.json)
  , ("select", own.select.map fun flags => .object (flags.map (Prod.map id Json.bool)))
  , ("orderBy", own.orderBy.map fun keys =>
      .object (keys.map (Prod.map id fun direction => .text direction.name)))
  , ("take", own.take.map .ofNat)
  , ("skip", own.skip.map .ofNat)
  , ("include", asked) ]

mutual

/-- The value of a request for a relation: a flag, or the object of a search. -/
def Include.json : Include → Json
  | .flag value => .bool value
  | .nested own none => .object (Fields.given (own.parts none))
  | .nested own (some includes) =>
    .object (Fields.given (own.parts (some (.object (Include.fields includes)))))

/-- The values of some requests under their relations. -/
def Include.fields : List (String × Include) → List (String × Json)
  | [] => []
  | (relation, ask) :: rest => (relation, ask.json) :: Include.fields rest

end

/-- The object of a search. -/
def FindOptions.json (options : FindOptions) : Json :=
  .object (Fields.given (options.own.parts (options.includes.map fun includes =>
    .object (Include.fields includes))))

theorem Include.json_nested (own : SearchOptions) (includes : Option Includes) :
    (Include.nested own includes).json = FindOptions.json ⟨own, includes⟩ := by
  cases includes <;> rw [Include.json] <;> rfl

theorem Include.fields_eq_map (includes : Includes) :
    Include.fields includes = includes.map (Prod.map id Include.json) := by
  induction includes with
  | nil => rw [Include.fields, List.map_nil]
  | cons entry includes ih => rw [Include.fields, ih]; rfl

/-! ## What an object can say -/

/-- Conditions that an object can say: no column is tested twice, and what is compared are
scalars. -/
structure Conditions.Expressible (conditions : Conditions) : Prop where
  columns : (conditions.map Prod.fst).Nodup
  scalars : ∀ entry ∈ conditions, ∀ operand ∈ entry.2.operands, operand.isCompound = false

/-- What a search says about its own table, if an object can say it: no column is selected or sorted
by twice, and counts have 32 bits. -/
structure SearchOptions.Expressible (own : SearchOptions) : Prop where
  filter : ∀ conditions ∈ own.filter, Conditions.Expressible conditions
  select : ∀ flags ∈ own.select, (flags.map Prod.fst).Nodup
  orderBy : ∀ keys ∈ own.orderBy, (keys.map Prod.fst).Nodup
  take : ∀ count ∈ own.take, count < 2 ^ 32
  skip : ∀ count ∈ own.skip, count < 2 ^ 32

mutual

/-- Requests for a relation that an object can say. -/
def Include.Expressible : Include → Prop
  | .flag _ => True
  | .nested own none => own.Expressible
  | .nested own (some includes) =>
    own.Expressible ∧ (includes.map (·.1)).Nodup ∧ Include.AllExpressible includes

/-- Requests all of which an object can say. -/
def Include.AllExpressible : List (String × Include) → Prop
  | [] => True
  | (_, ask) :: rest => ask.Expressible ∧ Include.AllExpressible rest

end

/-- Searches that an object can say. -/
structure FindOptions.Expressible (options : FindOptions) : Prop where
  own : options.own.Expressible
  relations : ∀ includes ∈ options.includes, (includes.map Prod.fst).Nodup
  asked : ∀ includes ∈ options.includes, Include.AllExpressible includes

theorem Include.expressible_nested {own : SearchOptions} {includes : Option Includes} :
    (Include.nested own includes).Expressible ↔ FindOptions.Expressible ⟨own, includes⟩ := by
  cases includes with
  | none =>
      rw [Include.Expressible]
      exact ⟨fun hOwn => ⟨hOwn, nofun, nofun⟩, fun hAll => hAll.own⟩
  | some includes =>
      rw [Include.Expressible]
      constructor
      · rintro ⟨hOwn, hNodup, hAsked⟩
        refine ⟨hOwn, ?_, ?_⟩ <;> (rintro _ ⟨⟩; assumption)
      · exact fun hAll => ⟨hAll.own, hAll.relations includes rfl, hAll.asked includes rfl⟩

/-! ## Conditions -/

/-- An operator that may be left out is read as it was given. -/
theorem Operators.ofFields_given {name : String} {ops : Operators} {operand? : Option Json}
    (set : Option Json → Operators → Operators)
    (hAdd : ∀ operand ∈ operand?, ops.add name operand = .ok (set (some operand) ops))
    (hSet : set none ops = ops) (parts : List (String × Option Json)) :
    Operators.ofFields (Fields.given ((name, operand?) :: parts)) ops =
      Operators.ofFields (Fields.given parts) (set operand? ops) := by
  cases operand? with
  | none => rw [hSet]; rfl
  | some operand =>
      have hGiven : Fields.given ((name, some operand) :: parts) =
          (name, operand) :: Fields.given parts := rfl
      rw [hGiven, Operators.ofFields, hAdd operand rfl]
      rfl

/-- An operator with a scalar operand is added. -/
theorem Operators.add_of_scalar {ops result : Operators} {name : String} {operand : Json}
    (hName : name ≠ "in") (hWrite : ops.write name operand = some result)
    (hScalar : operand.isCompound = false) : ops.add name operand = .ok result := by
  unfold Operators.add
  rw [if_neg hName, hWrite, hScalar]
  rfl

/-- Membership in some scalars is added. -/
theorem Operators.add_in {ops : Operators} {values : List Json}
    (hScalars : ∀ value ∈ values, value.isCompound = false) :
    ops.add "in" (.list values) = .ok { ops with among := some values } := by
  have hNone : values.any Json.isCompound = false := by
    rw [List.any_eq_false]
    intro value hValue
    simp [hScalars value hValue]
  simp [Operators.add, hNone]

/-- Operators are read back from their object, those that are not given too. -/
theorem Operators.ofFields_parts {ops : Operators}
    (hScalars : ∀ operand ∈ (Condition.operators ops).operands, operand.isCompound = false) :
    Operators.ofFields (Fields.given ops.parts) .empty = .ok ops := by
  obtain ⟨eq, ne, gt, gte, lt, lte, among⟩ := ops
  simp only [Condition.operands, operands, List.mem_append, Option.mem_toList, or_imp,
    forall_and] at hScalars
  obtain ⟨⟨⟨⟨⟨⟨hEq, hNe⟩, hGt⟩, hGte⟩, hLt⟩, hLte⟩, hAmong⟩ := hScalars
  rw [parts,
    ofFields_given (fun operand? ops => { ops with eq := operand? })
      (fun operand hMem => add_of_scalar (by decide) rfl (hEq operand hMem)) rfl,
    ofFields_given (fun operand? ops => { ops with ne := operand? })
      (fun operand hMem => add_of_scalar (by decide) rfl (hNe operand hMem)) rfl,
    ofFields_given (fun operand? ops => { ops with gt := operand? })
      (fun operand hMem => add_of_scalar (by decide) rfl (hGt operand hMem)) rfl,
    ofFields_given (fun operand? ops => { ops with gte := operand? })
      (fun operand hMem => add_of_scalar (by decide) rfl (hGte operand hMem)) rfl,
    ofFields_given (fun operand? ops => { ops with lt := operand? })
      (fun operand hMem => add_of_scalar (by decide) rfl (hLt operand hMem)) rfl,
    ofFields_given (fun operand? ops => { ops with lte := operand? })
      (fun operand hMem => add_of_scalar (by decide) rfl (hLte operand hMem)) rfl]
  cases among with
  | none => rfl
  | some values =>
      have hValues : ∀ value ∈ values, value.isCompound = false := hAmong
      show Operators.ofFields [("in", .list values)] _ = _
      rw [Operators.ofFields, add_in hValues]
      rfl

/-- A condition is read back from its value. -/
theorem Condition.ofJson_json {condition : Condition}
    (hScalars : ∀ operand ∈ condition.operands, operand.isCompound = false) :
    Condition.ofJson condition.json = .ok condition := by
  cases condition with
  | equals value =>
      have hScalar : value.isCompound = false := hScalars value (List.mem_singleton_self _)
      cases value with
      | list items => cases hScalar
      | object fields => cases hScalar
      | _ => rfl
  | operators ops =>
      rw [Condition.json, Condition.ofJson, Operators.ofFields_parts hScalars]
      rfl

/-- **Conditions**: they are read back from their object, in their order. -/
theorem Conditions.read_json {conditions : Conditions} (hExpressible : conditions.Expressible) :
    Conditions.read (conditions.map (Prod.map id Condition.json)) = .ok conditions := by
  have hFields : Conditions.ofFields (conditions.map (Prod.map id Condition.json)) =
      .ok conditions := by
    have hScalars := hExpressible.scalars
    clear hExpressible
    induction conditions with
    | nil => rfl
    | cons entry conditions ih =>
        obtain ⟨column, condition⟩ := entry
        obtain ⟨hFirst, hRest⟩ := List.forall_mem_cons.mp hScalars
        rw [List.map_cons, Prod.map_apply, Conditions.ofFields, Condition.ofJson_json hFirst]
        dsimp only
        rw [ih hRest]
        rfl
  rw [Conditions.read, hFields]
  rfl

/-! ## Searches -/

/-- A part that is said is read back. -/
theorem reads_map {α : Type} {read : FromValue α} {value : α → Json} {said : Option α}
    (hRead : ∀ a ∈ said, (value a).isNull = false ∧ read (value a) = .ok a) :
    Reads read (said.map value) said := by
  cases said with
  | none => exact .unsaid
  | some a =>
      obtain ⟨hNull, hValue⟩ := hRead a rfl
      exact .said hNull hValue

/-- A count of 32 bits is read back. -/
theorem count_of_lt {count : Nat} (hCount : count < 2 ^ 32) :
    FromValue.count (.ofNat count) = .ok count := by
  have hLimit : 0 ≤ (count : Int) ∧ (count : Int) < Json.countLimit := by
    rw [Json.countLimit]
    omega
  rw [Json.ofNat, FromValue.count, Json.countOf, if_pos hLimit, Int.toNat_natCast]

/-- The parts of a search are read back if what is asked of relations is. -/
theorem FindOptions.record_json {convert : Fields Json → Except String Includes}
    {options : FindOptions} (hOwn : options.own.Expressible)
    (hConvert : ∀ includes ∈ options.includes,
      convert (Include.fields includes) = .ok includes) :
    FromValue.record (findShapeWith FromValue convert) options.json = .ok options := by
  refine record_given (reads_map fun conditions hSaid => ⟨rfl, ?_⟩)
    (reads_map fun flags _ => ⟨rfl, flagFields_bools flags⟩)
    (reads_map fun keys _ => ⟨rfl, ?_⟩)
    (reads_map fun count hSaid => ⟨rfl, count_of_lt (hOwn.take count hSaid)⟩)
    (reads_map fun count hSaid => ⟨rfl, count_of_lt (hOwn.skip count hSaid)⟩)
    (reads_map fun includes hSaid => ⟨rfl, refine_object (hConvert includes hSaid)⟩)
  · exact refine_object (Conditions.read_json (hOwn.filter conditions hSaid))
  · have hKeys : readOrder (keys.map (Prod.map id fun direction => .text direction.name)) =
        .ok keys := by
      rw [readOrder, orderOfFields_keys]
      rfl
    exact refine_object hKeys

/-- What is asked of relations lies two levels inside the object of a search. -/
theorem FindOptions.depth_fields {options : FindOptions} {includes : Includes}
    (hAsked : includes ∈ options.includes) :
    Json.depthOfFields (Include.fields includes) + 2 ≤ options.json.depth := by
  have hPart : ("include", some (Json.object (Include.fields includes))) ∈
      options.own.parts (options.includes.map fun includes => .object (Include.fields includes)) := by
    rw [Option.mem_def.mp hAsked]
    simp [SearchOptions.parts]
  have hInside := Json.depth_le_depthOfFields (Fields.mem_given.mpr hPart)
  rw [Json.depth] at hInside
  rw [FindOptions.json, Json.depth]
  omega

/-- A nested search is read as what is asked of its relation. -/
theorem includeOfJson_nested {convert : Fields Json → Except String Includes} {relation : String}
    {own : SearchOptions} {includes : Option Includes}
    (hRecord : FromValue.record (findShapeWith FromValue convert)
      (FindOptions.json ⟨own, includes⟩) = .ok ⟨own, includes⟩) :
    includeOfJson convert relation (Include.nested own includes).json =
      .ok (.nested own includes) := by
  rw [Include.json_nested]
  rw [FindOptions.json] at hRecord ⊢
  unfold includeOfJson
  dsimp only [Source.record] at hRecord ⊢
  rw [hRecord]

theorem includesAt_succ (levels : Nat) (fields : Fields Json) :
    includesAt (levels + 1) fields = fields.mapM fun field => do
      return (field.1, ← includeOfJson (includesAt levels) field.1 field.2) := by
  cases fields <;> rfl

mutual

/-- A request is read back from its value, if there are levels enough. -/
theorem includeOfJson_json : ∀ (ask : Include) (relation : String) (depth : Nat),
    ask.Expressible → ask.json.depth ≤ depth →
      includeOfJson (includesAt depth) relation ask.json = .ok ask
  | .flag value, relation, depth, _, _ => rfl
  | .nested own none, relation, depth, hExpressible, _ => by
      have hSearch := Include.expressible_nested.mp hExpressible
      exact includeOfJson_nested (FindOptions.record_json hSearch.own nofun)
  | .nested own (some includes), relation, depth, hExpressible, hDepth => by
      have hSearch := Include.expressible_nested.mp hExpressible
      have hLevels : Json.depthOfFields (Include.fields includes) + 2 ≤ depth := by
        rw [Include.json_nested] at hDepth
        exact Nat.le_trans (FindOptions.depth_fields rfl) hDepth
      have hAll : includesAt depth (Include.fields includes) = .ok includes :=
        includesAt_fields includes depth (hSearch.asked includes rfl) (by omega)
      refine includeOfJson_nested (FindOptions.record_json hSearch.own ?_)
      rintro _ ⟨⟩
      exact hAll

/-- **Relations**: what is asked of them is read back in its order, if there are levels enough. -/
theorem includesAt_fields : ∀ (includes : List (String × Include)) (depth : Nat),
    Include.AllExpressible includes → Json.depthOfFields (Include.fields includes) < depth →
      includesAt depth (Include.fields includes) = .ok includes
  | [], depth, _, _ => by
      rw [Include.fields, includesAt]
  | (relation, ask) :: rest, depth, hAll, hDepth => by
      obtain ⟨hAsk, hRest⟩ := hAll
      obtain ⟨depth, rfl⟩ : ∃ below, depth = below + 1 := ⟨depth - 1, by omega⟩
      have hInside : ask.json.depth ≤ depth ∧
          Json.depthOfFields (Include.fields rest) ≤ depth := by
        rw [Include.fields, Json.depthOfFields] at hDepth
        omega
      have hFirst := includeOfJson_json ask relation depth hAsk hInside.1
      have hOthers := includesAt_fields rest (depth + 1) hRest (by omega)
      rw [includesAt_succ] at hOthers ⊢
      rw [Include.fields, List.mapM_cons, hFirst, hOthers]
      rfl

end

/-! ## Keys -/

/-- What is given has no key twice if no part is named twice. -/
theorem Fields.keysDistinct_given {parts : List (String × Option Json)}
    (hNames : (parts.map Prod.fst).Nodup)
    (hValues : ∀ part ∈ parts, ∀ value ∈ part.2, value.KeysDistinct) :
    (Json.object (Fields.given parts)).KeysDistinct := by
  rw [Json.keysDistinct_object]
  constructor
  · exact hNames.sublist (Fields.names_given_sublist parts)
  · intro field hField
    exact hValues _ (Fields.mem_given.mp hField) _ rfl

/-- Values that have no key twice, under names of which none stands twice. -/
theorem Fields.keysDistinct_map {α : Type} {entries : List (String × α)} {value : α → Json}
    (hNames : (entries.map Prod.fst).Nodup)
    (hValues : ∀ entry ∈ entries, (value entry.2).KeysDistinct) :
    (Json.object (entries.map (Prod.map id value))).KeysDistinct := by
  rw [Json.keysDistinct_object, List.map_map]
  constructor
  · exact hNames
  · intro field hField
    obtain ⟨entry, hEntry, rfl⟩ := List.mem_map.mp hField
    exact hValues entry hEntry

theorem Condition.keysDistinct_json {condition : Condition}
    (hScalars : ∀ operand ∈ condition.operands, operand.isCompound = false) :
    condition.json.KeysDistinct := by
  have hDistinct : ∀ operand ∈ condition.operands, operand.KeysDistinct :=
    fun operand hOperand => Json.keysDistinct_of_scalar (hScalars operand hOperand)
  cases condition with
  | equals value => exact hDistinct value (List.mem_singleton_self _)
  | operators ops =>
      simp only [operands, Operators.operands, List.mem_append, Option.mem_toList, or_imp,
        forall_and] at hDistinct
      obtain ⟨⟨⟨⟨⟨⟨hEq, hNe⟩, hGt⟩, hGte⟩, hLt⟩, hLte⟩, hAmong⟩ := hDistinct
      have hList : ∀ list ∈ ops.among.map Json.list, list.KeysDistinct := by
        intro list hList
        obtain ⟨values, hValues, rfl⟩ := Option.map_eq_some_iff.mp hList
        refine Json.allKeysDistinct_iff.mpr fun value hValue => hAmong value ?_
        rw [hValues]
        exact hValue
      refine Fields.keysDistinct_given ?_ ?_
      · show ["eq", "ne", "gt", "gte", "lt", "lte", "in"].Nodup
        decide
      · simp only [Operators.parts, List.forall_mem_cons]
        exact ⟨hEq, hNe, hGt, hGte, hLt, hLte, hList, List.forall_mem_nil _⟩

/-- The object of a search has no key twice if what is asked of relations has none. -/
theorem FindOptions.keysDistinct_json_of {options : FindOptions}
    (hOwn : options.own.Expressible)
    (hAsked : ∀ includes ∈ options.includes,
      (Json.object (Include.fields includes)).KeysDistinct) :
    options.json.KeysDistinct := by
  refine Fields.keysDistinct_given ?_ ?_
  · show ["where", "select", "orderBy", "take", "skip", "include"].Nodup
    decide
  · have hMap : ∀ {α : Type} {said : Option α} {value : α → Json},
        (∀ a ∈ said, (value a).KeysDistinct) → ∀ json ∈ said.map value, json.KeysDistinct := by
      intro α said value hSaid json hJson
      obtain ⟨a, hA, rfl⟩ := Option.map_eq_some_iff.mp hJson
      exact hSaid a hA
    simp only [SearchOptions.parts, List.forall_mem_cons]
    refine ⟨hMap fun conditions hSaid => ?_, hMap fun flags hSaid => ?_,
      hMap fun keys hSaid => ?_, hMap fun _ _ => trivial, hMap fun _ _ => trivial,
      hMap hAsked, nofun⟩
    · have hFilter := hOwn.filter conditions hSaid
      exact Fields.keysDistinct_map hFilter.columns fun entry hEntry =>
        Condition.keysDistinct_json (hFilter.scalars entry hEntry)
    · exact Fields.keysDistinct_map (hOwn.select flags hSaid) fun _ _ => trivial
    · exact Fields.keysDistinct_map (hOwn.orderBy keys hSaid) fun _ _ => trivial

theorem Include.names_fields (includes : Includes) :
    (Include.fields includes).map (·.1) = includes.map (·.1) := by
  rw [Include.fields_eq_map, List.map_map]
  rfl

mutual

/-- The value of a request has no key twice. -/
theorem Include.keysDistinct_json : ∀ ask : Include, ask.Expressible → ask.json.KeysDistinct
  | .flag _, _ => trivial
  | .nested own none, hExpressible => by
      rw [Include.json_nested]
      exact FindOptions.keysDistinct_json_of (Include.expressible_nested.mp hExpressible).own nofun
  | .nested own (some includes), hExpressible => by
      obtain ⟨hOwn, hNodup, hAsked⟩ := hExpressible
      rw [Include.json_nested]
      refine FindOptions.keysDistinct_json_of hOwn ?_
      rintro _ ⟨⟩
      exact ⟨Include.names_fields includes ▸ hNodup, Include.keysDistinct_fields includes hAsked⟩

/-- The values of requests have no key twice. -/
theorem Include.keysDistinct_fields : ∀ includes : List (String × Include),
    Include.AllExpressible includes → Json.FieldsKeysDistinct (Include.fields includes)
  | [], _ => trivial
  | (_, ask) :: rest, hAll =>
      ⟨Include.keysDistinct_json ask hAll.1, Include.keysDistinct_fields rest hAll.2⟩

end

/-! ## The round trip -/

/-- **The round trip**: a search that an object can say is written as an object without a key twice,
from which the same search is read. -/
theorem FindOptions.roundtrip_json {options : FindOptions} (hExpressible : options.Expressible) :
    options.json.KeysDistinct ∧ decode findShape options.json = .ok options := by
  constructor
  · refine FindOptions.keysDistinct_json_of hExpressible.own fun includes hSaid => ?_
    rw [Json.KeysDistinct, Include.names_fields]
    exact ⟨hExpressible.relations includes hSaid,
      Include.keysDistinct_fields includes (hExpressible.asked includes hSaid)⟩
  · have hRecord : FromValue.record (findShape FromValue) options.json = .ok options :=
      FindOptions.record_json hExpressible.own fun includes hSaid =>
        includesAt_fields includes _ (hExpressible.asked includes hSaid) (Nat.lt_succ_self _)
    exact congrArg (Except.mapError _) hRecord

/-- The jobs whose name is null, whose state is tested by no operator and whose pages are among none,
with their printer and, of its owner, the id. -/
theorem FindOptions.roundtrip_json_jobs :
    let printer : Include := .nested
      { SearchOptions.empty with select := some [("id", true), ("name", false)], take := some 0 }
      (some [("owner", .nested { SearchOptions.empty with skip := some 4294967295 } (some [])),
        ("jobs", .flag false)])
    let conditions : Conditions :=
      [ ("name", .equals .null), ("state", .operators .empty)
      , ("pages", .operators { Operators.empty with ne := some .null, among := some [] }) ]
    let options : FindOptions :=
      ⟨{ SearchOptions.empty with
          filter := some conditions, orderBy := some [("name", .descending), ("id", .ascending)] },
        some [("printer", printer), ("tags", .flag true)]⟩
    options.Expressible ∧ options.json.KeysDistinct ∧ decode findShape options.json = .ok options := by
  intro printer conditions options
  have hFilter : conditions.Expressible := by
    constructor
    · decide
    · simp [conditions, Condition.operands, Operators.operands, Operators.empty, Json.isCompound]
  have hOwn : options.own.Expressible :=
    { filter := by rintro _ ⟨⟩; exact hFilter
      select := nofun
      orderBy := by rintro _ ⟨⟩; decide
      take := nofun
      skip := nofun }
  have hPrinter : printer.Expressible := by
    refine ⟨?_, by decide, ⟨?_, by decide, trivial⟩, trivial, trivial⟩
    · exact ⟨nofun, by rintro _ ⟨⟩; decide, nofun, by rintro _ ⟨⟩; decide, nofun⟩
    · exact ⟨nofun, nofun, nofun, nofun, by rintro _ ⟨⟩; decide⟩
  have hExpressible : options.Expressible :=
    { own := hOwn
      relations := by rintro _ ⟨⟩; decide
      asked := by rintro _ ⟨⟩; exact ⟨hPrinter, trivial, trivial⟩ }
  exact ⟨hExpressible, FindOptions.roundtrip_json hExpressible⟩

end ModelStore
