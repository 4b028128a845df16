import ModelStore.Proofs.Json.Keys
import ModelStore.Proofs.Query.Steps
import ModelStore.Query.Decode

/-!
# Searches written as objects

What is built by steps can be written as an object: conditions under their columns, sort keys under
theirs, and under each relation what is asked of it.  A key is written once, so an object can say
only what the steps say once: at each level, no column is tested or sorted by twice and no relation
is asked for twice.  Then the object is read as the search that the steps build.

## Main definitions

* `SearchStep.json`: the object that writes some steps.
* `SearchStep.Writable`: steps of one level that an object can say.

## Main results

* `SearchStep.keysDistinct_json`: what is written has no key twice.
* `SearchStep.decode_json`: what is written is read as the search that the steps build.
-/

namespace ModelStore

open Json (FieldShape FromValue RecordShape Source)

/-! ## Objects -/

/-- The object of some entries, of which the last under each name counts. -/
def Json.written (entries : Fields Json) : Json := .object (Fields.setAll [] entries)

/-- The parts that have a value, under their names. -/
def Fields.given (parts : List (String × Option Json)) : Fields Json :=
  parts.filterMap fun part => part.2.map fun value => (part.1, value)

theorem Json.written_of_nodup {entries : Fields Json} (hNodup : (entries.map Prod.fst).Nodup) :
    Json.written entries = .object entries :=
  congrArg Json.object (Fields.setAll_of_nodup (by simpa using hNodup))

/-- What is written has no key twice. -/
theorem Json.keysDistinct_written {entries : Fields Json}
    (hValues : ∀ entry ∈ entries, entry.2.KeysDistinct) : (Json.written entries).KeysDistinct := by
  have hAll : ∀ fields : Fields Json, (Json.object fields).KeysDistinct →
      (Json.object (Fields.setAll fields entries)).KeysDistinct := by
    induction entries with
    | nil => exact fun _ hFields => hFields
    | cons entry entries ih =>
        intro fields hFields
        obtain ⟨hValue, hRest⟩ := List.forall_mem_cons.mp hValues
        exact ih hRest _ (Json.keysDistinct_set hFields hValue)
  exact hAll [] (Json.keysDistinct_object.mpr ⟨List.nodup_nil, by simp⟩)

theorem Fields.mem_given {parts : List (String × Option Json)} {name : String} {value : Json} :
    (name, value) ∈ Fields.given parts ↔ (name, some value) ∈ parts := by
  simp [Fields.given, Option.map_eq_some_iff]

theorem Fields.names_given_sublist (parts : List (String × Option Json)) :
    ((Fields.given parts).map Prod.fst).Sublist (parts.map Prod.fst) := by
  induction parts with
  | nil => exact List.Sublist.slnil
  | cons part parts ih =>
      obtain ⟨name, value?⟩ := part
      cases value? with
      | none => exact ih.cons _
      | some value => exact ih.cons_cons _

theorem Json.depth_le_depthOfFields {field : String × Json} {fields : Fields Json}
    (hMem : field ∈ fields) : field.2.depth ≤ Json.depthOfFields fields := by
  induction fields with
  | nil => cases hMem
  | cons first fields ih =>
      rw [Json.depthOfFields]
      rcases List.mem_cons.mp hMem with rfl | hRest
      · exact Nat.le_max_left _ _
      · exact Nat.le_trans (ih hRest) (Nat.le_max_right _ _)

/-! ## Parts of a search -/

/-- How a part that may be left out is read: from a value that is not null. -/
inductive Reads {α : Type} (read : FromValue α) : Option Json → Option α → Prop
  | unsaid : Reads read none none
  | said {value : Json} {result : α} (hValue : value.isNull = false)
      (hRead : read value = .ok result) : Reads read (some value) (some result)

theorem Reads.ifSaid {α β : Type} {read : FromValue β} {said : List α} {value : Json} {result : β}
    (hSaid : said ≠ [] → value.isNull = false ∧ read value = .ok result) :
    Reads read (ifSaid said value) (ifSaid said result) := by
  cases said with
  | nil => exact .unsaid
  | cons item said =>
      obtain ⟨hValue, hRead⟩ := hSaid (List.cons_ne_nil _ _)
      exact .said hValue hRead

/-- A part is read as what it says, and what is not written leaves the draft as it is. -/
theorem fill_given {δ α β : Type} {shape : RecordShape FromValue δ α} {name : String}
    {filled : δ → Bool} {read : FromValue β} (set : Option (Option β) → δ → δ)
    (hField : shape.field? name =
      some (fieldOf name false filled (Source.optional read) fun value => set (some value)))
    {draft : δ} (hFilled : filled draft = false) (hSet : set none draft = draft)
    {value? : Option Json} {said? : Option β} (hReads : Reads read value? said?)
    (parts : List (String × Option Json)) :
    FromValue.fill shape (Fields.given ((name, value?) :: parts)) draft =
      FromValue.fill shape (Fields.given parts) (set (said?.map some) draft) := by
  cases hReads with
  | unsaid => rw [Option.map_none, hSet]; rfl
  | said hValue hRead =>
      rename_i value result
      have hOptional : FromValue.optional read value = .ok (some result) := by
        cases value with
        | null => cases hValue
        | _ => exact congrArg (Except.map some) hRead
      have hWrite : (fieldOf name false filled (Source.optional read)
          fun value => set (some value)).read value = .ok (set (some (some result))) :=
        congrArg (Except.map fun value => set (some value)) hOptional
      have hGiven : Fields.given ((name, some value) :: parts) =
          (name, value) :: Fields.given parts := rfl
      rw [hGiven, FromValue.fill, hField]
      dsimp only
      rw [hWrite, if_neg (by exact fun hFull => Bool.false_ne_true (hFilled.symm.trans hFull))]
      rfl

/-- What is converted from an object is read from it. -/
theorem refine_object {α : Type} {convert : Fields Json → Except String α} {fields : Fields Json}
    {result : α} (hConvert : convert fields = .ok result) :
    FromValue.refine FromValue.object convert (.object fields) = .ok result := by
  have hObject : FromValue.object (.object fields) = .ok fields := rfl
  rw [FromValue.refine, hObject]
  dsimp only [bind, Except.bind]
  rw [hConvert]

/-- The parts of a search are read one by one. -/
theorem record_given {convert : Fields Json → Except String Includes} {own : SearchOptions}
    {includes : Option Includes} {filter select orderBy take skip asked : Option Json}
    (hFilter : Reads (conditionsShape FromValue) filter own.filter)
    (hSelect : Reads FromValue.flags select own.select)
    (hOrder : Reads (orderShape FromValue) orderBy own.orderBy)
    (hTake : Reads FromValue.count take own.take) (hSkip : Reads FromValue.count skip own.skip)
    (hAsked : Reads (FromValue.refine FromValue.object convert) asked includes) :
    FromValue.record (findShapeWith FromValue convert)
      (.object (Fields.given [("where", filter), ("select", select), ("orderBy", orderBy),
        ("take", take), ("skip", skip), ("include", asked)])) = .ok ⟨own, includes⟩ := by
  rw [FromValue.record,
    fill_given (fun value draft => { draft with filter := value }) rfl rfl rfl hFilter,
    fill_given (fun value draft => { draft with select := value }) rfl rfl rfl hSelect,
    fill_given (fun value draft => { draft with orderBy := value }) rfl rfl rfl hOrder,
    fill_given (fun value draft => { draft with take := value }) rfl rfl rfl hTake,
    fill_given (fun value draft => { draft with skip := value }) rfl rfl rfl hSkip,
    fill_given (fun value draft => { draft with includes := value }) rfl rfl rfl hAsked]
  have hJoin : ∀ {α : Type} (said? : Option α), (said?.map some).join = said? := by
    intro α said?
    cases said? <;> rfl
  exact congrArg Except.ok (by simp only [FindDraft.finish, hJoin])

/-! ## Conditions -/

/-- The operands of a test. -/
def Test.operands : Test → List Json
  | eq value | ne value | gt value | gte value | lt value | lte value => [value]
  | among values => values
  | isNull | isNotNull => []

/-- The value that writes a test: a bare value that the column is to equal, or an operator. -/
def Test.json : Test → Json
  | eq value => value
  | ne value => .object [("ne", value)]
  | gt value => .object [("gt", value)]
  | gte value => .object [("gte", value)]
  | lt value => .object [("lt", value)]
  | lte value => .object [("lte", value)]
  | among values => .object [("in", .list values)]
  | isNull => .null
  | isNotNull => .object [("ne", .null)]

/-- An operator is read if its operand is a scalar. -/
theorem Condition.ofJson_operator {name : String} {value : Json} {ops : Operators}
    (hName : name ≠ "in") (hWrite : Operators.empty.write name value = some ops)
    (hScalar : value.isCompound = false) :
    Condition.ofJson (.object [(name, value)]) = .ok (.operators ops) := by
  have hAdd : Operators.empty.add name value = .ok ops := by
    unfold Operators.add
    rw [if_neg hName, hWrite, hScalar]
    rfl
  rw [Condition.ofJson, Operators.ofFields, hAdd]
  rfl

/-- A test of scalars is read as its condition. -/
theorem Test.ofJson_json {test : Test}
    (hScalars : ∀ operand ∈ test.operands, operand.isCompound = false) :
    Condition.ofJson test.json = .ok test.condition := by
  have hOperator : ∀ {name value ops}, name ≠ "in" → Operators.empty.write name value = some ops →
      value ∈ test.operands → Condition.ofJson (.object [(name, value)]) = .ok (.operators ops) :=
    fun hName hWrite hMem => Condition.ofJson_operator hName hWrite (hScalars _ hMem)
  cases test with
  | eq value =>
      have hScalar : value.isCompound = false := hScalars value (List.mem_singleton_self _)
      cases value with
      | list items => cases hScalar
      | object fields => cases hScalar
      | _ => rfl
  | among values =>
      have hNone : values.any Json.isCompound = false := by
        rw [List.any_eq_false]
        exact fun value hValue => by rw [hScalars value hValue]; exact Bool.false_ne_true
      rw [json, Condition.ofJson, Operators.ofFields, Operators.add, if_pos rfl, hNone]
      rfl
  | isNull => rfl
  | isNotNull => rfl
  | ne value => exact hOperator (by decide) rfl (List.mem_singleton_self _)
  | gt value => exact hOperator (by decide) rfl (List.mem_singleton_self _)
  | gte value => exact hOperator (by decide) rfl (List.mem_singleton_self _)
  | lt value => exact hOperator (by decide) rfl (List.mem_singleton_self _)
  | lte value => exact hOperator (by decide) rfl (List.mem_singleton_self _)

/-- Tests of scalars are read as their conditions. -/
theorem Conditions.ofFields_tests {tests : List (String × Test)}
    (hScalars : ∀ entry ∈ tests, ∀ operand ∈ entry.2.operands, operand.isCompound = false) :
    Conditions.ofFields (tests.map (Prod.map id Test.json)) =
      .ok (tests.map (Prod.map id Test.condition)) := by
  induction tests with
  | nil => rfl
  | cons entry tests ih =>
      obtain ⟨hEntry, hRest⟩ := List.forall_mem_cons.mp hScalars
      obtain ⟨column, test⟩ := entry
      rw [List.map_cons, Prod.map_apply, Conditions.ofFields, Test.ofJson_json hEntry]
      dsimp only
      rw [ih hRest]
      rfl

/-- A test of scalars has no key twice. -/
theorem Test.keysDistinct_json {test : Test}
    (hScalars : ∀ operand ∈ test.operands, operand.isCompound = false) :
    test.json.KeysDistinct := by
  have hDistinct : ∀ operand ∈ test.operands, operand.KeysDistinct :=
    fun operand hOperand => Json.keysDistinct_of_scalar (hScalars operand hOperand)
  have hOperator : ∀ {name value}, value.KeysDistinct →
      (Json.object [(name, value)]).KeysDistinct := by
    intro name value hValue
    rw [Json.keysDistinct_object]
    exact ⟨List.nodup_singleton _, List.forall_mem_singleton.mpr hValue⟩
  cases test with
  | eq value => exact hDistinct value (List.mem_singleton_self _)
  | among values => exact hOperator (Json.allKeysDistinct_iff.mpr hDistinct)
  | isNull => trivial
  | isNotNull => exact hOperator trivial
  | ne value => exact hOperator (hDistinct value (List.mem_singleton_self _))
  | gt value => exact hOperator (hDistinct value (List.mem_singleton_self _))
  | gte value => exact hOperator (hDistinct value (List.mem_singleton_self _))
  | lt value => exact hOperator (hDistinct value (List.mem_singleton_self _))
  | lte value => exact hOperator (hDistinct value (List.mem_singleton_self _))

/-! ## Selections, orders and counts -/

/-- The name of a direction. -/
def Direction.name : Direction → String
  | .ascending => "asc"
  | .descending => "desc"

theorem orderOfFields_keys (keys : List (String × Direction)) :
    orderOfFields (keys.map (Prod.map id fun direction => .text direction.name)) = .ok keys := by
  induction keys with
  | nil => rfl
  | cons key keys ih =>
      obtain ⟨column, direction⟩ := key
      have hDirection : Direction.ofJson (.text direction.name) = .ok direction := by
        cases direction <;> rfl
      rw [List.map_cons, Prod.map_apply, orderOfFields, hDirection]
      dsimp only
      rw [ih]
      rfl

theorem flagFields_bools (flags : Fields Bool) :
    FromValue.flagFields (flags.map (Prod.map id Json.bool)) = .ok flags := by
  induction flags with
  | nil => rfl
  | cons flag flags ih =>
      rw [List.map_cons, Prod.map_apply, FromValue.flagFields, ih]
      rfl

/-- A selection is read as what it selects. -/
theorem flags_written (columns : List String) :
    FromValue.flags (Json.written (columns.map fun column => (column, .bool true))) =
      .ok (Fields.setAll [] (columns.map fun column => (column, true))) := by
  have hWritten : Fields.setAll [] (columns.map fun column => (column, Json.bool true)) =
      (Fields.setAll [] (columns.map fun column => (column, true))).map
        (Prod.map id Json.bool) := by
    rw [Fields.map_setAll, List.map_map]
    rfl
  rw [Json.written, hWritten]
  exact flagFields_bools _

/-- A count of 32 bits is read as it is. -/
theorem count_ofNat (count : UInt32) :
    FromValue.count (.ofNat count.toNat) = .ok count.toNat := by
  have hRange : 0 ≤ (count.toNat : Int) ∧ (count.toNat : Int) < Json.countLimit := by
    have hLt : count.toNat < 4294967296 := count.toNat_lt
    rw [Json.countLimit]
    omega
  rw [Json.ofNat, FromValue.count, Json.countOf, if_pos hRange, Int.toNat_natCast]

/-- What was said last is read as it was said. -/
theorem reads_last (counts : List UInt32) :
    Reads FromValue.count (counts.getLast?.map fun count => .ofNat count.toNat)
      (counts.getLast?.map UInt32.toNat) := by
  cases counts.getLast? with
  | none => exact .unsaid
  | some count => exact .said rfl (count_ofNat count)

/-! ## Steps -/

namespace SearchStep

/-- The parts of the object that writes some steps, given what is written under relations. -/
def parts (steps : List SearchStep) (asked : Fields Json) : List (String × Option Json) :=
  [ ("where", ifSaid (steps.filterMap filter?)
      (.written ((tests steps).map (Prod.map id Test.json))))
  , ("select", ifSaid (steps.filterMap columns?)
      (.written ((steps.filterMap columns?).flatten.map fun column => (column, .bool true))))
  , ("orderBy", ifSaid (steps.filterMap sortKey?)
      (.written ((steps.filterMap sortKey?).map
        (Prod.map id fun direction => .text direction.name))))
  , ("take", (steps.filterMap limit?).getLast?.map fun limit => .ofNat limit.toNat)
  , ("skip", (steps.filterMap offset?).getLast?.map fun offset => .ofNat offset.toNat)
  , ("include", ifSaid (steps.filterMap ask?) (.written asked)) ]

/-- The object that writes some steps, given what is written under relations. -/
def object (steps : List SearchStep) (asked : Fields Json) : Json :=
  .object (Fields.given (parts steps asked))

mutual

/-- What a step writes under a relation. -/
def askedJson? : SearchStep → Option (String × Json)
  | join relation steps => some (relation, object steps (askedJson steps))
  | joinAll relation => some (relation, .bool true)
  | _ => none

/-- What some steps write under their relations. -/
def askedJson : List SearchStep → Fields Json
  | [] => []
  | step :: steps => step.askedJson?.toList ++ askedJson steps

end

/-- The object that writes some steps. -/
def json (steps : List SearchStep) : Json := object steps (askedJson steps)

/-- Steps of one level that an object can say: no column is tested or sorted by twice, no relation
is asked for twice, and what is compared are scalars. -/
structure Writable (steps : List SearchStep) : Prop where
  tested : ((tests steps).map Prod.fst).Nodup
  sorted : ((steps.filterMap sortKey?).map Prod.fst).Nodup
  asked : (relations steps).Nodup
  scalars : ∀ entry ∈ tests steps, ∀ operand ∈ entry.2.operands, operand.isCompound = false

instance (steps : List SearchStep) : Decidable (Writable steps) :=
  decidable_of_iff
    (((tests steps).map Prod.fst).Nodup ∧ ((steps.filterMap sortKey?).map Prod.fst).Nodup ∧
      (relations steps).Nodup ∧
      ∀ entry ∈ tests steps, ∀ operand ∈ entry.2.operands, operand.isCompound = false)
    ⟨fun ⟨hTested, hSorted, hAsked, hScalars⟩ => ⟨hTested, hSorted, hAsked, hScalars⟩,
      fun ⟨hTested, hSorted, hAsked, hScalars⟩ => ⟨hTested, hSorted, hAsked, hScalars⟩⟩

theorem mem_askedJson {field : String × Json} {steps : List SearchStep} :
    field ∈ askedJson steps ↔ ∃ step ∈ steps, step.askedJson? = some field := by
  induction steps with
  | nil => simp [askedJson]
  | cons step steps ih =>
      rw [askedJson, List.mem_append, ih, Option.mem_toList, List.exists_mem_cons_iff]

theorem names_askedJson (steps : List SearchStep) :
    (askedJson steps).map Prod.fst = relations steps := by
  induction steps with
  | nil => rfl
  | cons step steps ih =>
      rw [askedJson, List.map_append, ih]
      cases step <;> rfl

/-- What is read under each relation, is read under all of them. -/
theorem mapM_askedJson {read : String × Json → Except String (String × Include)}
    {steps : List SearchStep}
    (hEach : ∀ step ∈ steps, step.askedJson?.toList.mapM read = .ok step.ask?.toList) :
    (askedJson steps).mapM read = .ok (steps.filterMap ask?) := by
  induction steps with
  | nil => rfl
  | cons step steps ih =>
      obtain ⟨hStep, hSteps⟩ := List.forall_mem_cons.mp hEach
      rw [askedJson, List.mapM_append, hStep, ih hSteps, List.filterMap_cons]
      cases step.ask? <;> rfl

section Reading

variable {steps : List SearchStep} (hWritable : Writable steps)

include hWritable

/-- The options under an object that writes some steps are those that the steps come to. -/
theorem record_object {convert : Fields Json → Except String Includes}
    (hConvert : steps.filterMap ask? ≠ [] →
      convert (askedJson steps) = .ok (steps.filterMap ask?)) :
    FromValue.record (findShapeWith FromValue convert) (json steps) =
      .ok (search steps).toOptions := by
  rw [toOptions_search]
  refine record_given (.ifSaid fun _ => ⟨rfl, ?_⟩) (.ifSaid fun _ => ⟨rfl, flags_written _⟩)
    (.ifSaid fun _ => ⟨rfl, ?_⟩) (reads_last _) (reads_last _) (.ifSaid fun hAsked => ⟨rfl, ?_⟩)
  · have hNodup : (((tests steps).map (Prod.map id Test.json)).map Prod.fst).Nodup := by
      rw [List.map_map]
      exact hWritable.tested
    have hRead : Conditions.read ((tests steps).map (Prod.map id Test.json)) =
        .ok ((tests steps).map (Prod.map id Test.condition)) := by
      rw [Conditions.read, Conditions.ofFields_tests hWritable.scalars]
      rfl
    rw [Json.written_of_nodup hNodup]
    exact refine_object hRead
  · have hNodup : (((steps.filterMap sortKey?).map
        (Prod.map id fun direction => Json.text direction.name)).map Prod.fst).Nodup := by
      rw [List.map_map]
      exact hWritable.sorted
    have hRead : readOrder ((steps.filterMap sortKey?).map
        (Prod.map id fun direction => .text direction.name)) = .ok (steps.filterMap sortKey?) := by
      rw [readOrder, orderOfFields_keys]
      rfl
    rw [Json.written_of_nodup hNodup]
    exact refine_object hRead
  · have hNodup : ((askedJson steps).map Prod.fst).Nodup := by
      rw [names_askedJson]
      exact hWritable.asked
    rw [Json.written_of_nodup hNodup]
    exact refine_object (hConvert hAsked)

/-- What is written under relations lies inside of the object around it. -/
theorem depth_askedJson_lt (hAsked : steps.filterMap ask? ≠ []) :
    Json.depthOfFields (askedJson steps) < (json steps).depth := by
  have hNodup : ((askedJson steps).map Prod.fst).Nodup := by
    rw [names_askedJson]
    exact hWritable.asked
  have hSaid : ifSaid (steps.filterMap ask?) (Json.written (askedJson steps)) =
      some (.object (askedJson steps)) := by
    rw [ifSaid, if_neg (by rwa [List.isEmpty_iff]), Json.written_of_nodup hNodup]
  have hPart : ("include", some (Json.object (askedJson steps))) ∈
      parts steps (askedJson steps) := by
    rw [parts, hSaid]
    simp
  have hInside := Json.depth_le_depthOfFields (Fields.mem_given.mpr hPart)
  rw [Json.depth] at hInside
  rw [json, object, Json.depth]
  omega

end Reading

/-- What is written under relations is read as what is asked of them, if there are levels enough. -/
theorem includesAt_askedJson {steps : List SearchStep}
    (hWritable : ∀ level ∈ levels steps, Writable level) :
    ∀ {depth : Nat}, Json.depthOfFields (askedJson steps) < depth →
      includesAt depth (askedJson steps) = .ok (steps.filterMap ask?) := by
  induction steps using SearchStep.induction with
  | steps steps ih =>
      intro depth hDepth
      obtain ⟨depth, rfl⟩ : ∃ below, depth = below + 1 := ⟨depth - 1, by omega⟩
      have hAll : includesAt (depth + 1) (askedJson steps) =
          (askedJson steps).mapM fun field => do
            return (field.1, ← includeOfJson (includesAt depth) field.1 field.2) := by
        cases askedJson steps <;> rfl
      rw [hAll]
      refine mapM_askedJson fun step hStep => ?_
      cases step with
      | join relation inner =>
          have hField : (relation, json inner) ∈ askedJson steps :=
            mem_askedJson.mpr ⟨_, hStep, rfl⟩
          have hLevels : ∀ level ∈ levels inner, Writable level :=
            fun level hLevel => hWritable level (levels_subset hStep hLevel)
          have hInner : Writable inner := hLevels inner List.mem_cons_self
          have hRead : FromValue.record (findShapeWith FromValue (includesAt depth)) (json inner) =
              .ok (search inner).toOptions := by
            refine record_object hInner fun hAsked => ih relation inner hStep hLevels ?_
            have hBelow : (json inner).depth ≤ Json.depthOfFields (askedJson steps) :=
              Json.depth_le_depthOfFields hField
            have hInside := depth_askedJson_lt hInner hAsked
            omega
          have hAsk : includeOfJson (includesAt depth) relation (json inner) =
              .ok (.nested (search inner).toOptions.own (search inner).toOptions.includes) := by
            have hObject : json inner =
                .object (Fields.given (parts inner (askedJson inner))) := rfl
            rw [hObject] at hRead ⊢
            unfold includeOfJson
            dsimp only [Source.record]
            rw [hRead]
          show [(relation, json inner)].mapM _ = _
          rw [List.mapM_cons, hAsk]
          rfl
      | joinAll relation => rfl
      | _ => rfl

section Writing

variable {steps : List SearchStep} (hWritable : ∀ level ∈ levels steps, Writable level)

include hWritable

/-- **Reading**: the object that writes some steps is read as the search that they build. -/
theorem decode_json : decode findShape (json steps) = .ok (search steps).toOptions := by
  have hRecord : FromValue.record (findShape FromValue) (json steps) =
      .ok (search steps).toOptions :=
    record_object (hWritable steps List.mem_cons_self) fun _ =>
      includesAt_askedJson hWritable (Nat.lt_succ_self _)
  exact congrArg (Except.mapError _) hRecord

example : json [.take 5, .filter (.test "name" .isNotNull), .take 2, .joinAll "printers"] =
    .object
      [("where", .object [("name", .object [("ne", .null)])]), ("take", .int 2),
        ("include", .object [("printers", .bool true)])] := rfl

/-- **Writing**: the object that writes some steps has no key twice, at any level. -/
theorem keysDistinct_json : (json steps).KeysDistinct := by
  induction steps using SearchStep.induction with
  | steps steps ih =>
      have hTests : ∀ entry ∈ (tests steps).map (Prod.map id Test.json), entry.2.KeysDistinct := by
        intro entry hEntry
        obtain ⟨test, hTest, rfl⟩ := List.mem_map.mp hEntry
        exact Test.keysDistinct_json ((hWritable steps List.mem_cons_self).scalars test hTest)
      have hAsked : ∀ field ∈ askedJson steps, field.2.KeysDistinct := by
        intro field hField
        obtain ⟨step, hStep, hWrites⟩ := mem_askedJson.mp hField
        cases step with
        | join relation inner =>
            cases hWrites
            exact ih relation inner hStep fun level hLevel =>
              hWritable level (levels_subset hStep hLevel)
        | joinAll relation =>
            cases hWrites
            trivial
        | _ => cases hWrites
      have hNames : ((parts steps (askedJson steps)).map Prod.fst).Nodup := by
        show ["where", "select", "orderBy", "take", "skip", "include"].Nodup
        decide
      rw [json, object, Json.keysDistinct_object]
      refine ⟨hNames.sublist (Fields.names_given_sublist _), fun field hField => ?_⟩
      have hPart := Fields.mem_given.mp hField
      simp only [parts, List.mem_cons, Prod.mk.injEq, List.not_mem_nil, or_false] at hPart
      rcases hPart with ⟨-, hSaid⟩ | ⟨-, hSaid⟩ | ⟨-, hSaid⟩ | ⟨-, hSaid⟩ | ⟨-, hSaid⟩ | ⟨-, hSaid⟩
      · exact eq_of_ifSaid hSaid.symm ▸ Json.keysDistinct_written hTests
      · refine eq_of_ifSaid hSaid.symm ▸ Json.keysDistinct_written fun entry hEntry => ?_
        obtain ⟨column, -, rfl⟩ := List.mem_map.mp hEntry
        trivial
      · refine eq_of_ifSaid hSaid.symm ▸ Json.keysDistinct_written fun entry hEntry => ?_
        obtain ⟨key, -, rfl⟩ := List.mem_map.mp hEntry
        trivial
      · obtain ⟨limit, -, hValue⟩ := Option.map_eq_some_iff.mp hSaid.symm
        exact hValue ▸ trivial
      · obtain ⟨offset, -, hValue⟩ := Option.map_eq_some_iff.mp hSaid.symm
        exact hValue ▸ trivial
      · exact eq_of_ifSaid hSaid.symm ▸ Json.keysDistinct_written hAsked

end Writing

end SearchStep

end ModelStore
