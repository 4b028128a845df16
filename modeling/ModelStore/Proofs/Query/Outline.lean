import ModelStore.Proofs.Json.Outline

/-!
# Outlines of options

The outline of the options of a call leaves out the values: the operands of its conditions, except
for whether they are null, and the values of its payloads.  All else that the options say is kept:
flags, directions, counts, and which relations are asked for, at every depth.

Options are read from their outline just if they are read at all, and then as the outlines of what
they are read as.

## Main definitions

* `outlineOption`: the outline of an option.
* `Conditions.outline`, `FindOptions.outline` and so on: the outlines of what is read.

## Main results

* `commutes_includesOfFields`: nested includes are read from their outline.
* `commutes_find`: a search is read from its outline.
-/

namespace ModelStore

open Json (FromValue Commutes Cause outlineItems outlineFields)

/-! ## Outlines of inputs -/

/-- The scalars in an option that say more than that there is a value. -/
def kept (option : String) : Json → Bool
  | .null => ["where", "select", "orderBy", "take", "skip", "include"].contains option
  | .bool _ => ["select", "include"].contains option
  | .int _ => ["take", "skip"].contains option
  | .text s => option == "orderBy" && directionNames.contains s
  | _ => false

mutual

/-- The outline of the options of a search. -/
def outlineOptions : List (String × Json) → List (String × Json)
  | [] => []
  | (name, value) :: rest =>
    (name, if name = "include" then outlineIncludes value else value.outline (kept name)) ::
      outlineOptions rest

/-- The outline of the relations that are asked for. -/
def outlineIncludes : Json → Json
  | .object fields => .object (outlineAsks fields)
  | value => value.outline (kept "include")

/-- The outline of what is asked of each relation. -/
def outlineAsks : List (String × Json) → List (String × Json)
  | [] => []
  | (relation, ask) :: rest => (relation, outlineAsk ask) :: outlineAsks rest

/-- The outline of what is asked of a relation. -/
def outlineAsk : Json → Json
  | .object fields => .object (outlineOptions fields)
  | value => value.outline (kept "include")

end

/-- The outline of an option. -/
def outlineOption (name : String) (value : Json) : Json :=
  if name = "include" then outlineIncludes value else value.outline (kept name)

theorem outlineOptions_eq (fields : Fields Json) :
    outlineOptions fields = Json.changeFields outlineOption fields := by
  induction fields with
  | nil => rw [outlineOptions]; rfl
  | cons entry fields ih =>
      rw [outlineOptions, ih]
      rfl

theorem outlineAsks_eq_map (fields : Fields Json) :
    outlineAsks fields = fields.map fun entry => (entry.1, outlineAsk entry.2) := by
  induction fields with
  | nil => rw [outlineAsks, List.map_nil]
  | cons entry fields ih => rw [outlineAsks, ih, List.map_cons]

mutual

theorem depthOfFields_outlineOptions : ∀ fields : List (String × Json),
    Json.depthOfFields (outlineOptions fields) = Json.depthOfFields fields
  | [] => by rw [outlineOptions]
  | (name, value) :: rest => by
      rw [outlineOptions, Json.depthOfFields, Json.depthOfFields,
        depthOfFields_outlineOptions rest]
      split
      · rw [depth_outlineIncludes value]
      · rw [Json.depth_outline]

theorem depth_outlineIncludes : ∀ value : Json, (outlineIncludes value).depth = value.depth
  | .object fields => by
      rw [outlineIncludes, Json.depth, Json.depth, depthOfFields_outlineAsks fields]
  | .null | .bool _ | .int _ | .real _ | .text _ | .list _ => by
      rw [outlineIncludes, Json.depth_outline]
      all_goals simp

/-- The outlines of what is asked of some relations are as deep as that. -/
theorem depthOfFields_outlineAsks : ∀ fields : List (String × Json),
    Json.depthOfFields (outlineAsks fields) = Json.depthOfFields fields
  | [] => by rw [outlineAsks]
  | (relation, ask) :: rest => by
      rw [outlineAsks, Json.depthOfFields, Json.depthOfFields, depth_outlineAsk ask,
        depthOfFields_outlineAsks rest]

theorem depth_outlineAsk : ∀ ask : Json, (outlineAsk ask).depth = ask.depth
  | .object fields => by
      rw [outlineAsk, Json.depth, Json.depth, depthOfFields_outlineOptions fields]
  | .null | .bool _ | .int _ | .real _ | .text _ | .list _ => by
      rw [outlineAsk, Json.depth_outline]
      all_goals simp

end

/-! ## Outlines of options -/

/-- The outline of an operand of a condition. -/
def outlineOperand (operand : Json) : Json := operand.outline (kept "where")

/-- The outlines of the operators on a column. -/
def Operators.outline (ops : Operators) : Operators :=
  { eq := ops.eq.map outlineOperand
    ne := ops.ne.map outlineOperand
    gt := ops.gt.map outlineOperand
    gte := ops.gte.map outlineOperand
    lt := ops.lt.map outlineOperand
    lte := ops.lte.map outlineOperand
    among := ops.among.map outlineItems }

/-- The outline of what is asked of a column. -/
def Condition.outline : Condition → Condition
  | .equals value => .equals (outlineOperand value)
  | .operators ops => .operators ops.outline

/-- The outline of conditions. -/
def Conditions.outline (conditions : Conditions) : Conditions :=
  conditions.map fun entry => (entry.1, entry.2.outline)

/-- The outline of what a search says about its own table. -/
def SearchOptions.outline (own : SearchOptions) : SearchOptions :=
  { own with filter := own.filter.map Conditions.outline }

mutual

/-- The outline of what is asked of a relation. -/
def Include.outline : Include → Include
  | .flag value => .flag value
  | .nested own none => .nested own.outline none
  | .nested own (some includes) => .nested own.outline (some (Include.outlineAll includes))

/-- The outlines of what is asked of some relations. -/
def Include.outlineAll : List (String × Include) → List (String × Include)
  | [] => []
  | (relation, ask) :: rest => (relation, Include.outline ask) :: Include.outlineAll rest

end

/-- The outline of a search. -/
def FindOptions.outline (options : FindOptions) : FindOptions :=
  ⟨options.own.outline, options.includes.map Include.outlineAll⟩

/-- The outline of a payload. -/
def Payload.outline (data : Payload) : Payload := outlineFields (fun _ => false) data

theorem Include.outline_nested (own : SearchOptions) (includes : Option Includes) :
    (Include.nested own includes).outline =
      .nested own.outline (includes.map Include.outlineAll) := by
  cases includes <;> rw [Include.outline] <;> rfl

theorem Include.outlineAll_eq_map (includes : Includes) :
    Include.outlineAll includes = includes.map fun entry => (entry.1, entry.2.outline) := by
  induction includes with
  | nil => rw [Include.outlineAll, List.map_nil]
  | cons entry includes ih => rw [Include.outlineAll, ih, List.map_cons]

/-! ## Conditions -/

/-- An operator is written for the outline of an operand as it is for the operand. -/
theorem Operators.write_outline (ops : Operators) (name : String) (operand : Json) :
    ops.outline.write name (outlineOperand operand) = (ops.write name operand).map outline := by
  unfold Operators.write
  split <;> rfl

theorem any_isCompound_outlineItems (items : List Json) :
    (outlineItems items).any Json.isCompound = items.any Json.isCompound := by
  rw [Json.outlineItems_eq_map, List.any_map]
  congr 1
  funext item
  exact Json.isCompound_outline _ item

theorem isCompound_outlineOperand (operand : Json) :
    (outlineOperand operand).isCompound = operand.isCompound :=
  Json.isCompound_outline _ operand

/-- Membership takes a list only. -/
theorem Operators.add_in_scalar (ops : Operators) {operand : Json}
    (hScalar : operand.isCompound = false) : ops.add "in" operand = .error .notAList := by
  cases operand with
  | list items => cases hScalar
  | _ => rfl

/-- An operator is added with the outline of an operand just if it is with the operand. -/
theorem Operators.add_outline (ops : Operators) (name : String) (operand : Json) :
    (ops.outline.add name (outlineOperand operand)).toOption =
      (ops.add name operand).toOption.map outline := by
  by_cases hName : name = "in"
  · subst hName
    cases operand using Json.casesScalar with
    | list items =>
        rw [outlineOperand, Json.outline_list, add, add, if_pos rfl, if_pos rfl,
          any_isCompound_outlineItems]
        split <;> rfl
    | object fields => rw [outlineOperand, Json.outline_object]; rfl
    | scalar operand hScalar =>
        have hOutline := (isCompound_outlineOperand operand).trans hScalar
        rw [add_in_scalar _ hOutline, add_in_scalar ops hScalar]
        rfl
  · unfold add
    rw [if_neg hName, if_neg hName, write_outline, isCompound_outlineOperand]
    cases ops.write name operand with
    | none => rfl
    | some written =>
        dsimp only [Option.map_some]
        split <;> rfl

/-- The operators of an object are read from its outline. -/
theorem Operators.ofFields_outline (fields : Fields Json) (ops : Operators) :
    (Operators.ofFields (outlineFields (kept "where") fields) ops.outline).toOption =
      (Operators.ofFields fields ops).toOption.map outline := by
  induction fields generalizing ops with
  | nil => rw [outlineFields]; rfl
  | cons entry fields ih =>
      obtain ⟨name, operand⟩ := entry
      rw [outlineFields, Operators.ofFields, Operators.ofFields]
      exact Json.toOption_bind (ops.add_outline name operand) ih

theorem Condition.ofJson_scalar {value : Json} (hScalar : value.isCompound = false) :
    Condition.ofJson value = .ok (.equals value) := by
  cases value with
  | list items => cases hScalar
  | object fields => cases hScalar
  | _ => rfl

/-- A condition is read from the outline of a value. -/
theorem commutes_condition : Commutes Condition.ofJson outlineOperand Condition.outline := by
  intro value
  cases value using Json.casesScalar with
  | list items => rw [outlineOperand, Json.outline_list]; rfl
  | object fields =>
      have hFields : Commutes (fun fields => Operators.ofFields fields .empty)
          (outlineFields (kept "where")) Operators.outline :=
        fun fields => Operators.ofFields_outline fields .empty
      have hOperators : Commutes
          (fun fields => Condition.operators <$> Operators.ofFields fields .empty)
          (outlineFields (kept "where")) Condition.outline := hFields.map fun _ => rfl
      rw [outlineOperand, Json.outline_object]
      exact hOperators fields
  | scalar value hScalar =>
      have hOutline := (isCompound_outlineOperand value).trans hScalar
      rw [Condition.ofJson_scalar hOutline, Condition.ofJson_scalar hScalar]
      rfl

/-- Conditions are read from the outline of an object. -/
theorem commutes_ofFields :
    Commutes Conditions.ofFields (outlineFields (kept "where")) Conditions.outline := by
  intro fields
  induction fields with
  | nil => rw [outlineFields]; rfl
  | cons entry fields ih =>
      obtain ⟨column, value⟩ := entry
      rw [outlineFields, Conditions.ofFields, Conditions.ofFields]
      rcases Json.cases_of_toOption (commutes_condition value) with
        ⟨e, e', hChanged, hValue⟩ | ⟨condition, hChanged, hValue⟩
      · rw [outlineOperand] at hChanged
        rw [hChanged, hValue]
        rfl
      · rw [outlineOperand] at hChanged
        rw [hChanged, hValue]
        refine Json.toOption_bind ih fun conditions => rfl

/-- Conditions are read from their outline. -/
theorem commutes_conditions :
    Commutes Conditions.read (outlineFields (kept "where")) Conditions.outline :=
  commutes_ofFields.mapError _

/-! ## Flags, counts and directions -/

/-- A scalar and its outline are read as no object. -/
theorem commutes_object (keep : Json → Bool) :
    Commutes FromValue.object (Json.outline keep) (outlineFields keep) := by
  intro value
  cases value with
  | object fields => rw [Json.outline_object]; rfl
  | list items => rw [Json.outline_list]; rfl
  | _ => rw [Json.outline_scalar rfl]; split <;> rfl

/-- Flags are kept, and nothing else is read as a flag. -/
theorem commutes_flag : Commutes FromValue.flag (Json.outline (kept "select")) id := by
  intro value
  cases value with
  | object fields => rw [Json.outline_object]; rfl
  | list items => rw [Json.outline_list]; rfl
  | bool b => rfl
  | _ => rw [Json.outline_scalar rfl]; split <;> rfl

theorem commutes_flagFields :
    Commutes FromValue.flagFields (outlineFields (kept "select")) id := by
  intro fields
  induction fields with
  | nil => rw [outlineFields]; rfl
  | cons entry fields ih =>
      obtain ⟨name, value⟩ := entry
      rw [outlineFields, FromValue.flagFields, FromValue.flagFields]
      exact Json.toOption_bind (commutes_flag value) fun b => Json.toOption_bind ih fun flags => rfl

theorem commutes_flags : Commutes FromValue.flags (Json.outline (kept "select")) id := by
  intro value
  cases value with
  | object fields => rw [Json.outline_object]; exact commutes_flagFields fields
  | list items => rw [Json.outline_list]; rfl
  | _ => rw [Json.outline_scalar rfl]; split <;> rfl

/-- Integers are kept, and nothing else is read as a count. -/
theorem commutes_count {keep : Json → Bool} (hKeep : ∀ i, keep (.int i) = true) :
    Commutes FromValue.count (Json.outline keep) id := by
  intro value
  cases value with
  | object fields => rw [Json.outline_object]; rfl
  | list items => rw [Json.outline_list]; rfl
  | int i =>
      rw [Json.outline_scalar rfl, if_pos (hKeep i), Option.map_id]
      rfl
  | _ => rw [Json.outline_scalar rfl]; split <;> rfl

/-- The names of directions are kept, and no other text is read as one. -/
theorem commutes_choice :
    Commutes (FromValue.choice directionNames) (Json.outline (kept "orderBy")) id := by
  intro value
  cases value with
  | object fields =>
      rw [Json.outline_object]
      match fields with
      | [] => rw [outlineFields]; rfl
      | [(name, value)] =>
          rw [outlineFields, outlineFields]
          have hVariant : (Json.variantOf directionNames name).toOption =
              (Json.variantOf directionNames name).toOption.map id := by
            rw [Option.map_id]
            rfl
          refine Json.toOption_bind hVariant fun variant => ?_
          cases hValue : value.isNull with
          | true =>
              rw [Json.isNull_iff.mp hValue]
              rfl
          | false =>
              have hNull : kept "orderBy" .null = true := rfl
              have hChanged := Json.isNull_outline hNull value
              rw [hValue] at hChanged
              cases hOutline : value.outline (kept "orderBy") with
              | null => rw [hOutline] at hChanged; cases hChanged
              | _ =>
                  cases value with
                  | null => cases hValue
                  | _ => rfl
      | first :: second :: rest => rw [outlineFields, outlineFields]; rfl
  | list items => rw [Json.outline_list]; rfl
  | text name =>
      rw [Json.outline_scalar rfl]
      split
      · rw [Option.map_id]
        rfl
      · rename_i hForeign
        have hName : directionNames.contains name = false := by
          simpa [kept] using hForeign
        show (Json.variantOf directionNames "").toOption =
          (Json.variantOf directionNames name).toOption.map id
        rw [Json.variantOf, Json.variantOf, hName]
        rfl
  | _ => rw [Json.outline_scalar rfl]; split <;> rfl

theorem commutes_direction :
    Commutes Direction.ofJson (Json.outline (kept "orderBy")) id := by
  have hShape : Commutes (directionShape FromValue) (Json.outline (kept "orderBy")) id :=
    commutes_choice.map fun _ => rfl
  intro value
  have hNull : kept "orderBy" .null = true := rfl
  have hChanged := Json.isNull_outline hNull value
  have hRead : ∀ {input : Json}, input.isNull = false →
      Direction.ofJson input = directionShape FromValue input := by
    intro input hInput
    cases input with
    | null => cases hInput
    | _ => rfl
  cases hValue : value.isNull with
  | true =>
      rw [Json.isNull_iff.mp hValue]
      rfl
  | false =>
      rw [hRead hValue, hRead (hChanged.trans hValue)]
      exact hShape value

/-- Sort keys are read from their outline as they are. -/
theorem commutes_order : Commutes readOrder (outlineFields (kept "orderBy")) id := by
  refine Commutes.mapError (fun fields => ?_) _
  induction fields with
  | nil => rw [outlineFields]; rfl
  | cons entry fields ih =>
      obtain ⟨column, value⟩ := entry
      rw [outlineFields, orderOfFields, orderOfFields]
      rcases Json.cases_of_toOption (commutes_direction value) with
        ⟨e, e', hChanged, hValue⟩ | ⟨direction, hChanged, hValue⟩
      · rw [hChanged, hValue]
        rfl
      · rw [hChanged, hValue]
        exact Json.toOption_bind ih fun keys => rfl

/-! ## Searches -/

/-- The outline of a search, as far as it has been read. -/
def FindDraft.outline (draft : FindDraft) : FindDraft :=
  { draft with
    filter := draft.filter.map (Option.map Conditions.outline)
    includes := draft.includes.map (Option.map Include.outlineAll) }

theorem FindDraft.finish_outline (draft : FindDraft) :
    draft.outline.finish = draft.finish.outline := by
  simp only [finish, outline, FindOptions.outline, SearchOptions.outline,
    Option.join_map_eq_map_join]

/-- A field is read from the outline of its option. -/
theorem fieldCommutes {δ β : Type} {draft : δ → δ} {result : β → β} {name : String}
    {required : Bool} {filled : δ → Bool} {read : FromValue β} {write : β → δ → δ}
    (hRead : Commutes read (outlineOption name) result)
    (hFilled : ∀ d, filled (draft d) = filled d)
    (hWrite : ∀ value d, write (result value) (draft d) = draft (write value d)) :
    Json.FieldCommutes outlineOption draft (fieldOf name required filled read write) := by
  refine ⟨hFilled, fun value d => ?_⟩
  show ((write <$> read (outlineOption name value)).toOption.map fun w => w (draft d)) =
    (write <$> read value).toOption.map fun w => draft (w d)
  rcases Json.cases_of_toOption (hRead value) with
    ⟨e, e', hChanged, hValue⟩ | ⟨result, hChanged, hValue⟩
  · rw [hChanged, hValue]
    rfl
  · rw [hChanged, hValue]
    exact congrArg some (hWrite result d)

/-- The outline of an option other than the relations that are asked for. -/
theorem outlineOption_eq {name : String} (hName : name ≠ "include") :
    outlineOption name = Json.outline (kept name) :=
  funext fun _ => if_neg hName

theorem isNull_outlineIncludes (value : Json) :
    (outlineIncludes value).isNull = value.isNull := by
  have hNull : kept "include" .null = true := rfl
  cases value with
  | object fields => rw [outlineIncludes]; rfl
  | _ =>
      rw [outlineIncludes, Json.isNull_outline hNull]
      all_goals simp

/-- Conditions that may be left out are read from their outline. -/
theorem commutes_filter :
    Commutes (FromValue.optional (conditionsShape FromValue)) (outlineOption "where")
      (Option.map Conditions.outline) := by
  rw [outlineOption_eq (by decide)]
  exact ((commutes_object _).refine commutes_conditions).optional (Json.isNull_outline rfl)

section Includes

variable {includes : Fields Json → Except String Includes}
  (hIncludes : Commutes includes outlineAsks Include.outlineAll)

include hIncludes

/-- The relations that are asked for are read from their outline if those below are. -/
theorem commutes_includes :
    Commutes (FromValue.optional (FromValue.refine FromValue.object includes))
      (outlineOption "include") (Option.map Include.outlineAll) := by
  have hObject : Commutes FromValue.object outlineIncludes outlineAsks := by
    intro value
    cases value with
    | object fields => rw [outlineIncludes]; rfl
    | list items => rw [outlineIncludes, Json.outline]; rfl; simp
    | _ =>
        rw [outlineIncludes, Json.outline_scalar rfl]
        · split <;> rfl
        · simp
  exact (hObject.refine hIncludes).optional isNull_outlineIncludes

/-- A search is read from its outline if its includes are. -/
theorem commutes_findShapeWith :
    Commutes (FromValue.record (findShapeWith FromValue includes))
      (Json.changeRecord outlineOption (findShapeWith FromValue includes).names)
      FindOptions.outline := by
  have hNull {name : String} (hKept : kept name .null = true) :
      ∀ value : Json, (value.outline (kept name)).isNull = value.isNull :=
    Json.isNull_outline hKept
  have hSelect : Commutes (FromValue.optional FromValue.flags) (outlineOption "select") id := by
    rw [outlineOption_eq (by decide), ← Option.map_id]
    exact commutes_flags.optional (hNull rfl)
  have hOrder : Commutes (FromValue.optional (orderShape FromValue)) (outlineOption "orderBy")
      id := by
    rw [outlineOption_eq (by decide), ← Option.map_id]
    exact ((commutes_object _).refine commutes_order).optional (hNull rfl)
  have hTake : Commutes (FromValue.optional FromValue.count) (outlineOption "take") id := by
    rw [outlineOption_eq (by decide), ← Option.map_id]
    exact (commutes_count fun _ => rfl).optional (hNull rfl)
  have hSkip : Commutes (FromValue.optional FromValue.count) (outlineOption "skip") id := by
    rw [outlineOption_eq (by decide), ← Option.map_id]
    exact (commutes_count fun _ => rfl).optional (hNull rfl)
  have hFields : ∀ field ∈ (findShapeWith FromValue includes).fields,
      Json.FieldCommutes outlineOption FindDraft.outline field := by
    simp only [findShapeWith, List.forall_mem_cons]
    exact
      ⟨fieldCommutes commutes_filter (fun _ => Option.isSome_map) fun _ _ => rfl,
        fieldCommutes hSelect (fun _ => rfl) fun _ _ => rfl,
        fieldCommutes hOrder (fun _ => rfl) fun _ _ => rfl,
        fieldCommutes hTake (fun _ => rfl) fun _ _ => rfl,
        fieldCommutes hSkip (fun _ => rfl) fun _ _ => rfl,
        fieldCommutes (commutes_includes hIncludes) (fun _ => Option.isSome_map) fun _ _ => rfl,
        by simp⟩
  refine Commutes.record hFields rfl fun draft => ?_
  show some draft.outline.finish = some draft.finish.outline
  rw [draft.finish_outline]

/-- What is asked of a relation is read from its outline if the includes below are. -/
theorem commutes_includeOfJson (relation : String) :
    Commutes (includeOfJson includes relation) outlineAsk Include.outline := by
  intro ask
  cases ask with
  | object fields =>
      have hRead := commutes_findShapeWith hIncludes (.object fields)
      rw [Json.changeRecord, ← outlineOptions_eq] at hRead
      rw [outlineAsk]
      rw [includeOfJson, includeOfJson]
      rcases Json.cases_of_toOption hRead with
        ⟨e, e', hChanged, hValue⟩ | ⟨options, hChanged, hValue⟩ <;>
        change (Json.Source.record (findShapeWith FromValue includes) : FromValue FindOptions) _ = _
          at hChanged hValue
      · rw [hChanged, hValue]
        rfl
      · rw [hChanged, hValue]
        exact congrArg some (Include.outline_nested _ _).symm
  | list items => rw [outlineAsk, Json.outline]; rfl; simp
  | null => rw [outlineAsk, Json.outline_scalar rfl]; rfl; simp
  | bool b => rw [outlineAsk, Json.outline_scalar rfl]; rfl; simp
  | _ =>
      rw [outlineAsk, Json.outline_scalar rfl]
      · split <;> rfl
      · simp

end Includes

/-- Nested includes are read from their outline, at any depth. -/
theorem commutes_includesAt (levels : Nat) :
    Commutes (includesAt levels) outlineAsks Include.outlineAll := by
  induction levels with
  | zero =>
      intro fields
      cases fields with
      | nil => rw [outlineAsks]; rfl
      | cons entry fields => rw [outlineAsks]; rfl
  | succ levels ih =>
      have hEntry : Commutes
          (fun entry : String × Json => do
            return (entry.1, ← includeOfJson (includesAt levels) entry.1 entry.2))
          (fun entry => (entry.1, outlineAsk entry.2)) fun entry => (entry.1, entry.2.outline) :=
        fun entry => Json.toOption_bind (commutes_includeOfJson ih entry.1 entry.2) fun ask => rfl
      intro fields
      rw [outlineAsks_eq_map, funext Include.outlineAll_eq_map]
      cases fields with
      | nil => rfl
      | cons entry fields => exact hEntry.mapM (entry :: fields)

/-- **Includes are read from their outline**, which is as deep as they are. -/
theorem commutes_includesOfFields :
    Commutes includesOfFields outlineAsks Include.outlineAll := by
  intro fields
  rw [includesOfFields, includesOfFields, depthOfFields_outlineAsks]
  exact commutes_includesAt _ fields

/-- **A search is read from its outline.** -/
theorem commutes_find :
    Commutes (FromValue.record (findShape FromValue))
      (Json.changeRecord outlineOption (findShape FromValue).names) FindOptions.outline :=
  commutes_findShapeWith commutes_includesOfFields

end ModelStore
