import ModelStore.Proofs.Query.Encoding
import ModelStore.Proofs.Query.Outline

/-!
# What can be said of rows and of their order

Conditions are written as an object: under each column a bare value, or the object of some
operators.  An order is written as an object too, with a direction under each column.  It is told
here which objects are understood, what each of them is understood as, and what is told of any
other: the first column whose value cannot be understood, and why.

What is understood as conditions is no more than what is documented.  A direction has a further
form: its name may stand as the key of a null.

## Main definitions

* `ReadsEach`: what comes of reading the values of an object one after another.
* `OperandFits`, `ConditionFits`: operands of operators, and values that are conditions.
* `OperandRefused`, `ConditionRefused`: why others are not.
* `Condition.Means`, `Direction.Means`: what a value is understood as.

## Main results

* `conditions_grammar`: the objects that are conditions, and what is told of others.
* `order_grammar`: the objects that are orders, and what is told of others.
-/

namespace ModelStore

open Json (Cause FromValue)

/-! ## Outcomes -/

/-- An outcome is there just if something is accepted; else it is told why it is not. -/
def Verdict {ε α : Type} (accepted : Prop) (refused : ε → Prop) : Except ε α → Prop
  | .ok _ => accepted
  | .error reason => refused reason ∧ ¬accepted

theorem Verdict.exists_ok_iff {ε α : Type} {accepted : Prop} {refused : ε → Prop}
    {outcome : Except ε α} (hVerdict : Verdict accepted refused outcome) :
    (∃ result, outcome = .ok result) ↔ accepted := by
  cases outcome with
  | ok result => exact iff_of_true ⟨result, rfl⟩ hVerdict
  | error reason => exact iff_of_false nofun hVerdict.2

/-! ## Values under columns -/

section Reading

variable {β ε φ ψ : Type} {read : Json → Except ε β} {fault : String → ε → φ} {fields : Fields Json}

/-- What comes of reading the values of an object one after another: what each of them is read as,
under its column, or what is wrong with the first that is refused. -/
inductive ReadsEach (read : Json → Except ε β) (fault : String → ε → φ) (fields : Fields Json) :
    Except φ (List (String × β)) → Prop
  | all {results : List (String × β)} (hAll : List.Forall₂ (fun field result =>
      field.1 = result.1 ∧ read field.2 = .ok result.2) fields results) :
    ReadsEach read fault fields (.ok results)
  | refused {before after : Fields Json} {column : String} {value : Json} {reason : ε}
      (hFields : fields = before ++ (column, value) :: after)
      (hBefore : ∀ field ∈ before, ∃ result, read field.2 = .ok result)
      (hReason : read value = .error reason) :
    ReadsEach read fault fields (.error (fault column reason))

/-- A value that is read before the others. -/
theorem ReadsEach.cons {outcome : Except φ (List (String × β))}
    (hRest : ReadsEach read fault fields outcome) {column : String} {value : Json} {result : β}
    (hRead : read value = .ok result) :
    ReadsEach read fault ((column, value) :: fields)
      (do return (column, result) :: (← outcome)) := by
  cases hRest with
  | all hAll => exact .all (.cons ⟨rfl, hRead⟩ hAll)
  | @refused before after other refused reason hFields hBefore hReason =>
      have hCons : (column, value) :: fields =
          ((column, value) :: before) ++ (other, refused) :: after := congrArg _ hFields
      exact .refused hCons (List.forall_mem_cons.mpr ⟨⟨result, hRead⟩, hBefore⟩) hReason

/-- What reads the values of an object one after another. -/
theorem ReadsEach.of_steps (each : Fields Json → Except φ (List (String × β)))
    (hNil : each [] = .ok [])
    (hCons : ∀ column value rest, each ((column, value) :: rest) =
      match read value with
      | .error reason => .error (fault column reason)
      | .ok result => do return (column, result) :: (← each rest)) (fields : Fields Json) :
    ReadsEach read fault fields (each fields) := by
  induction fields with
  | nil => exact hNil ▸ .all .nil
  | cons field fields ih =>
      obtain ⟨column, value⟩ := field
      rw [hCons]
      cases hRead : read value with
      | error reason => exact .refused (List.nil_append _).symm nofun hRead
      | ok result => exact ih.cons hRead

theorem ReadsEach.mapError {outcome : Except φ (List (String × β))}
    (hReads : ReadsEach read fault fields outcome) (tell : φ → ψ) :
    ReadsEach read (fun column reason => tell (fault column reason)) fields
      (outcome.mapError tell) := by
  cases hReads with
  | all hAll => exact .all hAll
  | refused hFields hBefore hReason => exact .refused hFields hBefore hReason

/-- Values that are read one after another are read so from their object. -/
theorem ReadsEach.of_object {convert : Fields Json → Except String (List (String × β))}
    {tell : String → ε → String} (hReads : ReadsEach read tell fields (convert fields)) :
    ReadsEach read (fun column reason => Cause.refused (tell column reason)) fields
      (FromValue.refine FromValue.object convert (.object fields)) := by
  have hObject : FromValue.refine FromValue.object convert (.object fields) =
      (convert fields).mapError .refused := by
    have hFields : FromValue.object (.object fields) = .ok fields := rfl
    rw [FromValue.refine, hFields]
    dsimp only [bind, Except.bind]
    cases convert fields <;> rfl
  rw [hObject]
  exact hReads.mapError Cause.refused

/-- All is read just if each value is. -/
theorem ReadsEach.exists_ok_iff {outcome : Except φ (List (String × β))}
    (hReads : ReadsEach read fault fields outcome) :
    (∃ results, outcome = .ok results) ↔ ∀ field ∈ fields, ∃ result, read field.2 = .ok result := by
  cases hReads with
  | @all results hAll =>
      have hEach : List.Forall₂ (fun field _ => (∃ result, read field.2 = .ok result) ∧ True)
          fields results := hAll.imp fun _ result hRead => ⟨⟨result.2, hRead.2⟩, trivial⟩
      exact iff_of_true ⟨results, rfl⟩ ((List.forall₂_and_left _ _).mp hEach).1
  | refused hFields hBefore hReason =>
      refine iff_of_false nofun fun hEach => ?_
      obtain ⟨result, hRead⟩ := hEach (_, _) (hFields ▸ List.mem_append_right _ List.mem_cons_self)
      rw [hReason] at hRead
      cases hRead

end Reading

/-! ## Conditions -/

/-- The names of the operators with one operand. -/
def Operators.names : List String := ["eq", "ne", "gt", "gte", "lt", "lte"]

/-- The operand is right for the operator of a name. -/
inductive OperandFits : String → Json → Prop
  | one {name : String} {operand : Json} (hName : name ∈ Operators.names)
      (hScalar : operand.isCompound = false) : OperandFits name operand
  | among {items : List Json} (hScalars : ∀ item ∈ items, item.isCompound = false) :
    OperandFits "in" (.list items)

/-- Why an operand is not right for the operator of a name. -/
inductive OperandRefused : String → Json → ConditionError → Prop
  | notAList {operand : Json} (hOperand : ∀ items, operand ≠ .list items) :
    OperandRefused "in" operand .notAList
  | compoundMember {items : List Json} {item : Json} (hItem : item ∈ items)
      (hCompound : item.isCompound = true) : OperandRefused "in" (.list items) .compoundMember
  | unknown {name : String} {operand : Json} (hName : name ∉ Operators.names) (hIn : name ≠ "in") :
    OperandRefused name operand (.unknownOperator name)
  | compound {name : String} {operand : Json} (hName : name ∈ Operators.names)
      (hCompound : operand.isCompound = true) :
    OperandRefused name operand (.compoundOperand name)

/-- The value is a condition: a bare value, or operators with operands that are right for them. -/
inductive ConditionFits : Json → Prop
  | bare {value : Json} (hScalar : value.isCompound = false) : ConditionFits value
  | operators {fields : Fields Json} (hFields : ∀ field ∈ fields, OperandFits field.1 field.2) :
    ConditionFits (.object fields)

/-- Why a value is no condition: it is a list, or the first operand that is not right. -/
inductive ConditionRefused : Json → ConditionError → Prop
  | list (items : List Json) : ConditionRefused (.list items) .listOutsideIn
  | operator (before : Fields Json) {after : Fields Json} {name : String} {operand : Json}
      {reason : ConditionError} (hBefore : ∀ field ∈ before, OperandFits field.1 field.2)
      (hOperand : OperandRefused name operand reason) :
    ConditionRefused (.object (before ++ (name, operand) :: after)) reason

/-- The condition that a value means: that the column equals it, or the operators that it names with
the operands that it gives them, and no others. -/
inductive Condition.Means : Json → Condition → Prop
  | bare {value : Json} (hScalar : value.isCompound = false) : Means value (.equals value)
  | operators {fields : Fields Json} {ops : Operators}
      (hOperands : (Fields.given ops.parts).Perm fields) : Means (.object fields) (.operators ops)

namespace Operators

theorem write_eq_none_iff {ops : Operators} {name : String} {operand : Json} :
    ops.write name operand = none ↔ name ∉ names := by
  unfold write
  split <;> simp_all [names]

theorem add_verdict (ops : Operators) (name : String) (operand : Json) :
    Verdict (OperandFits name operand) (OperandRefused name operand) (ops.add name operand) := by
  have hNotIn : "in" ∉ names := by decide
  unfold add
  by_cases hIn : name = "in"
  · subst hIn
    rw [if_pos rfl]
    cases operand with
    | list items =>
        dsimp only
        cases hAny : items.any Json.isCompound with
        | true =>
            obtain ⟨item, hItem, hCompound⟩ := List.any_eq_true.mp hAny
            refine ⟨.compoundMember hItem hCompound, ?_⟩
            rintro (⟨hName, -⟩ | hScalars)
            · exact hNotIn hName
            · exact Bool.false_ne_true ((hScalars item hItem).symm.trans hCompound)
        | false =>
            refine .among fun item hItem => ?_
            exact Bool.eq_false_iff.mpr (List.any_eq_false.mp hAny item hItem)
    | _ => exact ⟨.notAList nofun, fun hFits => by cases hFits; contradiction⟩
  · rw [if_neg hIn]
    cases hWrite : ops.write name operand with
    | none =>
        have hName := write_eq_none_iff.mp hWrite
        refine ⟨.unknown hName hIn, ?_⟩
        rintro (⟨hKnown, -⟩ | -)
        · exact hName hKnown
        · exact hIn rfl
    | some result =>
        have hName : name ∈ names := by
          by_contra hName
          rw [write_eq_none_iff.mpr hName] at hWrite
          cases hWrite
        dsimp only
        cases hCompound : operand.isCompound with
        | true =>
            refine ⟨.compound hName hCompound, ?_⟩
            rintro (⟨-, hScalar⟩ | -)
            · exact Bool.false_ne_true (hScalar.symm.trans hCompound)
            · exact hIn rfl
        | false => exact .one hName hCompound

/-- An operator that is added stands under its name. -/
theorem parts_of_add {ops result : Operators} {name : String} {operand : Json}
    (hAdd : ops.add name operand = .ok result) :
    ∃ before old after, ops.parts = before ++ (name, old) :: after ∧
      result.parts = before ++ (name, some operand) :: after := by
  unfold add at hAdd
  split at hAdd
  · rename_i hIn
    subst hIn
    split at hAdd
    · split at hAdd
      · cases hAdd
      · cases hAdd
        exact ⟨ops.parts.take 6, _, [], rfl, rfl⟩
    · cases hAdd
  · split at hAdd
    · cases hAdd
    · rename_i hWrite
      split at hAdd
      · cases hAdd
      · cases hAdd
        unfold write at hWrite
        split at hWrite
        · cases hWrite
          exact ⟨[], _, ops.parts.drop 1, rfl, rfl⟩
        · cases hWrite
          exact ⟨ops.parts.take 1, _, ops.parts.drop 2, rfl, rfl⟩
        · cases hWrite
          exact ⟨ops.parts.take 2, _, ops.parts.drop 3, rfl, rfl⟩
        · cases hWrite
          exact ⟨ops.parts.take 3, _, ops.parts.drop 4, rfl, rfl⟩
        · cases hWrite
          exact ⟨ops.parts.take 4, _, ops.parts.drop 5, rfl, rfl⟩
        · cases hWrite
          exact ⟨ops.parts.take 5, _, ops.parts.drop 6, rfl, rfl⟩
        · cases hWrite

/-- An operator that is not there yet is added to the others. -/
theorem given_of_add {ops result : Operators} {name : String} {operand : Json}
    (hAdd : ops.add name operand = .ok result)
    (hNew : name ∉ (Fields.given ops.parts).map Prod.fst) :
    (Fields.given result.parts).Perm ((name, operand) :: Fields.given ops.parts) := by
  obtain ⟨before, old, after, hOps, hResult⟩ := parts_of_add hAdd
  have hGiven : ∀ operand? : Option Json, Fields.given (before ++ (name, operand?) :: after) =
      Fields.given before ++ ((operand?.map fun value => (name, value)).toList ++
        Fields.given after) := by
    intro operand?
    cases operand? <;> simp [Fields.given]
  cases old with
  | some value =>
      rw [hOps, hGiven] at hNew
      simp at hNew
  | none =>
      rw [hOps, hResult, hGiven, hGiven]
      exact List.perm_middle

/-- Operators are read just if all operands are right, and else it is told what is wrong with the
first that is not. -/
theorem ofFields_verdict (fields : Fields Json) (ops : Operators) :
    Verdict (∀ field ∈ fields, OperandFits field.1 field.2)
      (fun reason => ConditionRefused (.object fields) reason) (ofFields fields ops) := by
  induction fields generalizing ops with
  | nil => exact fun _ hMem => absurd hMem List.not_mem_nil
  | cons field fields ih =>
      obtain ⟨name, operand⟩ := field
      have hAdd := ops.add_verdict name operand
      rw [ofFields]
      cases hResult : ops.add name operand with
      | error reason =>
          rw [hResult] at hAdd
          refine ⟨.operator [] (fun _ hMem => absurd hMem List.not_mem_nil) hAdd.1, fun hAll => ?_⟩
          exact hAdd.2 (List.forall_mem_cons.mp hAll).1
      | ok result =>
          rw [hResult] at hAdd
          have hRest := ih result
          show Verdict _ _ (ofFields fields result)
          cases hOutcome : ofFields fields result with
          | ok all =>
              rw [hOutcome] at hRest
              exact List.forall_mem_cons.mpr ⟨hAdd, hRest⟩
          | error reason =>
              rw [hOutcome] at hRest
              refine ⟨?_, fun hAll => hRest.2 (List.forall_mem_cons.mp hAll).2⟩
              cases hRest.1 with
              | operator before hBefore hOperand =>
                  exact .operator ((name, operand) :: before)
                    (List.forall_mem_cons.mpr ⟨hAdd, hBefore⟩) hOperand

/-- What is read from an object with distinct keys are the operators that it names, each with its
operand. -/
theorem given_of_ofFields {fields : Fields Json} :
    ∀ {ops result : Operators},
      ((Fields.given ops.parts).map Prod.fst ++ fields.map Prod.fst).Nodup →
      ofFields fields ops = .ok result →
      (Fields.given result.parts).Perm (Fields.given ops.parts ++ fields) := by
  induction fields with
  | nil =>
      intro ops result _ hRead
      cases hRead
      rw [List.append_nil]
  | cons field fields ih =>
      intro ops result hNodup hRead
      obtain ⟨name, operand⟩ := field
      obtain ⟨between, hAdd, hRest⟩ := bind_eq_ok.mp hRead
      rw [List.map_cons] at hNodup
      have hNew : name ∉ (Fields.given ops.parts).map Prod.fst := fun hMem =>
        List.disjoint_of_nodup_append hNodup hMem List.mem_cons_self
      have hGiven := given_of_add hAdd hNew
      have hNames : ((Fields.given between.parts).map Prod.fst ++ fields.map Prod.fst).Nodup := by
        have hPerm : ((Fields.given between.parts).map Prod.fst ++ fields.map Prod.fst).Perm
            ((Fields.given ops.parts).map Prod.fst ++ name :: fields.map Prod.fst) :=
          ((hGiven.map Prod.fst).append_right _).trans List.perm_middle.symm
        exact hPerm.nodup_iff.mpr hNodup
      calc (Fields.given result.parts).Perm (Fields.given between.parts ++ fields) :=
          ih hNames hRest
        List.Perm _ ((name, operand) :: Fields.given ops.parts ++ fields) :=
          hGiven.append_right fields
        List.Perm _ (Fields.given ops.parts ++ (name, operand) :: fields) := List.perm_middle.symm

end Operators

namespace Condition

/-- A value is read as a condition just if it is one, and else it is told what is wrong with it. -/
theorem ofJson_verdict (value : Json) :
    Verdict (ConditionFits value) (ConditionRefused value) (ofJson value) := by
  cases value using Json.casesScalar with
  | list items => exact ⟨.list items, fun hFits => by cases hFits; contradiction⟩
  | scalar value hScalar =>
      rw [ofJson_scalar hScalar]
      exact .bare hScalar
  | object fields =>
      have hVerdict := Operators.ofFields_verdict fields .empty
      rw [ofJson]
      cases hRead : Operators.ofFields fields .empty with
      | ok ops =>
          rw [hRead] at hVerdict
          exact .operators hVerdict
      | error reason =>
          rw [hRead] at hVerdict
          refine ⟨hVerdict.1, fun hFits => ?_⟩
          cases hFits with
          | bare hScalar => cases hScalar
          | operators hFields => exact hVerdict.2 hFields

/-- What a value is read as is what it means. -/
theorem means_of_ofJson {value : Json} {condition : Condition} (hDistinct : value.KeysDistinct)
    (hRead : ofJson value = .ok condition) : Means value condition := by
  cases value using Json.casesScalar with
  | list items => cases hRead
  | scalar value hScalar =>
      rw [ofJson_scalar hScalar] at hRead
      cases hRead
      exact .bare hScalar
  | object fields =>
      obtain ⟨ops, hOps, rfl⟩ := map_eq_ok.mp hRead
      have hNodup : (fields.map Prod.fst).Nodup := (Json.keysDistinct_object.mp hDistinct).1
      have hGiven : (Fields.given ops.parts).Perm (Fields.given Operators.empty.parts ++ fields) :=
        Operators.given_of_ofFields hNodup hOps
      exact .operators hGiven

end Condition

/-- Conditions are read one after another. -/
theorem readsEach_conditions (fields : Fields Json) :
    ReadsEach Condition.ofJson (fun column reason => Cause.refused
        ("invalid condition on `" ++ column ++ "`: " ++ reason.message)) fields
      (conditionsShape FromValue (.object fields)) := by
  have hFields : ReadsEach Condition.ofJson (fun column reason => (column, reason)) fields
      (Conditions.ofFields fields) := by
    refine ReadsEach.of_steps Conditions.ofFields rfl (fun column value rest => ?_) fields
    rw [Conditions.ofFields]
    cases Condition.ofJson value <;> rfl
  have hTold : ReadsEach Condition.ofJson
      (fun column reason => "invalid condition on `" ++ column ++ "`: " ++ reason.message) fields
      (Conditions.read fields) :=
    hFields.mapError fun refused =>
      "invalid condition on `" ++ refused.1 ++ "`: " ++ refused.2.message
  exact hTold.of_object

/-- **Conditions**: an object is read as conditions just if every value in it is one.  Then the
conditions are on its keys, in their order, and each of them is what the value means.  Else the
first key is told whose value is no condition, and what is wrong with that. -/
theorem conditions_grammar {fields : Fields Json} (hDistinct : (Json.object fields).KeysDistinct) :
    ((∃ conditions, conditionsShape FromValue (.object fields) = .ok conditions) ↔
      ∀ field ∈ fields, ConditionFits field.2) ∧
    (∀ conditions, conditionsShape FromValue (.object fields) = .ok conditions →
      List.Forall₂ (fun field entry => field.1 = entry.1 ∧ Condition.Means field.2 entry.2)
        fields conditions) ∧
    (∀ cause, conditionsShape FromValue (.object fields) = .error cause →
      ∃ before column value after reason, fields = before ++ (column, value) :: after ∧
        (∀ field ∈ before, ConditionFits field.2) ∧ ¬ConditionFits value ∧
        ConditionRefused value reason ∧
        cause = .refused ("invalid condition on `" ++ column ++ "`: " ++ reason.message)) := by
  have hReads := readsEach_conditions fields
  refine ⟨?_, fun conditions hRead => ?_, fun cause hError => ?_⟩
  · rw [hReads.exists_ok_iff]
    exact forall₂_congr fun field _ => (Condition.ofJson_verdict field.2).exists_ok_iff
  · rw [hRead] at hReads
    cases hReads with
    | all hAll =>
        have hEach := (Json.keysDistinct_object.mp hDistinct).2
        refine ((List.forall₂_and_left _ _).mpr ⟨hEach, hAll⟩).imp ?_
        rintro field entry ⟨hField, hColumn, hSaid⟩
        exact ⟨hColumn, Condition.means_of_ofJson hField hSaid⟩
  · rw [hError] at hReads
    cases hReads with
    | @refused before after column value reason hFields hBefore hReason =>
        have hVerdict := Condition.ofJson_verdict value
        rw [hReason] at hVerdict
        refine ⟨before, column, value, after, reason, hFields, fun field hField => ?_, hVerdict.2,
          hVerdict.1, rfl⟩
        exact (Condition.ofJson_verdict field.2).exists_ok_iff.mp (hBefore field hField)

/-- Who is of age and has no role. -/
def adultFields : Fields Json :=
  [("age", .object [("gte", .int 18), ("ne", .null)]), ("role", .null)]

theorem conditions_grammar_adultFields : ∃ conditions,
    conditionsShape FromValue (.object adultFields) = .ok conditions ∧
      List.Forall₂ (fun field entry => field.1 = entry.1 ∧ Condition.Means field.2 entry.2)
        adultFields conditions := by
  have hDistinct : (Json.object adultFields).KeysDistinct := by
    simp [adultFields, Json.KeysDistinct, Json.FieldsKeysDistinct]
  obtain ⟨hReads, hMeans, -⟩ := conditions_grammar hDistinct
  have hFits : ∀ field ∈ adultFields, ConditionFits field.2 := by
    refine List.forall_mem_cons.mpr ⟨.operators ?_, List.forall_mem_singleton.mpr (.bare rfl)⟩
    exact List.forall_mem_cons.mpr
      ⟨.one (by decide) rfl, List.forall_mem_singleton.mpr (.one (by decide) rfl)⟩
  obtain ⟨conditions, hRead⟩ := hReads.mpr hFits
  exact ⟨conditions, hRead, hMeans conditions hRead⟩

-- The first column counts, and on it the first operator.
example :
    conditionsShape FromValue (.object
        [ ("age", .object [("gte", .int 18)])
        , ("name", .object [("like", .text "A"), ("in", .null)])
        , ("role", .list []) ]) =
      .error (.refused "invalid condition on `name`: unknown operator `like`") := rfl

/-! ## Orders -/

namespace Direction

/-- The direction that a value means: null is ascending, and a direction is meant by its name, which
may stand alone or as the only key of an object, with a null. -/
inductive Means : Json → Direction → Prop
  | unsaid : Means .null .ascending
  | name (direction : Direction) : Means (.text direction.name) direction
  | key (direction : Direction) : Means (.object [(direction.name, .null)]) direction

theorem variant_of_name (direction : Direction) :
    ofName <$> Json.variantOf directionNames direction.name = .ok direction := by
  cases direction <;> rfl

theorem exists_name_of_variant {name variant : String}
    (hVariant : Json.variantOf directionNames name = .ok variant) :
    ∃ direction : Direction, name = direction.name := by
  rw [Json.variantOf] at hVariant
  split at hVariant
  · rename_i hKnown
    have hName : name = "asc" ∨ name = "desc" := by simpa [directionNames] using hKnown
    rcases hName with rfl | rfl
    · exact ⟨.ascending, rfl⟩
    · exact ⟨.descending, rfl⟩
  · cases hVariant

/-- What means a direction is read as it. -/
theorem ofJson_of_means {value : Json} {direction : Direction} (hMeans : Means value direction) :
    ofJson value = .ok direction := by
  cases hMeans with
  | unsaid => rfl
  | name direction => exact variant_of_name direction
  | key direction => cases direction <;> rfl

/-- What is read as a direction means one. -/
theorem exists_means_of_ofJson {value : Json} {direction : Direction}
    (hRead : ofJson value = .ok direction) : ∃ meant, Means value meant := by
  cases value with
  | null => exact ⟨.ascending, .unsaid⟩
  | text name =>
      obtain ⟨variant, hVariant, -⟩ := map_eq_ok.mp hRead
      obtain ⟨meant, rfl⟩ := exists_name_of_variant hVariant
      exact ⟨meant, .name meant⟩
  | object fields =>
      obtain ⟨variant, hChoice, -⟩ := map_eq_ok.mp hRead
      match fields, hChoice with
      | [(name, inner)], hChoice =>
          obtain ⟨_, hVariant, hInner⟩ := bind_eq_ok.mp hChoice
          obtain ⟨meant, rfl⟩ := exists_name_of_variant hVariant
          cases inner with
          | null => exact ⟨meant, .key meant⟩
          | _ => cases hInner
      | [], hChoice => cases hChoice
      | _ :: _ :: _, hChoice => cases hChoice
  | _ => cases hRead

/-- A value is read as the direction that it means. -/
theorem ofJson_eq_ok_iff {value : Json} {direction : Direction} :
    ofJson value = .ok direction ↔ Means value direction := by
  refine ⟨fun hRead => ?_, ofJson_of_means⟩
  obtain ⟨meant, hMeans⟩ := exists_means_of_ofJson hRead
  rw [ofJson_of_means hMeans] at hRead
  cases hRead
  exact hMeans

end Direction

/-- Directions are read one after another. -/
theorem readsEach_order (fields : Fields Json) :
    ReadsEach Direction.ofJson (fun column _ => Cause.refused
        ("order direction for `" ++ column ++ "` must be \"asc\" or \"desc\"")) fields
      (orderShape FromValue (.object fields)) := by
  have hFields : ReadsEach Direction.ofJson (fun column _ => column) fields
      (orderOfFields fields) := by
    refine ReadsEach.of_steps orderOfFields rfl (fun column value rest => ?_) fields
    rw [orderOfFields]
    cases Direction.ofJson value <;> rfl
  have hTold : ReadsEach Direction.ofJson
      (fun column _ => "order direction for `" ++ column ++ "` must be \"asc\" or \"desc\"")
      fields (readOrder fields) :=
    hFields.mapError fun column =>
      "order direction for `" ++ column ++ "` must be \"asc\" or \"desc\""
  exact hTold.of_object

/-- **Orders**: an object is read as an order just if every value in it means a direction.  Then the
sort keys are its keys, in their order, each with the direction that its value means.  Else the
first key is told whose value means none. -/
theorem order_grammar (fields : Fields Json) :
    ((∃ keys, orderShape FromValue (.object fields) = .ok keys) ↔
      ∀ field ∈ fields, ∃ direction, Direction.Means field.2 direction) ∧
    (∀ keys, orderShape FromValue (.object fields) = .ok keys →
      List.Forall₂ (fun field key => field.1 = key.1 ∧ Direction.Means field.2 key.2) fields keys) ∧
    (∀ cause, orderShape FromValue (.object fields) = .error cause →
      ∃ before column value after, fields = before ++ (column, value) :: after ∧
        (∀ field ∈ before, ∃ direction, Direction.Means field.2 direction) ∧
        (∀ direction, ¬Direction.Means value direction) ∧
        cause = .refused ("order direction for `" ++ column ++
          "` must be \"asc\" or \"desc\"")) := by
  have hReads := readsEach_order fields
  refine ⟨?_, fun keys hRead => ?_, fun cause hError => ?_⟩
  · rw [hReads.exists_ok_iff]
    exact forall₂_congr fun field _ => exists_congr fun _ => Direction.ofJson_eq_ok_iff
  · rw [hRead] at hReads
    cases hReads with
    | all hAll =>
        exact hAll.imp fun _ _ hSaid => ⟨hSaid.1, Direction.ofJson_eq_ok_iff.mp hSaid.2⟩
  · rw [hError] at hReads
    cases hReads with
    | @refused before after column value reason hFields hBefore hReason =>
        refine ⟨before, column, value, after, hFields, fun field hField => ?_,
          fun direction hMeans => ?_, rfl⟩
        · obtain ⟨direction, hRead⟩ := hBefore field hField
          exact ⟨direction, Direction.ofJson_eq_ok_iff.mp hRead⟩
        · rw [Direction.ofJson_eq_ok_iff.mpr hMeans] at hReason
          cases hReason

-- A direction may stand as the key of a null.
example :
    orderShape FromValue (.object [("name", .object [("desc", .null)]), ("email", .null)]) =
      .ok [("name", .descending), ("email", .ascending)] := rfl

end ModelStore
