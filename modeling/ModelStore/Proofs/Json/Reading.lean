import ModelStore.Proofs.Json.Keys
import ModelStore.Query.Decode

/-!
# Values that are read have no key twice

The fields of an object are read one by one into an accumulator, and a key that comes again is
written over.  So a value that is read from text has no key twice, at any level, whether it is a
document or the arguments of a call.

## Main definitions

* `Json.Reader.Gives`: readers whose results have a property.
* `CallDraft.ArgsDistinct`: calls, as far as they have been read, whose arguments have no key twice.

## Main results

* `Json.keysDistinct_of_parse`: a value that a text denotes has no key twice.
* `keysDistinct_of_call`: the arguments of a call that is read from text have no key twice.
-/

namespace ModelStore

open Json (Cause Cursor Failure FieldShape GrammarError Reader RecordShape)

namespace Json.Reader

/-! ## What readers give -/

/-- Whether every result of a reader has a property. -/
def Gives {α : Type} (p : α → Prop) (reader : Reader α) : Prop :=
  ∀ before a after, (ExceptT.run reader).run before = (.ok a, after) → p a

section Gives

variable {α β : Type} {p : α → Prop} {q : β → Prop} {reader : Reader α}

theorem run_bind (reader : Reader α) (next : α → Reader β) (before : Cursor) :
    (ExceptT.run (reader >>= next)).run before =
      match (ExceptT.run reader).run before with
      | (.ok a, between) => (ExceptT.run (next a)).run between
      | (.error e, between) => (.error e, between) := by
  rw [ExceptT.run_bind, StateT.run_bind]
  rcases (ExceptT.run reader).run before with ⟨_ | _, between⟩ <;> rfl

theorem gives_pure {a : α} (ha : p a) : Gives p (pure a) := by
  intro before b after hRun
  cases hRun
  exact ha

theorem gives_throw (failure : Failure) : Gives p (throw failure) := by
  intro before a after hRun
  cases hRun

/-- What a reader gives is known to the reader behind it. -/
theorem Gives.bind (hFirst : Gives p reader) {next : α → Reader β}
    (hNext : ∀ a, p a → Gives q (next a)) : Gives q (reader >>= next) := by
  intro before b after hRun
  rw [run_bind] at hRun
  rcases hFound : (ExceptT.run reader).run before with ⟨e | a, between⟩
  · rw [hFound] at hRun
    cases hRun
  · rw [hFound] at hRun
    exact hNext a (hFirst before a between hFound) between b after hRun

theorem gives_any : Gives (fun _ => True) reader := fun _ _ _ _ => trivial

/-- What is given behind a reader does not depend on what that gives. -/
theorem gives_bind {next : α → Reader β} (hNext : ∀ a, Gives q (next a)) :
    Gives q (reader >>= next) :=
  gives_any.bind fun a _ => hNext a

theorem Gives.map (hFirst : Gives p reader) {f : α → β} (hf : ∀ a, p a → q (f a)) :
    Gives q (f <$> reader) := by
  rw [map_eq_pure_bind]
  exact hFirst.bind fun a ha => gives_pure (hf a ha)

theorem gives_fail (error : GrammarError) : Gives p (fail error) :=
  gives_bind fun _ => gives_throw _

theorem gives_failAhead (error : GrammarError) : Gives p (failAhead error) :=
  gives_bind fun _ => gives_throw _

theorem gives_refuse (cause : Cause) : Gives p (refuse cause) := gives_throw _

/-- What is given where a failure is handled is given by the reader or by what handles the
failure. -/
theorem Gives.tryCatch (hReader : Gives p reader) {handle : Failure → Reader α}
    (hHandle : ∀ e, Gives p (handle e)) : Gives p (tryCatch reader handle) := by
  intro before a after hRun
  rw [ExceptT.run_tryCatch, StateT.run_bind] at hRun
  rcases hFound : (ExceptT.run reader).run before with ⟨e | found, between⟩
  · rw [hFound] at hRun
    exact hHandle e between a after hRun
  · rw [hFound] at hRun
    cases hRun
    exact hReader before a _ hFound

/-- Placing a failure changes no result. -/
theorem Gives.located (hReader : Gives p reader) : Gives p (located reader) :=
  hReader.tryCatch fun _ => gives_bind fun _ => gives_throw _

/-- Closing what was opened changes no result. -/
theorem Gives.closedBy (hReader : Gives p reader) (close : Reader Unit) :
    Gives p (closedBy reader close) := by
  have hOutcome : Gives (fun outcome => ∀ a, outcome = .ok a → p a)
      (MonadExcept.tryCatch (Except.ok <$> reader) fun failure => pure (.error failure) :
        Reader (Except Failure α)) := by
    refine Gives.tryCatch (hReader.map fun a ha b hb => ?_) fun e => gives_pure fun a hNone => ?_
    · cases hb
      exact ha
    · cases hNone
  refine hOutcome.bind fun outcome hGiven => gives_bind fun closing => ?_
  cases outcome with
  | error e => cases closing <;> exact gives_throw _
  | ok a =>
      cases closing with
      | error e => exact gives_throw _
      | ok _ => exact gives_pure (hGiven a rfl)

end Gives

/-! ## Fields and items -/

section Accumulators

variable {σ : Type} {Keeps : σ → Prop} {step : σ → Reader σ}
  (hStep : ∀ acc, Keeps acc → Gives Keeps (step acc))

include hStep

theorem gives_fieldsFrom {fuel : Nat} :
    ∀ {first : Bool} {acc : σ}, Keeps acc → Gives Keeps (fieldsFrom step fuel first acc) := by
  induction fuel with
  | zero => intro first acc _; exact gives_failAhead _
  | succ fuel ih =>
      intro first acc hAcc
      rw [fieldsFrom]
      refine gives_bind fun more => ?_
      split
      · exact (hStep acc hAcc).bind fun next hNext => ih hNext
      · exact gives_pure hAcc

theorem gives_itemsFrom {fuel : Nat} :
    ∀ {first : Bool} {acc : σ}, Keeps acc → Gives Keeps (itemsFrom step fuel first acc) := by
  induction fuel with
  | zero => intro first acc _; exact gives_failAhead _
  | succ fuel ih =>
      intro first acc hAcc
      rw [itemsFrom]
      refine gives_bind fun more => ?_
      split
      · exact (hStep acc hAcc).bind fun next hNext => ih hNext
      · exact gives_pure hAcc

/-- What each field keeps, the fields of an object keep. -/
theorem gives_fields {start : σ} (hStart : Keeps start) : Gives Keeps (fields start step) :=
  gives_bind fun _ => gives_fieldsFrom hStep hStart

/-- What each item keeps, the items of a list keep. -/
theorem gives_items {start : σ} (hStart : Keeps start) : Gives Keeps (items start step) :=
  gives_bind fun _ => gives_itemsFrom hStep hStart

end Accumulators

/-! ## Numbers -/

/-- A number is no list and no object. -/
theorem gives_real {negative : Bool} {significand : Nat} {power : Int} :
    Gives KeysDistinct (real negative significand power) := by
  rw [real]
  split
  · exact gives_pure trivial
  · exact gives_fail _

theorem gives_exponent {negative : Bool} {significand : Nat} {start : Int} :
    Gives KeysDistinct (exponent negative significand start) := by
  rw [exponent]
  refine gives_bind fun _ => gives_bind fun sign => ?_
  extract_lets tail
  have hTail : ∀ below, Gives KeysDistinct (tail below) := by
    intro below
    refine gives_bind fun next => ?_
    split
    · exact gives_fail _
    · split
      · refine gives_bind fun _ => gives_bind fun _ => ?_
        split
        · exact gives_real
        · split
          · exact gives_throw _
          · exact gives_pure trivial
      · exact gives_failAhead _
  split
  · exact gives_bind fun _ => gives_bind fun _ => hTail _
  · exact gives_bind fun _ => gives_bind fun _ => hTail _
  · exact gives_bind fun _ => hTail _

theorem gives_afterFraction {negative : Bool} {significand : Nat} {start : Int} :
    Gives KeysDistinct (afterFraction negative significand start) := by
  rw [afterFraction]
  refine gives_bind fun next => ?_
  split
  · exact gives_exponent
  · exact gives_exponent
  · exact gives_real

theorem gives_fraction {negative : Bool} {significand : Nat} {start : Int} :
    Gives KeysDistinct (fraction negative significand start) := by
  rw [fraction]
  refine gives_bind fun _ => gives_bind fun digits => ?_
  split
  · refine gives_bind fun next => ?_
    split
    · exact gives_failAhead _
    · exact gives_fail _
  · exact gives_afterFraction

theorem keysDistinct_integer (negative : Bool) (significand : Nat) :
    (integer negative significand).KeysDistinct := by
  unfold integer
  repeat' split
  all_goals trivial

theorem gives_numberTail {negative : Bool} {significand : Nat} {left : List Nat} :
    Gives KeysDistinct (number.tail negative significand left) := by
  unfold number.tail
  refine gives_bind fun next => ?_
  split
  · exact gives_fraction
  · exact gives_exponent
  · exact gives_exponent
  · cases left with
    | nil => exact gives_pure (keysDistinct_integer _ _)
    | cons _ _ => exact gives_real

/-- A number is no list and no object. -/
theorem gives_number {negative : Bool} : Gives KeysDistinct (number negative) := by
  rw [number]
  refine gives_bind fun next => ?_
  split
  · exact gives_fail _
  · split
    · refine gives_bind fun _ => gives_bind fun after => ?_
      split
      · split
        · exact gives_failAhead _
        · exact gives_numberTail
      · exact gives_numberTail
    · split
      · exact gives_bind fun _ => gives_numberTail
      · exact gives_failAhead _

/-! ## Values -/

theorem gives_valueWith {inner : Option (Reader Json)}
    (hInner : ∀ value ∈ inner, Gives KeysDistinct value) :
    Gives KeysDistinct (valueWith inner) := by
  unfold valueWith
  refine gives_bind fun c => ?_
  split
  · exact gives_bind fun _ => gives_bind fun _ => gives_pure trivial
  · exact gives_bind fun _ => gives_bind fun _ => gives_pure trivial
  · exact gives_bind fun _ => gives_bind fun _ => gives_pure trivial
  · exact gives_bind fun _ => gives_number
  · exact gives_bind fun _ => gives_bind fun _ => gives_pure trivial
  · split
    · exact gives_failAhead _
    · rename_i value
      refine gives_bind fun _ => Gives.bind (p := fun found => ∀ item ∈ found, item.KeysDistinct)
        ?_ fun found hFound => gives_bind fun _ => gives_pure ?_
      · refine gives_items (fun acc hAcc => ?_) (by simp)
        exact (hInner value rfl).bind fun item hItem =>
          gives_pure (List.forall_mem_cons.mpr ⟨hItem, hAcc⟩)
      · rw [KeysDistinct, allKeysDistinct_iff]
        exact fun item hItem => hFound item (List.mem_reverse.mp hItem)
  · split
    · exact gives_failAhead _
    · rename_i value
      refine gives_bind fun _ => Gives.bind (p := fun found => (Json.object found).KeysDistinct)
        ?_ fun found hFound => gives_bind fun _ => gives_pure hFound
      refine gives_fields (fun acc hAcc => gives_bind fun name => gives_bind fun _ => ?_) ?_
      · exact (hInner value rfl).bind fun item hItem => gives_pure (keysDistinct_set hAcc hItem)
      · exact keysDistinct_object.mpr ⟨List.nodup_nil, by simp⟩
  · split
    · exact gives_number
    · exact gives_failAhead _

/-- **Values**: a value that is read has no key twice. -/
theorem gives_value : Gives KeysDistinct value := by
  have hAt : ∀ depth, Gives KeysDistinct (valueAt depth) := by
    intro depth
    induction depth with
    | zero => exact gives_valueWith fun _ hNone => nomatch hNone
    | succ depth ih =>
        refine gives_valueWith fun value hValue => ?_
        cases hValue
        exact ih
  exact gives_bind fun _ => hAt _

/-! ## Records -/

section Records

variable {δ α : Type} {p : α → Prop} {Keeps : δ → Prop} {shape : RecordShape Reader δ α}

theorem gives_liftCause {result : Except Cause α} (hResult : ∀ a, result = .ok a → p a) :
    Gives p (liftCause result) := by
  cases result with
  | ok a => exact gives_pure (hResult a rfl)
  | error cause => exact gives_refuse cause

/-- What is found in place of what is expected is never given. -/
theorem gives_mismatch {expected : String} : Gives p (mismatch expected) := by
  refine Gives.located (gives_bind fun next => ?_)
  split
  · exact gives_bind fun _ => gives_bind fun _ => gives_refuse _
  · exact gives_bind fun _ => gives_bind fun _ => gives_refuse _
  · exact gives_bind fun _ => gives_bind fun _ => gives_refuse _
  · exact gives_bind fun _ => gives_bind fun _ => gives_refuse _
  · exact gives_bind fun _ => gives_bind fun _ => gives_refuse _
  · exact gives_refuse _
  · exact gives_refuse _
  · split
    · exact gives_bind fun _ => gives_refuse _
    · exact gives_failAhead _
  · exact gives_failAhead _

/-- A level that is opened changes no result. -/
theorem Gives.nested {body : Reader α} (hBody : Gives p body) (close : Reader Unit) :
    Gives p (nested body close) := by
  refine gives_bind fun before => ?_
  extract_lets levels
  split
  · exact gives_failAhead _
  · exact Gives.located (gives_bind fun _ => gives_bind fun _ =>
      (hBody.closedBy close).bind fun a ha => gives_bind fun _ => gives_pure ha)

/-- Whether what a field writes keeps a property of the draft. -/
def KeptByField (Keeps : δ → Prop) (field : FieldShape Reader δ) : Prop :=
  Gives (fun write => ∀ draft, Keeps draft → Keeps (write draft)) field.read

theorem gives_fillField (hFields : ∀ field ∈ shape.fields, KeptByField Keeps field) (draft : δ)
    (hDraft : Keeps draft) : Gives Keeps (fillField shape draft) := by
  refine gives_bind fun name => ?_
  rcases hField : shape.field? name with _ | field
  · simp only
    split
    · exact gives_refuse _
    · exact gives_bind fun _ => gives_bind fun _ => gives_pure hDraft
  · simp only
    split
    · exact gives_refuse _
    · exact gives_bind fun _ => Gives.bind (hFields field (List.mem_of_find?_eq_some hField))
        fun write hWrite => gives_pure (hWrite draft hDraft)

theorem gives_fillItems :
    ∀ {fields : List (FieldShape Reader δ)} {index : Nat} {ended : Bool} {draft : δ},
      (∀ field ∈ fields, KeptByField Keeps field) → Keeps draft →
        Gives Keeps (fillItems shape fields index ended draft)
  | [], _, _, _, _, hDraft => gives_pure hDraft
  | field :: fields, index, ended, draft, hFields, hDraft => by
      obtain ⟨hField, hRest⟩ := List.forall_mem_cons.mp hFields
      unfold fillItems
      extract_lets next
      have hNext : ∀ more, Gives Keeps (next more) := by
        intro more
        cases more with
        | true => exact Gives.bind hField fun write hWrite =>
            gives_fillItems hRest (hWrite draft hDraft)
        | false =>
            dsimp only [next]
            split
            · contradiction
            · split
              · exact gives_refuse _
              · exact gives_fillItems hRest hDraft
      cases ended <;> exact gives_bind fun more => hNext more

/-- **Records**: what each field keeps, the record keeps, whether it is an object or a list. -/
theorem gives_record (hStart : Keeps shape.start)
    (hFields : ∀ field ∈ shape.fields, KeptByField Keeps field)
    (hFinish : ∀ draft, Keeps draft → ∀ a, shape.finish draft = .ok a → p a) :
    Gives p (record shape) := by
  refine gives_bind fun next => ?_
  split
  · exact Gives.nested ((gives_fillItems hFields hStart).bind fun draft hDraft =>
      gives_liftCause (hFinish draft hDraft)) _
  · exact Gives.nested ((gives_fields (gives_fillField hFields) hStart).bind fun draft hDraft =>
      gives_liftCause (hFinish draft hDraft)) _
  · exact gives_mismatch

end Records

/-! ## Whole texts -/

theorem of_run {α : Type} {p : α → Prop} {reader : Reader α} (hReader : Gives p reader)
    {text : String} {a : α} (hRun : run reader text = .ok a) : p a := by
  have hWhole : Gives p (do let value ← reader; finish; return value) :=
    hReader.bind fun a ha => gives_bind fun _ => gives_pure ha
  exact hWhole (Cursor.start text) a _ (Prod.ext hRun rfl)

end Json.Reader

/-- **Documents**: a value that a text denotes has no key twice, at any level. -/
theorem Json.keysDistinct_of_parse {text : String} {value : Json}
    (hParse : Json.parse text = .ok value) : value.KeysDistinct :=
  Reader.of_run Reader.gives_value hParse

/-- Whether the arguments of a draft, if there are any, have no key twice. -/
def CallDraft.ArgsDistinct (draft : CallDraft) : Prop := ∀ args ∈ draft.args, args.KeysDistinct

open Json.Reader in
/-- **Calls**: the arguments of a call that is read from text have no key twice. -/
theorem keysDistinct_of_call {line : String} {call : Call}
    (hCall : decodeText callShape line = .ok call) : call.args.KeysDistinct := by
  have hStart : (callShape Reader).start.ArgsDistinct := fun _ hNone => nomatch hNone
  have hRecord : Gives (fun call => call.args.KeysDistinct) (record (callShape Reader)) := by
    refine gives_record hStart (fun field hField => ?_) (fun draft hDraft call hFinish => ?_)
    · simp only [callShape, List.mem_cons, List.not_mem_nil, or_false] at hField
      obtain rfl | rfl | rfl := hField
      · exact gives_any.map fun _ _ _ hDraft => hDraft
      · exact gives_any.map fun _ _ _ hDraft => hDraft
      · exact gives_value.map fun args hArgs _ _ _ hMem => Option.some.inj hMem ▸ hArgs
    · obtain ⟨model, method, args⟩ := draft
      rcases model with _ | model
      · cases hFinish
      rcases method with _ | method
      · cases hFinish
      cases hFinish
      cases args with
      | none => trivial
      | some args => exact hDraft args rfl
  exact of_run hRecord hCall

end ModelStore
