import Mathlib.Data.List.DropRight
import ModelStore.Json.Printer

/-!
# What is written is a document

A value is written on one line as a JSON document: a number with digits on both sides of its point
and no needless zero in front, a text with every quote, backslash and control character escaped, and
lists and objects of such documents.  No document has a control character in it, so no line break
either, whatever the texts in the value hold.

## Main definitions

* `Json.NumberText`, `Json.QuotedText`: numbers, and texts between quotes.
* `Json.Document`: documents without blanks between their tokens.

## Main results

* `Json.Document.printable`: no character of a document is a control character.
* `Json.document_compact`: every value is written as a document.
-/

namespace ModelStore

namespace Json

/-! ## The grammar -/

/-- Digits, one at least. -/
def IsDigits (cs : List Char) : Prop := cs ≠ [] ∧ ∀ c ∈ cs, c.isDigit = true

instance (cs : List Char) : Decidable (IsDigits cs) :=
  @instDecidableAnd _ _ _ (List.decidableBAll (fun c : Char => c.isDigit = true) cs)

/-- Digits in front of the point, of which the first is zero only if it is alone. -/
inductive IntegralPart : List Char → Prop where
  | zero : IntegralPart ['0']
  | digits {first : Char} {rest : List Char} (hFirst : first ≠ '0')
      (hDigits : IsDigits (first :: rest)) : IntegralPart (first :: rest)

/-- Digits behind a point, or nothing. -/
inductive FractionalPart : List Char → Prop where
  | absent : FractionalPart []
  | digits {cs : List Char} (hDigits : IsDigits cs) : FractionalPart ('.' :: cs)

/-- A power of ten with its sign, or nothing. -/
inductive ExponentPart : List Char → Prop where
  | absent : ExponentPart []
  | digits {letter : Char} {sign cs : List Char} (hLetter : letter = 'e' ∨ letter = 'E')
      (hSign : sign = [] ∨ sign = ['+'] ∨ sign = ['-']) (hDigits : IsDigits cs) :
      ExponentPart (letter :: (sign ++ cs))

/-- Numbers. -/
inductive NumberText : List Char → Prop where
  | parts {sign integral fraction exponent : List Char} (hSign : sign = [] ∨ sign = ['-'])
      (hIntegral : IntegralPart integral) (hFraction : FractionalPart fraction)
      (hExponent : ExponentPart exponent) :
      NumberText (sign ++ (integral ++ (fraction ++ exponent)))

/-- A hexadecimal digit. -/
def IsHexDigit (c : Char) : Prop := c ∈ "0123456789abcdefABCDEF".toList

instance (c : Char) : Decidable (IsHexDigit c) :=
  inferInstanceAs (Decidable (c ∈ "0123456789abcdefABCDEF".toList))

/-- What may stand between quotes: characters other than quotes, backslashes and control characters,
and escapes. -/
inductive EscapedText : List Char → Prop where
  | done : EscapedText []
  | plain {c : Char} {cs : List Char} (hQuote : c ≠ '"') (hBackslash : c ≠ '\\')
      (hPrintable : 0x20 ≤ c.toNat) (hRest : EscapedText cs) : EscapedText (c :: cs)
  | short {c : Char} {cs : List Char} (hEscape : c ∈ "\"\\/bfnrt".toList)
      (hRest : EscapedText cs) : EscapedText ('\\' :: c :: cs)
  | unicode {a b c d : Char} {cs : List Char} (hDigits : ∀ digit ∈ [a, b, c, d], IsHexDigit digit)
      (hRest : EscapedText cs) : EscapedText ('\\' :: 'u' :: a :: b :: c :: d :: cs)

/-- Texts between quotes. -/
inductive QuotedText : List Char → Prop where
  | quoted {cs : List Char} (hEscaped : EscapedText cs) : QuotedText ('"' :: (cs ++ ['"']))

/-- Documents without blanks between their tokens. -/
inductive Document : List Char → Prop where
  | null : Document "null".toList
  | true : Document "true".toList
  | false : Document "false".toList
  | number {cs : List Char} (hNumber : NumberText cs) : Document cs
  | text {cs : List Char} (hText : QuotedText cs) : Document cs
  | list {items : List (List Char)} (hItems : ∀ item ∈ items, Document item) :
      Document ('[' :: ([','].intercalate items ++ [']']))
  | object {members : List (List Char × List Char)}
      (hNames : ∀ member ∈ members, QuotedText member.1)
      (hValues : ∀ member ∈ members, Document member.2) :
      Document ('\x7b' :: ([','].intercalate (members.map fun member =>
        member.1 ++ ':' :: member.2) ++ ['\x7d']))

/-! ## Control characters -/

/-- Characters none of which is a control character. -/
def Printable (cs : List Char) : Prop := ∀ c ∈ cs, 0x20 ≤ c.toNat

instance (cs : List Char) : Decidable (Printable cs) :=
  List.decidableBAll (fun c : Char => 0x20 ≤ c.toNat) cs

@[simp] theorem printable_nil : Printable [] := by simp [Printable]

@[simp] theorem printable_cons {c : Char} {cs : List Char} :
    Printable (c :: cs) ↔ 0x20 ≤ c.toNat ∧ Printable cs := by
  simp [Printable]

@[simp] theorem printable_append {cs ds : List Char} :
    Printable (cs ++ ds) ↔ Printable cs ∧ Printable ds := by
  simp [Printable, or_imp, forall_and]

theorem printable_intercalate {separator : List Char} {parts : List (List Char)}
    (hSeparator : Printable separator) (hParts : ∀ part ∈ parts, Printable part) :
    Printable (separator.intercalate parts) := by
  induction parts with
  | nil => simp [List.intercalate]
  | cons part parts ih =>
      have hPart := hParts part List.mem_cons_self
      cases parts with
      | nil => simpa [List.intercalate] using hPart
      | cons next parts =>
          have hRest := ih fun other hOther => hParts other (List.mem_cons_of_mem _ hOther)
          rw [List.intercalate_cons_cons]
          simp [hPart, hSeparator, hRest]

theorem IsDigits.printable {cs : List Char} (hDigits : IsDigits cs) : Printable cs := by
  intro c hc
  have hDigit := hDigits.2 c hc
  simp only [Char.isDigit, Bool.and_eq_true, decide_eq_true_iff] at hDigit
  have hLow : 48 ≤ c.toNat := hDigit.1
  omega

theorem NumberText.printable {cs : List Char} (hNumber : NumberText cs) : Printable cs := by
  cases hNumber with
  | @parts sign integral fraction exponent hSign hIntegral hFraction hExponent =>
      have hSign : Printable sign := by
        rcases hSign with rfl | rfl <;> decide
      have hIntegral : Printable integral := by
        cases hIntegral with
        | zero => decide
        | digits _ hDigits => exact hDigits.printable
      have hFraction : Printable fraction := by
        cases hFraction with
        | absent => decide
        | digits hDigits => simpa using hDigits.printable
      have hExponent : Printable exponent := by
        cases hExponent with
        | absent => decide
        | digits hLetter hSign hDigits =>
            rcases hLetter with rfl | rfl <;> rcases hSign with rfl | rfl | rfl <;>
              simpa using hDigits.printable
      simp [hSign, hIntegral, hFraction, hExponent]

theorem EscapedText.printable {cs : List Char} (hEscaped : EscapedText cs) : Printable cs := by
  induction hEscaped with
  | done => decide
  | plain _ _ hPrintable _ ih => simp [hPrintable, ih]
  | @short c cs hEscape _ ih =>
      have hPrintable : 0x20 ≤ c.toNat :=
        (show Printable "\"\\/bfnrt".toList by decide) c hEscape
      simp [hPrintable, ih]
  | @unicode a b c d cs hDigits _ ih =>
      have hHex : ∀ digit ∈ [a, b, c, d], 0x20 ≤ digit.toNat := fun digit hMem =>
        (show Printable "0123456789abcdefABCDEF".toList by decide) digit (hDigits digit hMem)
      simp only [List.forall_mem_cons] at hHex
      simp [hHex, ih]

theorem QuotedText.printable {cs : List Char} (hText : QuotedText cs) : Printable cs := by
  cases hText with
  | quoted hEscaped => simp [hEscaped.printable]

/-- **Documents**: none has a control character in it, a line break least of all. -/
theorem Document.printable {cs : List Char} (hDocument : Document cs) : Printable cs := by
  induction hDocument with
  | null => decide
  | true => decide
  | false => decide
  | number hNumber => exact hNumber.printable
  | text hText => exact hText.printable
  | list _ ih =>
      have hItems := printable_intercalate (show Printable [','] by decide) ih
      simp [hItems]
  | @object members hNames _ ih =>
      have hMembers : Printable ([','].intercalate (members.map fun member =>
          member.1 ++ ':' :: member.2)) := by
        apply printable_intercalate (by decide)
        intro part hPart
        obtain ⟨member, hMember, rfl⟩ := List.mem_map.mp hPart
        simp [(hNames member hMember).printable, ih member hMember]
      simp [hMembers]

/-! ## Numbers -/

theorem isDigits_toDigits (n : Nat) : IsDigits (Nat.toDigits 10 n) :=
  ⟨Nat.toDigits_ne_nil, fun _ hc => Nat.isDigit_of_mem_toDigits (by decide) (by decide) hc⟩

/-- The digits of a positive number do not start with a zero. -/
theorem toDigits_eq_cons {n : Nat} (hPositive : 0 < n) :
    ∃ first rest, Nat.toDigits 10 n = first :: rest ∧ first ≠ '0' := by
  induction n using Nat.strong_induction_on with
  | _ n ih =>
      by_cases hSmall : n < 10
      · have hDigit : ∀ k < 10, 0 < k → Nat.digitChar k ≠ '0' := by decide
        exact ⟨_, _, Nat.toDigits_of_lt_base hSmall, hDigit n hSmall hPositive⟩
      · obtain ⟨first, rest, hFront, hFirst⟩ := ih (n / 10) (by omega) (by omega)
        refine ⟨first, rest ++ [(n % 10).digitChar], ?_, hFirst⟩
        rw [Nat.toDigits_of_base_le (by decide) (by omega), hFront, List.cons_append]

theorem integralPart_toDigits (n : Nat) : IntegralPart (Nat.toDigits 10 n) := by
  by_cases hZero : n = 0
  · subst hZero
    exact .zero
  · obtain ⟨first, rest, hDigits, hFirst⟩ := toDigits_eq_cons (Nat.pos_of_ne_zero hZero)
    have hAll := isDigits_toDigits n
    rw [hDigits] at hAll ⊢
    exact .digits hFirst hAll

/-- An integer is written as a number. -/
theorem numberText_int (i : Int) : NumberText (toString i).toList := by
  have hPart : ∀ n : Nat,
      NumberText (Nat.toDigits 10 n) ∧ NumberText ('-' :: Nat.toDigits 10 n) := by
    intro n
    have hPlus := NumberText.parts (.inl rfl) (integralPart_toDigits n) .absent .absent
    have hMinus := NumberText.parts (.inr rfl) (integralPart_toDigits n) .absent .absent
    simp only [List.nil_append, List.append_nil] at hPlus hMinus
    exact ⟨hPlus, hMinus⟩
  rw [Int.toString_eq_repr, Int.repr_eq_if]
  split
  · rw [Nat.repr_eq_ofList_toDigits, String.toList_ofList]
    exact (hPart _).1
  · rw [Nat.repr_eq_ofList_toDigits]
    simpa using (hPart _).2

end Json

open Json (IsDigits toDigits_eq_cons isDigits_toDigits)

/-- Decimals as they are written: zero without digits, and all others without a zero in front. -/
inductive Decimal.Canonical : Decimal → Prop where
  | zero : Decimal.Canonical ⟨[], 1⟩
  | digits {first : Char} {rest : List Char} {point : Int} (hFirst : first ≠ '0')
      (hDigits : IsDigits (first :: rest)) : Decimal.Canonical ⟨first :: rest, point⟩

/-- A scaled number is written without zeros in front. -/
theorem Decimal.canonical_ofScaled {n : Nat} (hPositive : 0 < n) (p : Int) :
    (Decimal.ofScaled n p).Canonical := by
  obtain ⟨first, rest, hDigits, hFirst⟩ := toDigits_eq_cons hPositive
  have hAll := (isDigits_toDigits n).2
  have hKept : ∃ kept, (first :: rest).rdropWhile (· == '0') = first :: kept := by
    obtain ⟨behind, hBehind⟩ := List.rdropWhile_prefix (· == '0') (first :: rest)
    cases hDrop : (first :: rest).rdropWhile (· == '0') with
    | nil =>
        have hZero := List.rdropWhile_eq_nil_iff.mp hDrop first List.mem_cons_self
        exact absurd (by simpa using hZero) hFirst
    | cons other kept =>
        rw [hDrop, List.cons_append, List.cons.injEq] at hBehind
        exact ⟨kept, by rw [hBehind.1]⟩
  obtain ⟨kept, hKept⟩ := hKept
  have hScaled : Decimal.ofScaled n p = ⟨first :: kept, p + (first :: rest).length⟩ := by
    rw [← hKept]
    simp only [Decimal.ofScaled, Decimal.digitsOf, hDigits, List.rdropWhile]
  rw [hScaled]
  refine .digits hFirst ⟨List.cons_ne_nil _ _, fun c hc => hAll c ?_⟩
  rw [hDigits]
  rw [← hKept] at hc
  exact (List.rdropWhile_prefix _ _).subset hc

namespace Binary64

/-- What lies on a grid is not zero. -/
theorem pos_of_onGrid {h : Neighbourhood} {unit : Nat × Nat} {p : Int} {c : Nat}
    (hGrid : onGrid h unit p = some c) : 0 < c := by
  simp only [onGrid] at hGrid
  generalize (scaleTen (h.mid * unit.1) unit.2 p).1 / (scaleTen (h.mid * unit.1) unit.2 p).2 = low
    at hGrid
  have hAbove : 0 < low + 1 := Nat.succ_pos low
  split at hGrid
  · rename_i hBoth
    simp only [Bool.and_eq_true, bne_iff_ne] at hBoth
    have hLow : 0 < low := Nat.pos_of_ne_zero hBoth.1.2
    split at hGrid <;> (cases hGrid; assumption)
  · split at hGrid
    · rename_i hBelow
      simp only [Bool.and_eq_true, bne_iff_ne] at hBelow
      cases hGrid
      exact Nat.pos_of_ne_zero hBelow.2
    · split at hGrid <;> cases hGrid
      exact hAbove

theorem canonical_searchGrids (h : Neighbourhood) (unit : Nat × Nat) (top : Int) (left : Nat) :
    (searchGrids h unit top left).Canonical := by
  induction left with
  | zero =>
      rw [searchGrids]
      by_cases hZero : h.mid * unit.1 / unit.2 = 0
      · rw [hZero]
        exact .zero
      · exact Decimal.canonical_ofScaled (Nat.pos_of_ne_zero hZero) 0
  | succ left ih =>
      simp only [searchGrids]
      split
      · rename_i c hGrid
        exact Decimal.canonical_ofScaled (pos_of_onGrid hGrid) _
      · exact ih

theorem canonical_shortest (m : Nat) (e : Int) : (shortest m e).Canonical :=
  canonical_searchGrids _ _ _ _

end Binary64

namespace Json

/-- Digits that go on are digits. -/
theorem IsDigits.append {cs ds : List Char} (hDigits : IsDigits cs)
    (hOthers : ∀ c ∈ ds, c.isDigit = true) : IsDigits (cs ++ ds) := by
  refine ⟨by simp [hDigits.1], fun c hc => ?_⟩
  rcases List.mem_append.mp hc with hFront | hBehind
  · exact hDigits.2 c hFront
  · exact hOthers c hBehind

theorem isDigit_of_mem_zeros {k : Nat} {c : Char} (hc : c ∈ List.replicate k '0') :
    c.isDigit = true := by
  rw [List.eq_of_mem_replicate hc]
  decide

/-- A point and the digits behind it, if there are any. -/
theorem fractionalPart_text (first : Char) {rest : List Char}
    (hRest : ∀ c ∈ rest, c.isDigit = true) :
    FractionalPart (if ((first :: rest).length : Int) = 1 then ""
      else "." ++ String.ofList ((first :: rest).drop 1)).toList := by
  split
  · exact .absent
  · rename_i hMore
    have hSome : rest ≠ [] := by
      rintro rfl
      simp at hMore
    simpa using FractionalPart.digits ⟨hSome, hRest⟩

/-- A power of ten, always with a sign. -/
theorem exponentPart_text (exponent : Int) :
    ExponentPart ('e' :: ((if exponent < 0 then "-" else "+").toList ++
      Nat.toDigits 10 exponent.natAbs)) := by
  apply ExponentPart.digits (.inl rfl) _ (isDigits_toDigits _)
  split
  · exact .inr (.inr rfl)
  · exact .inr (.inl rfl)

/-- A decimal is written as a number without a sign. -/
theorem decimalText_parts {d : Decimal} (hCanonical : d.Canonical) :
    ∃ integral fraction exponent, (decimalText d).toList = integral ++ (fraction ++ exponent) ∧
      IntegralPart integral ∧ FractionalPart fraction ∧ ExponentPart exponent := by
  cases hCanonical with
  | zero => exact ⟨['0'], ['.', '0'], [], by decide, .zero, .digits (by decide), .absent⟩
  | @digits first rest point hFirst hDigits =>
      have hRest : ∀ c ∈ rest, c.isDigit = true :=
        fun c hc => hDigits.2 c (List.mem_cons_of_mem _ hc)
      unfold decimalText
      dsimp only
      split
      · refine ⟨first :: (rest ++ List.replicate (point - (first :: rest).length).toNat '0'),
          ['.', '0'], [], by simp, .digits hFirst ?_, .digits (by decide), .absent⟩
        exact hDigits.append fun c hc => isDigit_of_mem_zeros hc
      split
      · obtain ⟨before, hBefore⟩ : ∃ before, point.toNat = before + 1 :=
          ⟨point.toNat - 1, by omega⟩
        have hBehind : before < rest.length := by
          simp only [List.length_cons] at *
          omega
        refine ⟨first :: rest.take before, '.' :: rest.drop before, [], by simp [hBefore],
          .digits hFirst ⟨List.cons_ne_nil _ _, ?_⟩, .digits ⟨by simpa using hBehind, ?_⟩, .absent⟩
        · exact fun c hc => hDigits.2 c (List.take_subset (before + 1) (first :: rest) hc)
        · exact fun c hc => hRest c (List.drop_subset before rest hc)
      split
      · refine ⟨['0'], '.' :: (List.replicate (-point).toNat '0' ++ (first :: rest)), [], by simp,
          .zero, .digits ⟨by simp, fun c hc => ?_⟩, .absent⟩
        rcases List.mem_append.mp hc with hZero | hDigit
        · exact isDigit_of_mem_zeros hZero
        · exact hDigits.2 c hDigit
      · refine ⟨[first], _, _, by simp, .digits hFirst ⟨List.cons_ne_nil _ _, ?_⟩,
          fractionalPart_text first hRest, exponentPart_text (point - 1)⟩
        exact fun c hc => hDigits.2 c (List.take_subset 1 (first :: rest) hc)

/-- A real number is written as a number, an infinity as null. -/
theorem document_real (x : Binary64) : Document (realText x).toList := by
  cases x with
  | infinite negative => exact .null
  | finite negative m e =>
      have hMagnitude : ∃ integral fraction exponent,
          (if m = 0 then "0.0" else decimalText (Binary64.shortest m e)).toList =
            integral ++ (fraction ++ exponent) ∧
          IntegralPart integral ∧ FractionalPart fraction ∧ ExponentPart exponent := by
        split
        · exact ⟨['0'], ['.', '0'], [], by decide, .zero, .digits (by decide), .absent⟩
        · exact decimalText_parts (Binary64.canonical_shortest m e)
      obtain ⟨integral, fraction, exponent, hText, hIntegral, hFraction, hExponent⟩ := hMagnitude
      cases negative with
      | false =>
          have hNumber := NumberText.parts (.inl rfl) hIntegral hFraction hExponent
          rw [← hText] at hNumber
          exact .number hNumber
      | true =>
          have hNumber := NumberText.parts (.inr rfl) hIntegral hFraction hExponent
          rw [← hText] at hNumber
          simp only [realText, if_true, String.toList_append]
          exact .number hNumber

/-! ## Texts -/

/-- An escaped character may stand in front of what may stand between quotes. -/
theorem EscapedText.escapeChar_append (c : Char) {cs : List Char} (hRest : EscapedText cs) :
    EscapedText ((escapeChar c).toList ++ cs) := by
  unfold escapeChar
  split
  · exact .short (by decide) hRest
  split
  · exact .short (by decide) hRest
  split
  · exact .short (by decide) hRest
  split
  · exact .short (by decide) hRest
  split
  · exact .short (by decide) hRest
  split
  · exact .short (by decide) hRest
  split
  · exact .short (by decide) hRest
  split
  · rename_i hControl
    have hHex : ∀ n < 16, IsHexDigit (hexDigit n) := by decide
    have hDigits : ∀ digit ∈ ['0', '0', hexDigit (c.toNat / 16), hexDigit (c.toNat % 16)],
        IsHexDigit digit := by
      simp only [List.forall_mem_cons]
      exact ⟨by decide, by decide, hHex _ (by omega), hHex _ (by omega), nofun⟩
    simpa using EscapedText.unicode hDigits hRest
  · rename_i hQuote hBackslash _ _ _ _ _ hPrintable
    simpa using EscapedText.plain hQuote hBackslash (by omega) hRest

theorem quotedText_quote (s : String) : QuotedText (quote s).toList := by
  have hEscaped : EscapedText (String.join (s.toList.map escapeChar)).toList := by
    rw [String.toList_join, List.flatMap_map]
    generalize s.toList = cs
    induction cs with
    | nil => exact .done
    | cons c cs ih => exact .escapeChar_append c ih
  simpa [quote] using QuotedText.quoted hEscaped

/-! ## Values -/

mutual

/-- **Writing**: a value is written as a document. -/
theorem document_compact : ∀ value : Json, Document value.compact.toList
  | .null => .null
  | .bool Bool.true => .true
  | .bool Bool.false => .false
  | .int i => .number (numberText_int i)
  | .real x => document_real x
  | .text s => .text (quotedText_quote s)
  | .list items => by
      obtain ⟨texts, hTexts, hItems⟩ := documents_compactItems items
      simpa [compact, hTexts] using Document.list hItems
  | .object fields => by
      obtain ⟨members, hMembers, hNames, hValues⟩ := documents_compactFields fields
      simpa [compact, hMembers] using Document.object hNames hValues

/-- The items of a list are written as documents. -/
theorem documents_compactItems : ∀ items : List Json, ∃ texts : List (List Char),
    (compactItems items).map String.toList = texts ∧ ∀ text ∈ texts, Document text
  | [] => ⟨[], rfl, nofun⟩
  | item :: items => by
      obtain ⟨texts, hTexts, hItems⟩ := documents_compactItems items
      refine ⟨item.compact.toList :: texts, by simp [compactItems, hTexts], ?_⟩
      exact List.forall_mem_cons.mpr ⟨document_compact item, hItems⟩

/-- The fields of an object are written as documents behind their names. -/
theorem documents_compactFields : ∀ fields : List (String × Json),
    ∃ members : List (List Char × List Char),
      (compactFields fields).map String.toList =
        members.map (fun member => member.1 ++ ':' :: member.2) ∧
      (∀ member ∈ members, QuotedText member.1) ∧ ∀ member ∈ members, Document member.2
  | [] => ⟨[], rfl, nofun, nofun⟩
  | (name, value) :: fields => by
      obtain ⟨members, hMembers, hNames, hValues⟩ := documents_compactFields fields
      refine ⟨((quote name).toList, value.compact.toList) :: members,
        by simp [compactFields, hMembers], ?_, ?_⟩
      · exact List.forall_mem_cons.mpr ⟨quotedText_quote name, hNames⟩
      · exact List.forall_mem_cons.mpr ⟨document_compact value, hValues⟩

end

end Json

end ModelStore
