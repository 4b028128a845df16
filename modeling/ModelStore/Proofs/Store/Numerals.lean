import Mathlib.Data.List.TakeWhile
import ModelStore.Store.Cell

/-!
# Numbers written in text

The time that a column takes by default comes into the store as a text, and the affinity of the
column makes a number of it again.  That this is the number that was written is not a matter of
course: the store reads a text as a number in many other forms, and as a real number where a cell
cannot hold the integer.

## Main results

* `Affinity.numberOf_toString`: an integer that a cell can hold is read as it was written.
-/

namespace ModelStore

namespace Numeral

/-- A digit is no blank and no sign. -/
theorem plain_of_isDigit {c : Char} (hDigit : c.isDigit = true) :
    isBlank c = false ∧ c ≠ '-' ∧ c ≠ '+' := by
  have hRange : 48 ≤ c.toNat := by
    simp only [Char.isDigit, Bool.and_eq_true, decide_eq_true_iff] at hDigit
    exact hDigit.1
  refine ⟨?_, ?_, ?_⟩
  · have hSpace : c ≠ ' ' := by rintro rfl; revert hRange; decide
    have hHigh : ¬c.toNat ≤ 13 := by omega
    simp [isBlank, hSpace, hHigh]
  all_goals
    rintro rfl
    revert hRange
    decide

/-- The digits of a number, written out, are read as digits. -/
theorem spanDigits_toDigits (n : Nat) :
    spanDigits (Nat.toDigits 10 n) = ((Nat.toDigits 10 n).map digit, []) := by
  have hDigits : ∀ c ∈ Nat.toDigits 10 n, c.isDigit = true := fun c hc =>
    Nat.isDigit_of_mem_toDigits (b := 10) (by decide) (by decide) hc
  rw [spanDigits, List.takeWhile_eq_self_iff.mpr hDigits, List.dropWhile_eq_nil_iff.mpr hDigits]

/-- The digits of a number denote it. -/
theorem ofDigits_toDigits (n : Nat) : ofDigits ((Nat.toDigits 10 n).map digit) = n := by
  have hFold : ofDigits ((Nat.toDigits 10 n).map digit) =
      Nat.ofDigitChars 10 (Nat.toDigits 10 n) 0 := by
    rw [ofDigits, List.foldl_map, Nat.ofDigitChars_eq_foldl]
    simp only [digit, Nat.mul_comm]
  rw [hFold, Nat.ofDigitChars_toDigits (by decide) (by decide)]

/-- A sign and the digits of a number are read as what they are. -/
theorem parse_of_digits (negative : Bool) (n : Nat) {s : String}
    (hText : s.toList = (if negative then ['-'] else []) ++ Nat.toDigits 10 n) :
    parse s = some ⟨negative, (Nat.toDigits 10 n).map digit, none, none⟩ := by
  have hSome : ((Nat.toDigits 10 n).map digit).isEmpty = false := by
    simp [Nat.toDigits_ne_nil]
  have hSpan : spanSign (s.toList.dropWhile isBlank) = (negative, Nat.toDigits 10 n) := by
    rw [hText]
    cases negative with
    | true => rfl
    | false =>
        obtain ⟨first, rest, hCons⟩ :=
          List.exists_cons_of_ne_nil (Nat.toDigits_ne_nil (n := n) (b := 10))
        obtain ⟨hSolid, hMinus, hPlus⟩ := plain_of_isDigit (Nat.isDigit_of_mem_toDigits (b := 10)
          (n := n) (c := first) (by decide) (by decide) (hCons ▸ List.mem_cons_self))
        rw [hCons]
        change spanSign ((first :: rest).dropWhile isBlank) = _
        rw [List.dropWhile_cons_of_neg (by simp [hSolid])]
        unfold spanSign
        split
        · rename_i hSame
          exact absurd (List.cons.inj hSame).1 hMinus
        · rename_i hSame
          exact absurd (List.cons.inj hSame).1 hPlus
        · rfl
  rw [parse, hSpan]
  dsimp only
  rw [spanDigits_toDigits]
  simp [hSome]

end Numeral

/-- A number written in text denotes itself, if a cell can hold it. -/
theorem Affinity.numberOf_toString {i : Int} (hFits : fitsCell i = true) :
    numberOf (toString i) = some (.int i) := by
  have hParse : ∃ negative n, Numeral.parse (toString i) =
      some ⟨negative, (Nat.toDigits 10 n).map Numeral.digit, .none, .none⟩ ∧
      Binary64.signed negative n = i := by
    rw [Int.toString_eq_repr, Int.repr_eq_if]
    split
    · refine ⟨false, i.toNat, Numeral.parse_of_digits false _ ?_, ?_⟩
      · rw [Nat.toList_repr]
        rfl
      · change (i.toNat : Int) = i
        omega
    · refine ⟨true, (-i).toNat, Numeral.parse_of_digits true _ ?_, ?_⟩
      · rw [String.toList_append, Nat.toList_repr]
        rfl
      · change -((-i).toNat : Int) = i
        omega
  obtain ⟨negative, n, hParse, hSigned⟩ := hParse
  rw [numberOf, hParse, Option.map_some]
  dsimp only
  rw [Numeral.ofDigits_toDigits, hSigned, hFits]
  rfl
end ModelStore
