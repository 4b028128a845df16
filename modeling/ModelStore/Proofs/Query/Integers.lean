import ModelStore.Proofs.Query.Clauses
import ModelStore.Query.Row

/-!
# Integers on their way into the store

A document can hold every integer of 64 bits, with or without a sign; a cell can hold only those
with a sign.  What a cell can hold is bound as it is.  The rest is not refused: it is bound as the
real number nearest to it, which has 53 bits, so that of 2048 neighbours only one is bound as a
number that equals it, and about 2048 integers at a time are bound as the same number.  No such
number becomes an integer again in a column of integers.

## Main definitions

* `Json.IsCarried`: the integers that a document can hold.

## Main results

* `Binary64.ofInt_large`: what the integers beyond those of a cell are rounded to.
* `bound_int_same_iff`: which integers are bound as a number that equals them.
* `bound_int_inj_iff`: which integers are bound as the same value.
* `shown_int_iff`: which integers come back from a column of integers.
-/

namespace ModelStore

/-! ## Rounding -/

namespace Binary64

/-- Beyond the integers of a cell, neighbouring numbers are 2048 apart. -/
theorem exponentOf_large {n : Nat} (hLow : 2 ^ 63 ≤ n) (hHigh : n < 2 ^ 64) :
    exponentOf n 1 = 11 := by
  have hLog : Nat.log2 n = 63 := (Nat.log2_eq_iff (by omega)).mpr ⟨hLow, hHigh⟩
  have hOne : Nat.log2 1 = 0 := by decide
  have hGuess : max ((Nat.log2 n : Int) - (Nat.log2 1 : Int) - 53) leastExponent = 10 := by
    rw [hLog, hOne, leastExponent]
    decide
  have hScaled : descale n 1 10 = (n, 1024) := rfl
  have hQuotient : Nat.pow 2 53 ≤ n / 1024 := by
    have : Nat.pow 2 53 = 2 ^ 53 := rfl
    omega
  simp only [exponentOf, hGuess, hScaled, if_pos hQuotient]
  rfl

/-- **Rounding**: an integer beyond those of a cell becomes the nearest multiple of 2048. -/
theorem ofInt_large {i : Int} (hLow : 2 ^ 63 ≤ i) (hHigh : i < 2 ^ 64) :
    ofInt i = if roundDiv i.natAbs 2048 = 2 ^ 53 then .finite false (2 ^ 52) 12
      else .finite false (roundDiv i.natAbs 2048) 11 := by
  have hSign : decide (i < 0) = false := decide_eq_false (by omega)
  have hExponent := exponentOf_large (n := i.natAbs) (by omega) (by omega)
  have hScaled : descale i.natAbs 1 11 = (i.natAbs, 2048) := rfl
  have hTop : Nat.pow 2 53 = 2 ^ 53 ∧ Nat.pow 2 52 = 2 ^ 52 := ⟨rfl, rfl⟩
  rw [ofInt, hSign, ofRatio, if_neg (by omega), hExponent]
  simp only [hScaled, hTop]
  split <;> rfl

theorem roundDiv_bounds {n : Nat} (hLow : 2 ^ 63 ≤ n) (hHigh : n < 2 ^ 64) :
    2 ^ 52 ≤ roundDiv n 2048 ∧ roundDiv n 2048 ≤ 2 ^ 53 := by
  unfold roundDiv
  dsimp only
  split <;> omega

/-- Only a multiple of 2048 is rounded to itself. -/
theorem roundDiv_mul_eq_iff (n : Nat) : roundDiv n 2048 * 2048 = n ↔ 2048 ∣ n := by
  unfold roundDiv
  dsimp only
  split <;> omega

/-- The integer that an integer beyond those of a cell is rounded to. -/
theorem toInt?_ofInt_large {i : Int} (hLow : 2 ^ 63 ≤ i) (hHigh : i < 2 ^ 64) :
    (ofInt i).toInt? = some ((roundDiv i.natAbs 2048 * 2048 : Nat) : Int) := by
  rw [ofInt_large hLow hHigh]
  split_ifs with hTop
  · rw [hTop]
    decide
  · have hRatio : ratio (roundDiv i.natAbs 2048) 11 = (roundDiv i.natAbs 2048 * 2048, 1) := rfl
    simp [toInt?, hRatio, signed, Nat.mod_one]

/-- The nearest number equals the integer just if this is a multiple of 2048. -/
theorem compareInt_ofInt_large {i : Int} (hLow : 2 ^ 63 ≤ i) (hHigh : i < 2 ^ 64) :
    (ofInt i).compareInt i = .eq ↔ 2048 ∣ i := by
  have hSign : decide (i < 0) = false := decide_eq_false (by omega)
  have hDivides : (2048 : Int) ∣ i ↔ 2048 ∣ i.natAbs := by omega
  rw [hDivides, ← roundDiv_mul_eq_iff, ofInt_large hLow hHigh]
  split_ifs with hTop
  · rw [hTop, compareInt, hSign]
    simp only [compareScaled, signed]
    simp [abs_of_nonneg (show 0 ≤ i by omega)]
    omega
  · rw [compareInt, hSign]
    simp only [compareScaled, signed]
    simp [abs_of_nonneg (show 0 ≤ i by omega)]
    omega

/-- Two of these integers are rounded to the same number just if the same multiple is nearest. -/
theorem ofInt_large_inj_iff {i j : Int} (hLow : 2 ^ 63 ≤ i) (hHigh : i < 2 ^ 64)
    (hLow' : 2 ^ 63 ≤ j) (hHigh' : j < 2 ^ 64) :
    ofInt i = ofInt j ↔ roundDiv i.natAbs 2048 = roundDiv j.natAbs 2048 := by
  rw [ofInt_large hLow hHigh, ofInt_large hLow' hHigh']
  constructor
  · intro hEq
    split_ifs at hEq with hi hj hj
    · rw [hi, hj]
    · simp at hEq
    · simp at hEq
    · simpa using hEq
  · intro hEq
    rw [hEq]

end Binary64

/-! ## Binding -/

/-- The integers that a document can hold: those of 64 bits, with or without a sign. -/
def Json.IsCarried (i : Int) : Prop := -2 ^ 63 ≤ i ∧ i < 2 ^ 64

instance (i : Int) : Decidable (Json.IsCarried i) :=
  inferInstanceAs (Decidable (-2 ^ 63 ≤ i ∧ i < 2 ^ 64))

/-- What a carried integer is bound as. -/
theorem bound_int {i : Int} (hCarried : Json.IsCarried i) :
    (Json.int i).bound = if i < 2 ^ 63 then .int i else .real (Binary64.ofInt i) := by
  have hFits : Affinity.fitsCell i = decide (i < 2 ^ 63) := by
    unfold Affinity.fitsCell Affinity.cellBound
    refine decide_eq_decide.mpr ⟨fun h => h.2, fun h => ⟨?_, h⟩⟩
    have := hCarried.1
    omega
  change (if Affinity.fitsCell i = true then Cell.int i else .real (Binary64.ofInt i)) = _
  rw [hFits]
  simp only [decide_eq_true_eq]

/-- **Equality**: a carried integer is bound as a number that equals it just if a cell can hold it
or it is a multiple of 2048. -/
theorem bound_int_same_iff {i : Int} (hCarried : Json.IsCarried i) :
    Cell.same (Json.int i).bound (.int i) = true ↔ i < 2 ^ 63 ∨ 2048 ∣ i := by
  rw [bound_int hCarried]
  split_ifs with hFits
  · exact iff_of_true (by simp [Cell.same, Cell.order]) (.inl hFits)
  · have hLarge := Binary64.compareInt_ofInt_large (not_lt.mp hFits) hCarried.2
    rw [Cell.same, beq_iff_eq, Cell.order, hLarge, or_iff_right hFits]

/-- **Distinctness**: two carried integers are bound as the same value just if they are the same, or
if no cell can hold them and the same multiple of 2048 is nearest to both. -/
theorem bound_int_inj_iff {i j : Int} (hCarried : Json.IsCarried i) (hOther : Json.IsCarried j) :
    (Json.int i).bound = (Json.int j).bound ↔
      i = j ∨ 2 ^ 63 ≤ i ∧ 2 ^ 63 ≤ j ∧
        Binary64.roundDiv i.natAbs 2048 = Binary64.roundDiv j.natAbs 2048 := by
  rw [bound_int hCarried, bound_int hOther]
  split_ifs with hi hj hj
  · rw [Cell.int.injEq]
    omega
  · exact iff_of_false (by simp) (by omega)
  · exact iff_of_false (by simp) (by omega)
  · have hReal := Binary64.ofInt_large_inj_iff (not_lt.mp hi) hCarried.2 (not_lt.mp hj) hOther.2
    simp only [Cell.real.injEq, hReal]
    constructor
    · exact fun hSame => .inr ⟨not_lt.mp hi, not_lt.mp hj, hSame⟩
    · rintro (rfl | ⟨-, -, hSame⟩)
      · rfl
      · exact hSame

/-! ## Columns of integers -/

/-- A number beyond the integers of a cell stays what it is in a column of integers. -/
theorem store_ofInt_large {i : Int} (hLow : 2 ^ 63 ≤ i) (hHigh : i < 2 ^ 64) :
    Affinity.integer.store (.real (Binary64.ofInt i)) = .real (Binary64.ofInt i) := by
  have hRounded := (Binary64.roundDiv_bounds (n := i.natAbs) (by omega) (by omega)).1
  simp only [Affinity.store, Affinity.toNumber, Affinity.integral,
    Binary64.toInt?_ofInt_large hLow hHigh]
  rw [if_neg]
  rw [decide_eq_true_eq, Affinity.cellBound]
  omega

/-- **Columns of integers**: a carried integer comes back as it was given just if a cell can hold
it. -/
theorem shown_int_iff {type : ColumnType} (hType : type = .integer ∨ type = .timestamp) {i : Int}
    (hCarried : Json.IsCarried i) :
    (type.affinity.store (Json.int i).bound).toJson type = .int i ↔ i < 2 ^ 63 := by
  have hAffinity : type.affinity = .integer := by rcases hType with rfl | rfl <;> rfl
  have hOther : type ≠ .boolean := by rcases hType with rfl | rfl <;> decide
  rw [hAffinity, bound_int hCarried]
  split_ifs with hFits
  · exact iff_of_true (if_neg hOther) hFits
  · rw [store_ofInt_large (not_lt.mp hFits) hCarried.2]
    refine iff_of_false (fun hShown => ?_) hFits
    cases hReal : Binary64.ofInt i <;> simp [hReal, Cell.toJson] at hShown

end ModelStore
