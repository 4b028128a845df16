import Mathlib.Data.List.TakeWhile
import ModelStore.Toml.Printer
import ModelStore.Toml.Quoted

/-!
# Texts that are written are read

A text is written in one of four styles, and may be any text.  In each style the writer escapes what
the style cannot hold, so that the closing quotes are found where they were written, and what stands
between them is read as the text.

## Main definitions

* `Spells`: what characters between quotes stand for.
* `Delimits`: what is cut out as one token at the end of a line.

## Main results

* `chars_of_spells`: what characters between quotes stand for is what is read.
* `quote_token`: a text that is written is one token, and is read as it is.
-/

namespace ModelStore.Toml

/-! ## Between quotes -/

/-- Characters between quotes and what they stand for, given whether there are escapes and whether
there may be several lines. -/
inductive Spells (escapes lines : Bool) : List Char → List Char → Prop where
  | done : Spells escapes lines [] []
  | plain {c : Char} {cs meant : List Char} (hEscape : (c = '\\' && escapes) = false)
      (hControl : TextReader.isControl c = false) (hRest : Spells escapes lines cs meant) :
      Spells escapes lines (c :: cs) (c :: meant)
  | lineBreak {cs meant : List Char} (hLines : lines = true) (hRest : Spells escapes lines cs meant) :
      Spells escapes lines ('\n' :: cs) ('\n' :: meant)
  | short {letter c : Char} {cs meant : List Char} (hEscapes : escapes = true)
      (hLetter : TextReader.simpleEscape letter = some c) (hRest : Spells escapes lines cs meant) :
      Spells escapes lines ('\\' :: letter :: cs) (c :: meant)
  | number {digits cs meant : List Char} {n : Nat} (hEscapes : escapes = true)
      (hLength : digits.length = 4) (hDigits : digits.all TextReader.isHex = true)
      (hValue : TextReader.valueOf 16 digits = n) (hRange : n < 0xD800)
      (hRest : Spells escapes lines cs meant) :
      Spells escapes lines ('\\' :: 'u' :: (digits ++ cs)) (Char.ofNat n :: meant)

namespace TextReader

variable {α β : Type}

theorem run_bind {first : TextReader α} {next : α → TextReader β} {inside left : Inside} {a : α}
    (hFirst : first.run inside = .ok (a, left)) :
    (first >>= next).run inside = (next a).run left := by
  rw [StateT.run_bind, hFirst]
  rfl

/-- A letter that stands for a character is no number, and neither a blank nor a line break. -/
theorem plain_of_simpleEscape {letter c : Char} (hLetter : simpleEscape letter = some c) :
    letter ≠ 'x' ∧ letter ≠ 'u' ∧ letter ≠ 'U' ∧ Token.isBlank letter = false ∧
      letter ≠ '\n' ∧ letter ≠ '\r' := by
  unfold simpleEscape at hLetter
  split at hLetter <;> first | decide | cases hLetter

theorem peek_run (inside : Inside) : peek.run inside = .ok (inside.rest.head?, inside) := rfl

theorem eat_run (front cs : List Char) (offset : Nat) :
    (eat front.length).run ⟨front ++ cs, offset⟩ = .ok ((), ⟨cs, offset + sizeOf front⟩) := by
  have hEat : (eat front.length).run ⟨front ++ cs, offset⟩ =
      .ok ((), ⟨(front ++ cs).drop front.length,
        offset + sizeOf ((front ++ cs).take front.length)⟩) := rfl
  rw [hEat, List.drop_left, List.take_left]

theorem eat_one (c : Char) (cs : List Char) (offset : Nat) :
    (eat 1).run ⟨c :: cs, offset⟩ = .ok ((), ⟨cs, offset + sizeOf [c]⟩) := eat_run [c] cs offset

/-- The escape of one letter is read as what it stands for. -/
theorem escape_short {letter c : Char} (hLetter : simpleEscape letter = some c)
    (cs : List Char) (offset : Nat) :
    ∃ stop, escape.run ⟨letter :: cs, offset⟩ = .ok (c, ⟨cs, stop⟩) := by
  obtain ⟨hX, hU, hLongU, -⟩ := plain_of_simpleEscape hLetter
  refine ⟨offset + sizeOf [letter], ?_⟩
  rw [escape, run_bind (peek_run _)]
  split
  · simp_all
  · simp_all
  · simp_all
  · rename_i hSome
    cases hSome
    rw [hLetter]
    dsimp only
    rw [run_bind (eat_one letter cs offset)]
    rfl
  · simp_all

/-- The escape of a number is read as the character of the number. -/
theorem escape_number {digits : List Char} {n : Nat} (hLength : digits.length = 4)
    (hDigits : digits.all isHex = true) (hValue : valueOf 16 digits = n) (hRange : n < 0xD800)
    (cs : List Char) (offset : Nat) :
    ∃ stop, escape.run ⟨'u' :: (digits ++ cs), offset⟩ = .ok (Char.ofNat n, ⟨cs, stop⟩) := by
  have hTaken : ((digits ++ cs).take 4).takeWhile isHex = digits := by
    rw [← hLength, List.take_left, List.takeWhile_eq_self_iff]
    simpa using hDigits
  refine ⟨offset + sizeOf ['u'] + sizeOf digits, ?_⟩
  rw [escape, run_bind (peek_run _)]
  show ((eat 1) >>= fun _ => byNumber 4).run _ = _
  rw [run_bind (eat_one 'u' (digits ++ cs) offset)]
  have hHere : ∀ inside : Inside, here.run inside = .ok (inside.offset, inside) := fun _ => rfl
  have hGet : ∀ inside : Inside,
      (get : TextReader Inside).run inside = .ok (inside, inside) := fun _ => rfl
  rw [byNumber, run_bind (hHere _), run_bind (hGet _), hTaken, run_bind (eat_run digits cs _),
    if_neg (by omega)]
  dsimp only
  rw [hValue, if_pos (.inl hRange)]
  rfl

/-- An escape is read, and then the rest. -/
theorem chars_escape {lines : Bool} {d c : Char} {cs after meant : List Char}
    {fuel offset place : Nat} {left : Inside}
    (hNext : (Token.isBlank d || d == '\n' || d == '\r') = false)
    (hEscape : escape.run ⟨d :: cs, offset + sizeOf ['\\']⟩ = .ok (c, ⟨after, place⟩))
    (hRest : (chars true lines fuel).run ⟨after, place⟩ = .ok (meant, left)) :
    (chars true lines (fuel + 1)).run ⟨'\\' :: d :: cs, offset⟩ = .ok (c :: meant, left) := by
  rw [chars, run_bind (peek_run _)]
  dsimp only [List.head?]
  rw [if_pos (by simp), run_bind (eat_one _ _ offset), run_bind (peek_run _)]
  dsimp only [List.head?]
  rw [if_neg (by simp [hNext]), run_bind hEscape, run_bind hRest]
  rfl

/-- A character that stands for itself is read, and then the rest. -/
theorem chars_plain {escapes lines : Bool} {c : Char} {cs meant : List Char} {fuel offset : Nat}
    {left : Inside} (hEscape : (c = '\\' && escapes) = false) (hControl : isControl c = false)
    (hRest : (chars escapes lines fuel).run ⟨cs, offset + sizeOf [c]⟩ = .ok (meant, left)) :
    (chars escapes lines (fuel + 1)).run ⟨c :: cs, offset⟩ = .ok (c :: meant, left) := by
  have hBreak : (c == '\n' || c == '\r') = false := by
    by_contra hBreak
    rw [Bool.not_eq_false, Bool.or_eq_true, beq_iff_eq, beq_iff_eq] at hBreak
    rcases hBreak with rfl | rfl <;> exact absurd hControl (by decide)
  rw [chars, run_bind (peek_run _)]
  dsimp only [List.head?]
  rw [if_neg (by simp [hEscape]), if_neg (by simp [hBreak]), if_neg (by simp [hControl]),
    run_bind (eat_one c cs offset), run_bind hRest]
  rfl

/-- A line break is read where there may be several lines, and then the rest. -/
theorem chars_lineBreak {escapes : Bool} {cs meant : List Char} {fuel offset : Nat} {left : Inside}
    (hRest : (chars escapes true fuel).run ⟨cs, offset + sizeOf ['\n']⟩ = .ok (meant, left)) :
    (chars escapes true (fuel + 1)).run ⟨'\n' :: cs, offset⟩ = .ok ('\n' :: meant, left) := by
  have hLine : lineBreak.run ⟨'\n' :: cs, offset⟩ =
      .ok (['\n'], ⟨cs, offset + sizeOf ['\n']⟩) := by
    show ((eat 1) >>= fun _ => pure ['\n']).run _ = _
    rw [run_bind (eat_one _ cs offset)]
    rfl
  rw [chars, run_bind (peek_run _)]
  dsimp only [List.head?]
  rw [if_neg (by simp), if_pos (by simp), run_bind hLine, run_bind hRest]
  rfl

/-- **Reading**: characters between quotes are read as what they stand for. -/
theorem chars_of_spells {escapes lines : Bool} {cs meant : List Char}
    (hSpells : Spells escapes lines cs meant) :
    ∀ fuel, cs.length ≤ fuel → ∀ offset,
      ∃ stop, (chars escapes lines fuel).run ⟨cs, offset⟩ = .ok (meant, ⟨[], stop⟩) := by
  induction hSpells with
  | done =>
      intro fuel _ offset
      refine ⟨offset, ?_⟩
      cases fuel <;> rfl
  | @plain c cs meant hEscape hControl _ ih =>
      intro fuel hFuel offset
      rw [List.length_cons] at hFuel
      obtain ⟨fuel, rfl⟩ : ∃ less, fuel = less + 1 := ⟨fuel - 1, by omega⟩
      obtain ⟨stop, hRest⟩ := ih fuel (by omega) (offset + sizeOf [c])
      exact ⟨stop, chars_plain hEscape hControl hRest⟩
  | @lineBreak cs meant hLines _ ih =>
      intro fuel hFuel offset
      rw [List.length_cons] at hFuel
      obtain ⟨fuel, rfl⟩ : ∃ less, fuel = less + 1 := ⟨fuel - 1, by omega⟩
      obtain ⟨stop, hRest⟩ := ih fuel (by omega) (offset + sizeOf ['\n'])
      subst hLines
      exact ⟨stop, chars_lineBreak hRest⟩
  | @short letter c cs meant hEscapes hLetter _ ih =>
      intro fuel hFuel offset
      rw [List.length_cons, List.length_cons] at hFuel
      obtain ⟨fuel, rfl⟩ : ∃ less, fuel = less + 1 := ⟨fuel - 1, by omega⟩
      obtain ⟨-, -, -, hBlank, hFeed, hReturn⟩ := plain_of_simpleEscape hLetter
      obtain ⟨place, hEscape⟩ := escape_short hLetter cs (offset + sizeOf ['\\'])
      obtain ⟨stop, hRest⟩ := ih fuel (by omega) place
      subst hEscapes
      exact ⟨stop, chars_escape (by simp [hBlank, hFeed, hReturn]) hEscape hRest⟩
  | @number digits cs meant n hEscapes hLength hDigits hValue hRange _ ih =>
      intro fuel hFuel offset
      rw [List.length_cons, List.length_cons, List.length_append] at hFuel
      obtain ⟨fuel, rfl⟩ : ∃ less, fuel = less + 1 := ⟨fuel - 1, by omega⟩
      obtain ⟨place, hEscape⟩ :=
        escape_number hLength hDigits hValue hRange cs (offset + sizeOf ['\\'])
      obtain ⟨stop, hRest⟩ := ih fuel (by omega) place
      subst hEscapes
      exact ⟨stop, chars_escape (by decide) hEscape hRest⟩

end TextReader

/-! ## Escapes -/

/-- The number of a character is read from its digits. -/
theorem fourDigits_read : ∀ n < 128, (fourDigits n).all TextReader.isHex = true ∧
    TextReader.valueOf 16 (fourDigits n) = n := by
  decide

/-- A character that is escaped is read as it is. -/
theorem Spells.escapeChar_append {multiline : Bool} {c : Char} {cs meant : List Char}
    (hRest : Spells true multiline cs meant) :
    Spells true multiline (escapeChar multiline c ++ cs) (c :: meant) := by
  unfold escapeChar
  split
  · subst c; exact .short rfl rfl hRest
  split
  · subst c; exact .short rfl rfl hRest
  split
  · subst c; exact .short rfl rfl hRest
  split
  · subst c
    cases multiline with
    | true => exact .lineBreak rfl hRest
    | false => exact .short rfl rfl hRest
  split
  · subst c; exact .short rfl rfl hRest
  split
  · subst c; exact .short rfl rfl hRest
  split
  · rename_i hCode
    have hSmall : c.toNat < 128 := by
      simp only [Bool.or_eq_true, decide_eq_true_iff, beq_iff_eq] at hCode
      omega
    obtain ⟨hDigits, hValue⟩ := fourDigits_read c.toNat hSmall
    have hNumber := Spells.number rfl rfl hDigits hValue (by omega) hRest
    rwa [Char.ofNat_toNat] at hNumber
  · rename_i hBackslash _ _ _ _ _ hCode
    refine .plain (by simp [hBackslash]) ?_ hRest
    simp only [Bool.or_eq_true, decide_eq_true_iff, beq_iff_eq, not_or] at hCode
    simp [TextReader.isControl, hCode]

/-- What is written of a character that is no quote does not begin with one, nor with the end of a
line unless it is one. -/
theorem escapeChar_eq_cons (multiline : Bool) {c : Char} (hQuote : c ≠ '"') :
    ∃ d ds, escapeChar multiline c = d :: ds ∧ d ≠ '"' ∧ (c ≠ '\n' → d ≠ '\n') ∧ d ≠ '\r' := by
  have hEscape : '\\' ≠ '"' ∧ (c ≠ '\n' → '\\' ≠ '\n') ∧ '\\' ≠ '\r' :=
    ⟨by decide, fun _ => by decide, by decide⟩
  unfold escapeChar
  split
  · exact ⟨_, _, rfl, hEscape⟩
  split
  · exact ⟨_, _, rfl, hEscape⟩
  split
  · exact ⟨_, _, rfl, hEscape⟩
  split
  · rename_i hBreak
    cases multiline with
    | true => exact ⟨_, _, rfl, by decide, fun hOther => absurd hBreak hOther, by decide⟩
    | false => exact ⟨_, _, rfl, hEscape⟩
  split
  · exact ⟨_, _, rfl, hEscape⟩
  split
  · exact ⟨_, _, rfl, hEscape⟩
  split
  · exact ⟨_, _, rfl, hEscape⟩
  · rename_i hReturn _
    exact ⟨_, _, rfl, hQuote, id, hReturn⟩

/-- A text that is escaped is read as it is. -/
theorem spells_escapeText (multiline : Bool) (run : Nat) (cs : List Char) :
    Spells true multiline (escapeText multiline run cs) cs := by
  induction cs generalizing run with
  | nil => exact .done
  | cons c cs ih =>
      rw [escapeText]
      by_cases hQuote : c = '"'
      · have hPlain : ('"' = '\\' && true) = false ∧ TextReader.isControl '"' = false := by decide
        rw [if_pos hQuote, hQuote]
        by_cases hRun : run < if multiline then 2 else 0
        · rw [if_pos hRun]
          exact .plain hPlain.1 hPlain.2 (ih _)
        · rw [if_neg hRun]
          exact .short rfl rfl (ih _)
      · rw [if_neg hQuote]
        exact (ih 0).escapeChar_append

/-- A text without characters that need an escape is read as it is without any. -/
theorem spells_self {lines : Bool} {cs : List Char} (hEscapes : cs.any needsEscape = false)
    (hLines : lines = false → '\n' ∉ cs) : Spells false lines cs cs := by
  induction cs with
  | nil => exact .done
  | cons c cs ih =>
      rw [List.any_cons, Bool.or_eq_false_iff] at hEscapes
      have hRest := ih hEscapes.2 fun hOne => fun hMem => hLines hOne (List.mem_cons_of_mem _ hMem)
      by_cases hBreak : c = '\n'
      · subst hBreak
        cases lines with
        | true => exact .lineBreak rfl hRest
        | false => exact absurd List.mem_cons_self (hLines rfl)
      · refine .plain (by simp) ?_ hRest
        have hNeeds := hEscapes.1
        simp only [needsEscape, TextReader.isControl, Bool.or_eq_false_iff] at hNeeds ⊢
        simpa [hBreak] using hNeeds

/-! ## Runs -/

/-- The longest run of a character and the run at hand, behind one more character. -/
def nextRun (c : Char) (runs : Nat × Nat) (d : Char) : Nat × Nat :=
  if d = c then (max runs.1 (runs.2 + 1), runs.2 + 1) else (runs.1, 0)

theorem longestRun_eq (c : Char) (cs : List Char) :
    longestRun c cs = (cs.foldl (nextRun c) (0, 0)).1 := rfl

/-- The longest run only grows. -/
theorem le_foldl_nextRun (c : Char) (cs : List Char) (runs : Nat × Nat) :
    runs.1 ≤ (cs.foldl (nextRun c) runs).1 := by
  induction cs generalizing runs with
  | nil => exact Nat.le_refl _
  | cons d cs ih =>
      have hStep : runs.1 ≤ (nextRun c runs d).1 := by
        rw [nextRun]
        split
        · exact Nat.le_max_left _ _
        · exact Nat.le_refl _
      exact Nat.le_trans hStep (ih _)

/-- A character without a run does not occur. -/
theorem not_mem_of_longestRun {c : Char} {cs : List Char} (hNone : longestRun c cs = 0) :
    c ∉ cs := by
  rw [longestRun_eq] at hNone
  generalize (0, 0) = runs at hNone
  induction cs generalizing runs with
  | nil => exact List.not_mem_nil
  | cons d cs ih =>
      rw [List.mem_cons, not_or]
      refine ⟨?_, ih _ hNone⟩
      rintro rfl
      have hOne := le_foldl_nextRun c cs (nextRun c runs c)
      rw [List.foldl_cons] at hNone
      rw [hNone, nextRun, if_pos rfl] at hOne
      have hMax := Nat.le_max_right runs.1 (runs.2 + 1)
      omega

/-! ## Closing quotes -/

namespace Token

/-- What is scanned of a character that is neither a quote nor a backslash nor a line break. -/
theorem basicLength_plain {c : Char} (hQuote : c ≠ '"') (hBreak : c ≠ '\n') (hEscape : c ≠ '\\')
    (rest : List Char) : basicLength (c :: rest) = 1 + basicLength rest := by
  rw [basicLength]
  all_goals simp_all

theorem basicLength_escape {c : Char} (hBreak : c ≠ '\n') (rest : List Char) :
    basicLength ('\\' :: c :: rest) = 2 + basicLength rest := by
  by_cases hSlash : c = '\\'
  · rw [hSlash, basicLength]
  · by_cases hQuote : c = '"'
    · rw [hQuote, basicLength]
    · rw [basicLength, basicLength_plain hQuote hBreak hSlash]
      · omega
      all_goals simp_all

theorem basicBlockLength_plain {c : Char} (hQuote : c ≠ '"') (hEscape : c ≠ '\\')
    (rest : List Char) : basicBlockLength (c :: rest) = 1 + basicBlockLength rest := by
  rw [basicBlockLength]
  all_goals simp_all

theorem basicBlockLength_escape (c : Char) (rest : List Char) :
    basicBlockLength ('\\' :: c :: rest) = 2 + basicBlockLength rest := by
  by_cases hSlash : c = '\\'
  · rw [hSlash, basicBlockLength]
  · by_cases hQuote : c = '"'
    · rw [hQuote, basicBlockLength]
    · rw [basicBlockLength, basicBlockLength_plain hQuote hSlash]
      · omega
      all_goals simp_all

theorem bareLength_plain {c : Char} (hQuote : c ≠ '\'') (hBreak : c ≠ '\n') (rest : List Char) :
    bareLength (c :: rest) = 1 + bareLength rest := by
  rw [bareLength]
  all_goals simp_all

theorem bareBlockLength_plain {c : Char} (hQuote : c ≠ '\'') (rest : List Char) :
    bareBlockLength (c :: rest) = 1 + bareBlockLength rest := by
  rw [bareBlockLength]
  all_goals simp_all

/-! ### Escaped characters -/

section Escaped

variable {length : List Char → Nat}
  (hPlain : ∀ {c : Char}, c ≠ '"' → c ≠ '\n' → c ≠ '\\' →
    ∀ rest, length (c :: rest) = 1 + length rest)
  (hEscape : ∀ {c : Char}, c ≠ '\n' → ∀ rest, length ('\\' :: c :: rest) = 2 + length rest)

include hPlain in
theorem length_hex {digits : List Char} (hDigits : digits.all TextReader.isHex = true)
    (rest : List Char) : length (digits ++ rest) = digits.length + length rest := by
  induction digits with
  | nil => simp
  | cons c digits ih =>
      rw [List.all_cons, Bool.and_eq_true] at hDigits
      have hOther : c ≠ '"' ∧ c ≠ '\n' ∧ c ≠ '\\' := by
        refine ⟨?_, ?_, ?_⟩ <;> (rintro rfl; exact absurd hDigits.1 (by decide))
      rw [List.cons_append, hPlain hOther.1 hOther.2.1 hOther.2.2, ih hDigits.2, List.length_cons]
      omega

include hPlain hEscape in
/-- No character that is escaped closes the text. -/
theorem length_escapeChar {multiline : Bool} {c : Char} (hQuote : c ≠ '"')
    (hBreak : c = '\n' → multiline = false) (rest : List Char) :
    length (escapeChar multiline c ++ rest) =
      (escapeChar multiline c).length + length rest := by
  have hShort : ∀ {letter : Char}, letter ≠ '\n' →
      length (['\\', letter] ++ rest) = ['\\', letter].length + length rest :=
    fun hLetter => hEscape hLetter rest
  by_cases hFeed : c = '\n'
  · rw [hFeed, hBreak hFeed]
    exact hShort (by decide)
  unfold escapeChar
  split
  · exact hShort (by decide)
  split
  · exact hShort (by decide)
  split
  · exact hShort (by decide)
  split
  · exact hShort (by decide)
  split
  · exact hShort (by decide)
  split
  · rename_i hCode
    have hSmall : c.toNat < 128 := by
      simp only [Bool.or_eq_true, decide_eq_true_iff, beq_iff_eq] at hCode
      omega
    rw [List.cons_append, List.cons_append, hEscape (by decide),
      length_hex hPlain (fourDigits_read c.toNat hSmall).1]
    simp only [List.length_cons]
    omega
  · rename_i hBackslash _ _ _ _ _
    exact hPlain hQuote hFeed hBackslash rest

end Escaped

/-- The closing quote of a text on one line. -/
theorem basicLength_escapeText (run : Nat) (cs rest : List Char) :
    basicLength (escapeText false run cs ++ '"' :: rest) = (escapeText false run cs).length + 1 := by
  induction cs generalizing run with
  | nil => rfl
  | cons c cs ih =>
      rw [escapeText]
      by_cases hQuote : c = '"'
      · rw [if_pos hQuote, if_neg (by simp), hQuote, List.cons_append, List.cons_append,
          basicLength_escape (by decide), ih]
        simp only [List.length_cons]
        omega
      · rw [if_neg hQuote, List.append_assoc,
          length_escapeChar basicLength_plain basicLength_escape hQuote (fun _ => rfl), ih,
          List.length_append]
        omega

/-- The closing quotes of a text on several lines: two quotes at most stand before a character that
is none, and before the closing ones. -/
theorem basicBlockLength_quotes {run : Nat} (hRun : run ≤ 2) {c : Char} (hQuote : c ≠ '"')
    (rest : List Char) :
    basicBlockLength (List.replicate run '"' ++ c :: rest) = run + basicBlockLength (c :: rest) := by
  obtain rfl | rfl | rfl : run = 0 ∨ run = 1 ∨ run = 2 := by omega
  · simp
  · show basicBlockLength ('"' :: c :: rest) = _
    rw [basicBlockLength]
    all_goals simp_all
  · show basicBlockLength ('"' :: '"' :: c :: rest) = _
    rw [basicBlockLength, basicBlockLength]
    all_goals simp_all
    omega

theorem basicBlockLength_escapeChar {c : Char} (hQuote : c ≠ '"') (rest : List Char) :
    basicBlockLength (escapeChar true c ++ rest) =
      (escapeChar true c).length + basicBlockLength rest := by
  by_cases hBreak : c = '\n'
  · subst hBreak
    exact basicBlockLength_plain (by decide) (by decide) rest
  · exact length_escapeChar (fun hQuote _ hEscape => basicBlockLength_plain hQuote hEscape)
      (fun _ => basicBlockLength_escape _) hQuote (fun hFeed => absurd hFeed hBreak) rest

theorem basicBlockLength_escapeText (cs rest : List Char) : ∀ {run : Nat}, run ≤ 2 →
    basicBlockLength (List.replicate run '"' ++
      (escapeText true run cs ++ '"' :: '"' :: '"' :: '\n' :: rest)) =
        run + (escapeText true run cs).length + 3 := by
  induction cs with
  | nil =>
      intro run hRun
      obtain rfl | rfl | rfl : run = 0 ∨ run = 1 ∨ run = 2 := by omega
      · rfl
      · rfl
      · rfl
  | cons c cs ih =>
      intro run hRun
      -- quotes in front of another character are passed over, and nothing counts behind it
      have hNone := ih (Nat.zero_le 2)
      rw [List.replicate_zero, List.nil_append] at hNone
      rw [escapeText]
      by_cases hQuote : c = '"'
      · rw [if_pos hQuote, hQuote]
        by_cases hMore : run < 2
        · have hNext := ih (show run + 1 ≤ 2 by omega)
          rw [List.replicate_succ', List.append_assoc, List.singleton_append] at hNext
          rw [if_pos (by simpa using hMore), List.cons_append, hNext, List.length_cons]
          omega
        · rw [if_neg (by simpa using hMore), List.cons_append, List.cons_append,
            basicBlockLength_quotes hRun (by decide), basicBlockLength_escape, hNone]
          simp only [List.length_cons]
          omega
      · obtain ⟨d, ds, hText, hOther, -⟩ := escapeChar_eq_cons true hQuote
        have hSkip := basicBlockLength_escapeChar hQuote
          (escapeText true 0 cs ++ '"' :: '"' :: '"' :: '\n' :: rest)
        rw [hText, List.cons_append] at hSkip
        rw [if_neg hQuote, hText, List.append_assoc, List.cons_append,
          basicBlockLength_quotes hRun hOther, hSkip, hNone, List.length_append]
        omega

/-! ### Bare texts -/

theorem bareLength_append {cs : List Char} (hQuote : '\'' ∉ cs) (hBreak : '\n' ∉ cs)
    (rest : List Char) : bareLength (cs ++ '\'' :: rest) = cs.length + 1 := by
  induction cs with
  | nil => rfl
  | cons c cs ih =>
      rw [List.mem_cons, not_or] at hQuote hBreak
      rw [List.cons_append, bareLength_plain (fun hSame => hQuote.1 hSame.symm)
        (fun hSame => hBreak.1 hSame.symm), ih hQuote.2 hBreak.2, List.length_cons]
      omega

theorem bareBlockLength_quotes {run : Nat} (hRun : run ≤ 2) {c : Char} (hQuote : c ≠ '\'')
    (rest : List Char) :
    bareBlockLength (List.replicate run '\'' ++ c :: rest) = run + 1 + bareBlockLength rest := by
  have hPlain := bareBlockLength_plain hQuote rest
  obtain rfl | rfl | rfl : run = 0 ∨ run = 1 ∨ run = 2 := by omega
  · simp [hPlain]
  · show bareBlockLength ('\'' :: c :: rest) = _
    rw [bareBlockLength, hPlain]
    · omega
    all_goals simp_all
  · show bareBlockLength ('\'' :: '\'' :: c :: rest) = _
    rw [bareBlockLength, bareBlockLength, hPlain]
    · omega
    all_goals simp_all

theorem bareBlockLength_append (cs rest : List Char) : ∀ {runs : Nat × Nat}, runs.2 ≤ 2 →
    (cs.foldl (nextRun '\'') runs).1 ≤ 2 →
      bareBlockLength (List.replicate runs.2 '\'' ++
        (cs ++ '\'' :: '\'' :: '\'' :: '\n' :: rest)) = runs.2 + cs.length + 3 := by
  induction cs with
  | nil =>
      intro runs hRun _
      obtain hZero | hOne | hTwo : runs.2 = 0 ∨ runs.2 = 1 ∨ runs.2 = 2 := by omega
      · rw [hZero]; rfl
      · rw [hOne]; rfl
      · rw [hTwo]; rfl
  | cons c cs ih =>
      intro runs hRun hLongest
      rw [List.foldl_cons] at hLongest
      by_cases hQuote : c = '\''
      · have hStep : nextRun '\'' runs c = (max runs.1 (runs.2 + 1), runs.2 + 1) := by
          rw [nextRun, if_pos hQuote]
        have hBound := le_foldl_nextRun '\'' cs (nextRun '\'' runs c)
        have hMax := Nat.le_max_right runs.1 (runs.2 + 1)
        rw [hStep] at hBound hLongest
        have hNext := ih (show runs.2 + 1 ≤ 2 by omega) hLongest
        rw [List.replicate_succ', List.append_assoc, List.singleton_append] at hNext
        rw [hQuote, List.cons_append, hNext, List.length_cons]
        omega
      · have hStep : nextRun '\'' runs c = (runs.1, 0) := by
          rw [nextRun, if_neg hQuote]
        rw [hStep] at hLongest
        have hNext := ih (Nat.zero_le 2) hLongest
        rw [List.replicate_zero, List.nil_append] at hNext
        rw [List.cons_append, bareBlockLength_quotes hRun hQuote, hNext, List.length_cons]
        omega

end Token

/-! ## Tokens -/

/-- Characters that are cut out as one quoted token at the end of a line, and what they say. -/
structure Delimits (quotes : Quotes) (first : Char) (others : List Char) (text : String) : Prop where
  shape : ∀ rest, Token.shape first (others ++ '\n' :: rest) = (.quoted quotes, others.length)
  text : ∀ start, quotes.text start (first :: others) = .ok text

/-- What stands between the quotes is what is read of a token. -/
theorem text_of_spells {quotes : Quotes} {body meant : List Char} (lead : List Char) (start : Nat)
    (hLead : (if quotes.lines then afterLineBreak (lead ++ (body ++ quotes.marks))
      else lead ++ (body ++ quotes.marks)) = body ++ quotes.marks)
    (hSpells : Spells quotes.escapes quotes.lines body meant) :
    quotes.text start (quotes.marks ++ (lead ++ (body ++ quotes.marks))) =
      .ok (String.ofList meant) := by
  have hBody : (body ++ quotes.marks).take ((body ++ quotes.marks).length - quotes.marks.length) =
      body := by
    rw [List.length_append, Nat.add_sub_cancel, List.take_left]
  have hSuffix : quotes.marks.isSuffixOf (body ++ quotes.marks) = true :=
    List.isSuffixOf_iff_suffix.mpr (List.suffix_append _ _)
  unfold Quotes.text
  dsimp only
  rw [List.drop_left, hLead, if_pos hSuffix, hBody]
  obtain ⟨stop, hRun⟩ := TextReader.chars_of_spells hSpells body.length (Nat.le_refl _)
    (start + sizeOf (quotes.marks ++ (lead ++ (body ++ quotes.marks))) -
      sizeOf (body ++ quotes.marks))
  rw [hRun]
  rfl

/-- A text that begins with no line break has none taken off. -/
theorem afterLineBreak_cons {c : Char} (hFeed : c ≠ '\n') (hReturn : c ≠ '\r') (rest : List Char) :
    afterLineBreak (c :: rest) = c :: rest := by
  unfold afterLineBreak
  split
  · rename_i hSame
    exact absurd (List.cons.inj hSame).1 hFeed
  · rename_i hSame
    exact absurd (List.cons.inj hSame).1 hReturn
  · rfl

/-- What is written first of a text without line breaks is neither a quote nor a line break. -/
theorem escapeText_eq_cons (multiline : Bool) {c : Char} (hQuote : c ≠ '"') (cs : List Char) :
    ∃ d ds, escapeText multiline 0 (c :: cs) = d :: ds ∧ d ≠ '"' ∧ (c ≠ '\n' → d ≠ '\n') ∧
      d ≠ '\r' := by
  obtain ⟨d, ds, hText, hOther⟩ := escapeChar_eq_cons multiline hQuote
  refine ⟨d, ds ++ escapeText multiline 0 cs, ?_, hOther⟩
  rw [escapeText, if_neg hQuote, hText, List.cons_append]

namespace Token

theorem shape_basic {rest : List Char} (hOne : ∀ tail, rest ≠ '"' :: '"' :: tail) :
    shape '"' rest = (.quoted .basic, basicLength rest) := by
  simp only [shape]

theorem shape_bare {rest : List Char} (hOne : ∀ tail, rest ≠ '\'' :: '\'' :: tail) :
    shape '\'' rest = (.quoted .bare, bareLength rest) := by
  simp only [shape]

end Token

namespace Delimits

/-- Quotes on one line. -/
theorem basic (cs : List Char) :
    Delimits .basic '"' (escapeText false 0 cs ++ ['"']) (String.ofList cs) := by
  constructor
  · intro rest
    have hOne : ∀ tail, escapeText false 0 cs ++ '"' :: '\n' :: rest ≠ '"' :: '"' :: tail := by
      intro tail hSame
      cases cs with
      | nil => cases hSame
      | cons c cs =>
          rw [escapeText] at hSame
          by_cases hQuote : c = '"'
          · rw [if_pos hQuote, if_neg (by simp)] at hSame
            cases hSame
          · obtain ⟨d, ds, hText, hOther, -⟩ := escapeChar_eq_cons false hQuote
            rw [if_neg hQuote, hText] at hSame
            exact hOther (List.cons.inj hSame).1
    rw [List.append_assoc, List.singleton_append, Token.shape_basic hOne,
      Token.basicLength_escapeText, List.length_append]
    rfl
  · intro start
    exact text_of_spells [] start rfl (spells_escapeText false 0 cs)

/-- Apostrophes on one line. -/
theorem bare {cs : List Char} (hEscapes : cs.any needsEscape = false) (hQuote : '\'' ∉ cs)
    (hBreak : '\n' ∉ cs) :
    Delimits .bare '\'' (cs ++ ['\'']) (String.ofList cs) := by
  constructor
  · intro rest
    have hOne : ∀ tail, cs ++ '\'' :: '\n' :: rest ≠ '\'' :: '\'' :: tail := by
      intro tail hSame
      cases cs with
      | nil => cases hSame
      | cons c cs =>
          exact hQuote ((List.cons.inj hSame).1 ▸ List.mem_cons_self)
    rw [List.append_assoc, List.singleton_append, Token.shape_bare hOne,
      Token.bareLength_append hQuote hBreak, List.length_append]
    rfl
  · intro start
    exact text_of_spells [] start rfl (spells_self hEscapes fun _ => hBreak)

/-- Three quotes on each side, and a line break behind the first three unless the text needs none. -/
theorem block {quotes : Quotes} {quote : Char} {blockLength : List Char → Nat}
    {lead body meant : List Char} (hMarks : quotes.marks = [quote, quote, quote])
    (hLines : quotes.lines = true)
    (hShape : ∀ rest, Token.shape quote (quote :: quote :: rest) =
      (.quoted quotes, 2 + blockLength rest))
    (hBreak : ∀ rest, blockLength ('\n' :: rest) = 1 + blockLength rest)
    (hLength : ∀ rest, blockLength (body ++ quote :: quote :: quote :: '\n' :: rest) =
      body.length + 3)
    (hLead : lead = ['\n'] ∨
      lead = [] ∧ afterLineBreak (body ++ quotes.marks) = body ++ quotes.marks)
    (hSpells : Spells quotes.escapes quotes.lines body meant) :
    Delimits quotes quote (quote :: quote :: (lead ++ (body ++ quotes.marks)))
      (String.ofList meant) := by
  constructor
  · intro rest
    have hAll : blockLength (lead ++ (body ++ quotes.marks) ++ '\n' :: rest) =
        (lead ++ (body ++ quotes.marks)).length := by
      have hBody := hLength rest
      rcases hLead with rfl | ⟨rfl, -⟩
      · simp only [hMarks, List.append_assoc, List.cons_append, List.nil_append, hBreak, hBody,
          List.length_cons, List.length_append, List.length_nil]
        omega
      · simp [hMarks, hBody]
    rw [List.cons_append, List.cons_append, hShape, hAll, List.length_cons, List.length_cons,
      Nat.add_comm 2]
  · intro start
    have hText := text_of_spells lead start ?_ hSpells
    · rw [hMarks] at hText ⊢
      exact hText
    · rw [if_pos hLines]
      rcases hLead with rfl | ⟨rfl, hNone⟩
      · rfl
      · exact hNone

/-- The line break behind the first quotes is left out of a text without line breaks, which does not
begin with one. -/
theorem lead_cases {cs body marks : List Char}
    (hNone : '\n' ∉ cs → afterLineBreak (body ++ marks) = body ++ marks) :
    (if cs.contains '\n' then ['\n'] else []) = ['\n'] ∨
      (if cs.contains '\n' then ['\n'] else []) = [] ∧
        afterLineBreak (body ++ marks) = body ++ marks := by
  by_cases hBreak : '\n' ∈ cs
  · exact .inl (if_pos (by simpa using hBreak))
  · exact .inr ⟨if_neg (by simpa using hBreak), hNone hBreak⟩

/-- Quotes around several lines. -/
theorem basicBlock (cs : List Char) :
    Delimits .basicBlock '"'
      ('"' :: '"' :: ((if cs.contains '\n' then ['\n'] else []) ++
        (escapeText true 0 cs ++ ['"', '"', '"']))) (String.ofList cs) := by
  refine block rfl rfl (fun _ => rfl)
    (fun rest => Token.basicBlockLength_plain (by decide) (by decide) rest) (fun rest => ?_)
    (lead_cases fun hBreak => ?_) (spells_escapeText true 0 cs)
  · have hLength := Token.basicBlockLength_escapeText cs rest (Nat.zero_le 2)
    rwa [List.replicate_zero, List.nil_append, Nat.zero_add] at hLength
  · cases cs with
    | nil => rfl
    | cons c cs =>
        rw [List.mem_cons, not_or] at hBreak
        by_cases hQuote : c = '"'
        · subst hQuote
          rfl
        · obtain ⟨d, ds, hText, -, hFeed, hReturn⟩ := escapeText_eq_cons true hQuote cs
          rw [hText, List.cons_append,
            afterLineBreak_cons (hFeed fun hSame => hBreak.1 hSame.symm) hReturn]

/-- Apostrophes around several lines. -/
theorem bareBlock {cs : List Char} (hEscapes : cs.any needsEscape = false)
    (hQuotes : longestRun '\'' cs ≤ 2) :
    Delimits .bareBlock '\''
      ('\'' :: '\'' :: ((if cs.contains '\n' then ['\n'] else []) ++ (cs ++ ['\'', '\'', '\''])))
      (String.ofList cs) := by
  refine block rfl rfl (fun _ => rfl) (fun rest => Token.bareBlockLength_plain (by decide) rest)
    (fun rest => ?_) (lead_cases fun hBreak => ?_) (spells_self hEscapes nofun)
  · have hLength := Token.bareBlockLength_append cs rest (Nat.zero_le 2) hQuotes
    rwa [List.replicate_zero, List.nil_append, Nat.zero_add] at hLength
  · cases cs with
    | nil => rfl
    | cons c cs =>
        rw [List.mem_cons, not_or] at hBreak
        have hReturn : c ≠ '\r' := by
          rintro rfl
          exact absurd hEscapes (by simp [needsEscape])
        rw [List.cons_append, afterLineBreak_cons (fun hSame => hBreak.1 hSame.symm) hReturn]

end Delimits

/-- **Writing**: a text that is written is one token at the end of its line, and is read as it is. -/
theorem quote_token (s : String) :
    ∃ quotes first others, (quote s).toList = first :: others ∧
      Delimits quotes first others s := by
  have hMeant : String.ofList s.toList = s := String.ofList_toList
  have hBasic : ∃ quotes first others, basic s.toList = first :: others ∧
      Delimits quotes first others s := ⟨_, _, _, rfl, hMeant ▸ Delimits.basic s.toList⟩
  have hBlock : ∃ quotes first others, basicBlock s.toList = first :: others ∧
      Delimits quotes first others s :=
    ⟨_, _, _, by simp [basicBlock], hMeant ▸ Delimits.basicBlock s.toList⟩
  simp only [quote, String.toList_ofList]
  split
  · exact hBasic
  split
  · rename_i hPlain
    simp only [Bool.and_eq_true, Bool.not_eq_true', decide_eq_true_iff] at hPlain
    obtain ⟨⟨hEscapes, hQuotes⟩, hBreak⟩ := hPlain
    have hOne : '\n' ∉ s.toList := by simpa using hBreak
    exact ⟨_, _, _, rfl, hMeant ▸ Delimits.bare hEscapes (not_mem_of_longestRun hQuotes) hOne⟩
  split
  · exact hBlock
  split
  · rename_i hPlain
    simp only [Bool.and_eq_true, Bool.not_eq_true', decide_eq_true_iff] at hPlain
    exact ⟨_, _, _, by simp [bareBlock], hMeant ▸ Delimits.bareBlock hPlain.1 hPlain.2⟩
  split
  · exact hBlock
  · exact hBasic

end ModelStore.Toml
