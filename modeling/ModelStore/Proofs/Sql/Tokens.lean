import Mathlib
import ModelStore.Sql.Expr

/-!
# The tokens of a text

The store reads a text as a sequence of tokens, from its start and each as long as it can be:
words, numbers, names between double quotes, literals between single ones, signs and placeholders.
Within quotes only the quote itself is special, and there it is written twice.  A null character
ends the text, so a quoted token in which one stands is never closed.

A reader goes on behind a token only where the next character cannot be part of it.  A text spells
some tokens if it is read as these wherever the end of the text, a blank, a parenthesis or a comma
follows; such texts can be put together.

Comments, bracketed names, literals of bytes and numbers that are no integers are not read here: no
statement has them.

## Main definitions

* `Sql.Token`, `Sql.lex`: tokens, and the tokens of a text.
* `Sql.Spells`: a text that is read as some tokens before any break.

## Main results

* `Sql.spells_quoteName`, `Sql.spells_quoteText`: a quoted name or text is one token, which holds
  it as it is.
* `Sql.lex_quoteName_eq_none`: a quoted name with a null character cannot be read.
-/

namespace ModelStore.Sql

/-! ## Reading tokens -/

/-- A token. -/
inductive Token where
  /-- A keyword, or a name without quotes. -/
  | word (text : String)
  /-- An integer without a sign. -/
  | number (digits : String)
  /-- A name between double quotes. -/
  | name (content : String)
  /-- A text between single quotes. -/
  | text (content : String)
  | sign (text : String)
  /-- A placeholder. -/
  | hole
  deriving DecidableEq, Repr, Inhabited

/-- Whether a character separates tokens. -/
def isBlank (c : Char) : Bool :=
  c == ' ' || c == '\t' || c == '\n' || c == '\x0c' || c == '\r'

/-- Whether a character begins a word. -/
def isWordStart (c : Char) : Bool := c.isAlpha || c == '_' || 128 ≤ c.toNat

/-- Whether a character goes on with a word. -/
def isWordPart (c : Char) : Bool := isWordStart c || c.isDigit || c == '$'

/-- The signs, each before those that it begins with. -/
def signs : List String :=
  ["->>", "->", "<=", "<>", "<<", "<", ">=", ">>", ">", "==", "=", "!=", "||", "|", "(", ")", ",",
    ".", ";", "+", "-", "*", "/", "%", "&", "~"]

/-- What stands up to the closing quote, with every doubled quote as one, and what is behind it. -/
def readQuoted (quote : Char) : List Char → Option (List Char × List Char)
  | [] => none
  | [c] => if c = quote then some ([], []) else none
  | c :: d :: rest =>
    if c = '\x00' then none
    else if c = quote then
      if d = quote then (readQuoted quote rest).map fun (content, rest) => (quote :: content, rest)
      else some ([], d :: rest)
    else (readQuoted quote (d :: rest)).map fun (content, rest) => (c :: content, rest)

/-- Reads a sign.  What begins a comment or a number is none. -/
def readSign (cs : List Char) : Option (Token × List Char) :=
  if cs.take 2 = ['-', '-'] ∨ cs.take 2 = ['/', '*'] then none
  else if cs.head? = some '.' ∧ cs.tail.head?.any Char.isDigit then none
  else (signs.find? fun sign => sign.toList.isPrefixOf cs).map fun sign =>
    (.sign sign, cs.drop sign.toList.length)

/-- Reads the token that begins with a character, if it is one of those above. -/
def readToken (c : Char) (rest : List Char) : Option (Token × List Char) :=
  if c = '"' then
    (readQuoted c rest).map fun (content, rest) => (.name (String.ofList content), rest)
  else if c = '\'' then
    (readQuoted c rest).map fun (content, rest) => (.text (String.ofList content), rest)
  else if c = '?' then
    if rest.head?.any Char.isDigit then none else some (.hole, rest)
  else if isWordStart c then
    if (c = 'x' ∨ c = 'X') ∧ rest.head? = some '\'' then none
    else some (.word (String.ofList (c :: rest.takeWhile isWordPart)), rest.dropWhile isWordPart)
  else if c.isDigit then
    if (rest.dropWhile Char.isDigit).head?.any fun d => isWordPart d || d == '.' then none
    else some (.number (String.ofList (c :: rest.takeWhile Char.isDigit)),
      rest.dropWhile Char.isDigit)
  else readSign (c :: rest)

theorem length_readQuoted {quote : Char} {cs content rest : List Char}
    (hRead : readQuoted quote cs = some (content, rest)) : rest.length < cs.length := by
  fun_induction readQuoted quote cs generalizing content rest with
  | case1 => cases hRead
  | case2 => cases hRead; simp
  | case3 => cases hRead
  | case4 => cases hRead
  | case5 rest' _ ih =>
      obtain ⟨⟨inner, behind⟩, hInner, hPair⟩ := Option.map_eq_some_iff.mp hRead
      cases hPair
      have := ih hInner
      simp only [List.length_cons]
      omega
  | case6 => cases hRead; simp
  | case7 c d rest' _ _ ih =>
      obtain ⟨⟨inner, behind⟩, hInner, hPair⟩ := Option.map_eq_some_iff.mp hRead
      cases hPair
      have := ih hInner
      simp only [List.length_cons] at this ⊢
      omega

theorem length_readSign {c : Char} {cs rest : List Char} {token : Token}
    (hRead : readSign (c :: cs) = some (token, rest)) : rest.length ≤ cs.length := by
  unfold readSign at hRead
  split_ifs at hRead
  obtain ⟨sign, hFound, hPair⟩ := Option.map_eq_some_iff.mp hRead
  cases hPair
  have hLong : ∀ sign ∈ signs, 0 < sign.toList.length := by decide
  have := hLong sign (List.mem_of_find?_eq_some hFound)
  simp only [List.length_drop, List.length_cons]
  omega

/-- A token takes at least one character. -/
theorem length_readToken {c : Char} {cs rest : List Char} {token : Token}
    (hRead : readToken c cs = some (token, rest)) : rest.length ≤ cs.length := by
  have hDrop (p : Char → Bool) : (cs.dropWhile p).length ≤ cs.length :=
    (List.dropWhile_suffix p).length_le
  unfold readToken at hRead
  split_ifs at hRead
  · obtain ⟨⟨content, behind⟩, hQuoted, hPair⟩ := Option.map_eq_some_iff.mp hRead
    cases hPair
    exact (length_readQuoted hQuoted).le
  · obtain ⟨⟨content, behind⟩, hQuoted, hPair⟩ := Option.map_eq_some_iff.mp hRead
    cases hPair
    exact (length_readQuoted hQuoted).le
  · cases hRead
    exact le_rfl
  · cases hRead
    exact hDrop isWordPart
  · cases hRead
    exact hDrop Char.isDigit
  · exact length_readSign hRead

/-- The tokens of a text, if it can be read. -/
def lex : List Char → Option (List Token)
  | [] => some []
  | c :: cs =>
    if c = '\x00' then some []
    else if isBlank c then lex cs
    else
      match h : readToken c cs with
      | none => none
      | some (token, rest) =>
        have := length_readToken h
        (lex rest).map (token :: ·)
termination_by cs => cs.length

@[simp] theorem lex_nil : lex [] = some [] := by rw [lex]

@[simp] theorem lex_blank (rest : List Char) : lex (' ' :: rest) = lex rest := by
  rw [lex]
  simp [isBlank]

/-- A token in front of a text that is read. -/
theorem lex_cons {c : Char} {cs rest : List Char} {token : Token} (hNul : c ≠ '\x00')
    (hBlank : isBlank c = false) (hRead : readToken c cs = some (token, rest)) :
    lex (c :: cs) = (lex rest).map (token :: ·) := by
  rw [lex, if_neg hNul]
  simp only [hBlank, Bool.false_eq_true, if_false]
  split
  · simp_all
  · simp_all

/-- What is no token cannot be read, whatever follows. -/
theorem lex_cons_eq_none {c : Char} {cs : List Char} (hNul : c ≠ '\x00')
    (hBlank : isBlank c = false) (hRead : readToken c cs = none) : lex (c :: cs) = none := by
  rw [lex, if_neg hNul]
  simp only [hBlank, Bool.false_eq_true, if_false]
  split
  · rfl
  · simp_all

/-! ## Quoted tokens -/

/-- What stands between quotes is read as it was before quotes in it were doubled. -/
theorem readQuoted_doubled (quote : Char) (hQuote : quote ≠ '\x00') {content rest : List Char}
    (hNul : '\x00' ∉ content) (hRest : rest.head? ≠ some quote) :
    readQuoted quote (doubled quote content ++ quote :: rest) = some (content, rest) := by
  induction content with
  | nil =>
      cases rest with
      | nil => simp [doubled, readQuoted]
      | cons d rest =>
          have hd : d ≠ quote := by simpa using hRest
          simp [doubled, readQuoted, hQuote, hd]
  | cons c content ih =>
      rw [List.mem_cons, not_or] at hNul
      have hRead := ih hNul.2
      by_cases hc : c = quote
      · simp [doubled, hc, readQuoted, hQuote, hRead]
      · obtain ⟨d, ds, hNext⟩ : ∃ d ds, doubled quote content ++ quote :: rest = d :: ds :=
          List.exists_cons_of_ne_nil (by simp)
        rw [hNext] at hRead
        simp [doubled, hc, hNext, readQuoted, Ne.symm hNul.1, hRead]

/-- A null character breaks off what stands between quotes. -/
theorem readQuoted_eq_none (quote : Char) (hQuote : quote ≠ '\x00') {content : List Char}
    (hNul : '\x00' ∈ content) (rest : List Char) :
    readQuoted quote (doubled quote content ++ quote :: rest) = none := by
  induction content with
  | nil => simp at hNul
  | cons c content ih =>
      obtain ⟨d, ds, hNext⟩ : ∃ d ds, doubled quote content ++ quote :: rest = d :: ds :=
        List.exists_cons_of_ne_nil (by simp)
      by_cases hc : c = '\x00'
      · simp [doubled, hc, Ne.symm hQuote, hNext, readQuoted]
      · have hRead := ih (by simpa [Ne.symm hc] using hNul)
        by_cases hd : c = quote
        · simp [doubled, hd, readQuoted, hQuote, hRead]
        · rw [hNext] at hRead
          simp [doubled, hd, hc, hNext, readQuoted, hRead]

/-- A quoted name is one token, which holds the name, before everything but a quote. -/
theorem lex_quoteName {name : String} (hNul : '\x00' ∉ name.toList) {rest : List Char}
    (hRest : rest.head? ≠ some '"') :
    lex ((quoteName name).toList ++ rest) = (lex rest).map (.name name :: ·) := by
  have hChars : (quoteName name).toList ++ rest =
      '"' :: (doubled '"' name.toList ++ '"' :: rest) := by
    simp [quoteName, quoted]
  have hRead := readQuoted_doubled '"' (by decide) hNul hRest
  rw [hChars]
  exact lex_cons (by decide) (by decide) (by simp [readToken, hRead])

/-- **Null characters in names**: a quoted name in which one stands cannot be read. -/
theorem lex_quoteName_eq_none {name : String} (hNul : '\x00' ∈ name.toList) (rest : List Char) :
    lex ((quoteName name).toList ++ rest) = none := by
  have hChars : (quoteName name).toList ++ rest =
      '"' :: (doubled '"' name.toList ++ '"' :: rest) := by
    simp [quoteName, quoted]
  have hRead := readQuoted_eq_none '"' (by decide) hNul rest
  rw [hChars]
  exact lex_cons_eq_none (by decide) (by decide) (by simp [readToken, hRead])

/-! ## Texts that are read alike before every break -/

/-- Where a text can go on behind a token without changing it: at its end, and before a blank, a
parenthesis or a comma. -/
def Breaks (rest : List Char) : Prop :=
  ∀ c ∈ rest.head?, c = ' ' ∨ c = '(' ∨ c = ')' ∨ c = ','

/-- A text that is read as some tokens before every break. -/
def Spells (cs : List Char) (tokens : List Token) : Prop :=
  ∀ rest, Breaks rest → lex (cs ++ rest) = (lex rest).map (tokens ++ ·)

@[simp] theorem breaks_nil : Breaks [] := by simp [Breaks]

theorem Breaks.head?_ne {rest : List Char} (hBreak : Breaks rest) {c : Char}
    (hc : c ≠ ' ' ∧ c ≠ '(' ∧ c ≠ ')' ∧ c ≠ ',') : rest.head? ≠ some c := by
  intro hHead
  have := hBreak c hHead
  tauto

/-- What is before the end of a text is read as what it spells. -/
theorem Spells.lex_eq {cs : List Char} {tokens : List Token} (hSpells : Spells cs tokens) :
    lex cs = some tokens := by
  have := hSpells [] breaks_nil
  simpa using this

theorem Spells.nil : Spells [] [] := by
  intro rest _
  simp

/-- Texts can be put together where the second one begins with a break. -/
theorem Spells.append {cs ds : List Char} {tokens others : List Token} (hFirst : Spells cs tokens)
    (hSecond : Spells ds others) (hBreak : Breaks ds) : Spells (cs ++ ds) (tokens ++ others) := by
  intro rest hRest
  have hBoth : Breaks (ds ++ rest) := by
    cases ds with
    | nil => exact hRest
    | cons d ds => exact hBreak
  rw [List.append_assoc, hFirst _ hBoth, hSecond rest hRest, Option.map_map]
  simp [Function.comp_def]

/-- Blanks before a text do not count. -/
theorem Spells.blank {cs : List Char} {tokens : List Token} (hSpells : Spells cs tokens) :
    Spells (' ' :: cs) tokens := by
  intro rest hRest
  rw [List.cons_append, lex_blank, hSpells rest hRest]

/-- A token that takes a character and what is read behind it. -/
theorem Spells.cons {c : Char} {cs : List Char} {token : Token} {tokens : List Token}
    (hSpells : Spells cs tokens) (hNul : c ≠ '\x00') (hBlank : isBlank c = false)
    (hRead : ∀ rest, readToken c (cs ++ rest) = some (token, cs ++ rest)) :
    Spells (c :: cs) (token :: tokens) := by
  intro rest hRest
  rw [List.cons_append, lex_cons hNul hBlank (hRead rest), hSpells rest hRest, Option.map_map]
  simp [Function.comp_def]

theorem Spells.open_paren {cs : List Char} {tokens : List Token} (hSpells : Spells cs tokens) :
    Spells ('(' :: cs) (.sign "(" :: tokens) :=
  hSpells.cons (by decide) (by decide) fun rest => by
    simp [readToken, readSign, signs, isWordStart]

theorem Spells.close_paren {cs : List Char} {tokens : List Token} (hSpells : Spells cs tokens) :
    Spells (')' :: cs) (.sign ")" :: tokens) :=
  hSpells.cons (by decide) (by decide) fun rest => by
    simp [readToken, readSign, signs, isWordStart]

theorem Spells.comma {cs : List Char} {tokens : List Token} (hSpells : Spells cs tokens) :
    Spells (',' :: cs) (.sign "," :: tokens) :=
  hSpells.cons (by decide) (by decide) fun rest => by
    simp [readToken, readSign, signs, isWordStart]

theorem spells_quoteName {name : String} (hNul : '\x00' ∉ name.toList) :
    Spells (quoteName name).toList [.name name] := by
  intro rest hRest
  exact lex_quoteName hNul (hRest.head?_ne (by decide))

/-- **Quoted texts**: a text between single quotes is one literal, whose value is the text. -/
theorem spells_quoteText (text : String) (hNul : '\x00' ∉ text.toList) :
    Spells (quoteText text).toList [.text text] := by
  intro rest hRest
  have hChars : (quoteText text).toList ++ rest =
      '\'' :: (doubled '\'' text.toList ++ '\'' :: rest) := by
    simp [quoteText, quoted]
  have hRead := readQuoted_doubled '\'' (by decide) hNul
    (hRest.head?_ne (by decide))
  rw [hChars]
  exact lex_cons (by decide) (by decide) (by simp [readToken, hRead])

theorem spells_hole : Spells ['?'] [.hole] := by
  intro rest hRest
  have hDigit : rest.head?.any Char.isDigit = false := by
    cases rest with
    | nil => rfl
    | cons c rest => rcases hRest c rfl with rfl | rfl | rfl | rfl <;> rfl
  exact lex_cons (by decide) (by decide) (by simp [readToken, hDigit])

/-! ### Words, numbers and comparisons -/

/-- A run of characters of a kind ends where another character, or nothing, follows. -/
theorem span_append {p : Char → Bool} {cs rest : List Char} (hRun : ∀ c ∈ cs, p c = true)
    (hRest : ∀ c ∈ rest.head?, p c = false) :
    (cs ++ rest).takeWhile p = cs ∧ (cs ++ rest).dropWhile p = rest := by
  have hStop : rest.takeWhile p = [] ∧ rest.dropWhile p = rest := by
    cases rest with
    | nil => simp
    | cons c rest => simp [hRest c rfl]
  constructor
  · rw [List.takeWhile_append_of_pos hRun, hStop.1, List.append_nil]
  · rw [List.dropWhile_append_of_pos hRun, hStop.2]

/-- Whether a text is a word. -/
def isBareWord (word : String) : Bool :=
  word.toList.head?.any isWordStart && word.toList.all isWordPart

theorem Breaks.isWordPart_eq_false {rest : List Char} (hBreak : Breaks rest) :
    ∀ c ∈ rest.head?, isWordPart c = false := by
  intro c hc
  rcases hBreak c hc with rfl | rfl | rfl | rfl <;> decide

/-- A character of a kind that has no special ones is none of these. -/
theorem not_special {p : Char → Bool} {c : Char} (hc : p c = true)
    (hKind : ∀ d ∈ ['\x00', '"', '\'', '?', ' ', '\t', '\n', '\x0c', '\r'], p d = false) :
    c ≠ '\x00' ∧ c ≠ '"' ∧ c ≠ '\'' ∧ c ≠ '?' ∧ isBlank c = false := by
  have hOther : ∀ d ∈ ['\x00', '"', '\'', '?', ' ', '\t', '\n', '\x0c', '\r'], c ≠ d := by
    rintro d hd rfl
    simp [hKind c hd] at hc
  simp only [List.mem_cons, List.not_mem_nil, or_false, forall_eq_or_imp, forall_eq] at hOther
  obtain ⟨hNul, hDouble, hSingle, hMark, hBlanks⟩ := hOther
  refine ⟨hNul, hDouble, hSingle, hMark, ?_⟩
  simp [isBlank, hBlanks]

theorem spells_word (word : String) (hWord : isBareWord word = true) :
    Spells word.toList [.word word] := by
  intro rest hRest
  rw [isBareWord, Bool.and_eq_true, Option.any_eq_true, List.all_eq_true] at hWord
  obtain ⟨⟨c, hHead, hStart⟩, hParts⟩ := hWord
  obtain ⟨cs, hChars⟩ : ∃ cs, word.toList = c :: cs := List.head?_eq_some_iff.mp hHead
  have hText : String.ofList (c :: cs) = word := by rw [← hChars, String.ofList_toList]
  rw [hChars] at hParts ⊢
  obtain ⟨hTake, hDrop⟩ := span_append (fun d hd => hParts d (List.mem_cons_of_mem c hd))
    hRest.isWordPart_eq_false
  obtain ⟨hNul, hDouble, hSingle, hMark, hBlank⟩ := not_special hStart (by simp [isWordStart])
  -- A word that begins like a literal of bytes is none, as no quote follows.
  have hQuote : (cs ++ rest).head? ≠ some '\'' := by
    cases cs with
    | nil => exact hRest.head?_ne (by decide)
    | cons d cs =>
        intro hHead
        have hd : isWordPart d = true := hParts d (by simp)
        obtain rfl : d = '\'' := by simpa using hHead
        exact absurd hd (by decide)
  rw [List.cons_append]
  refine lex_cons hNul hBlank ?_
  unfold readToken
  rw [if_neg hDouble, if_neg hSingle, if_neg hMark, if_pos hStart, if_neg fun h => hQuote h.2,
    hTake, hDrop, hText]

/-- Words, each behind a blank. -/
theorem spells_words (words : List String) (hWords : words.all isBareWord = true) :
    Spells (words.flatMap fun word => ' ' :: word.toList) (words.map .word) := by
  induction words with
  | nil => exact Spells.nil
  | cons word words ih =>
      rw [List.all_cons, Bool.and_eq_true] at hWords
      have hRest := ih hWords.2
      rw [List.flatMap_cons, List.map_cons]
      refine (spells_word _ hWords.1).blank.append hRest ?_
      cases words with
      | nil => exact breaks_nil
      | cons next words => simp [Breaks]

/-- A digit begins no word. -/
theorem isWordStart_of_isDigit {c : Char} (hDigit : c.isDigit = true) : isWordStart c = false := by
  have hRange : 48 ≤ c.toNat ∧ c.toNat ≤ 57 := by
    simpa [Char.isDigit, UInt32.le_iff_toNat_le] using hDigit
  have hNot : c ≠ '_' := by
    rintro rfl
    revert hDigit
    decide
  have hAlpha : c.isAlpha = false := by
    have hNat : c.val.toNat = c.toNat := rfl
    simp [Char.isAlpha, Char.isUpper, Char.isLower, UInt32.le_iff_toNat_le]
    omega
  simp only [isWordStart, hAlpha, Bool.false_or, Bool.or_eq_false_iff, beq_eq_false_iff_ne,
    decide_eq_false_iff_not]
  exact ⟨hNot, by omega⟩

/-- Digits alone are one number. -/
theorem spells_number {digits : String} (hSome : digits.toList ≠ [])
    (hDigits : ∀ c ∈ digits.toList, c.isDigit = true) :
    Spells digits.toList [.number digits] := by
  intro rest hRest
  obtain ⟨c, cs, hChars⟩ := List.exists_cons_of_ne_nil hSome
  have hText : String.ofList (c :: cs) = digits := by rw [← hChars, String.ofList_toList]
  rw [hChars] at hDigits ⊢
  have hc : c.isDigit = true := hDigits c (by simp)
  have hPart := hRest.isWordPart_eq_false
  have hBreak : ∀ d ∈ rest.head?, d.isDigit = false := fun d hd => by
    have := hPart d hd
    simp only [isWordPart, Bool.or_eq_false_iff] at this
    exact this.1.2
  have hEnd : rest.head?.any (fun d => isWordPart d || d == '.') = false := by
    cases rest with
    | nil => rfl
    | cons d rest => rcases hRest d rfl with rfl | rfl | rfl | rfl <;> rfl
  obtain ⟨hTake, hDrop⟩ :=
    span_append (fun d hd => hDigits d (List.mem_cons_of_mem c hd)) hBreak
  obtain ⟨hNul, hDouble, hSingle, hMark, hBlank⟩ := not_special hc (by simp)
  rw [List.cons_append]
  refine lex_cons hNul hBlank ?_
  unfold readToken
  rw [if_neg hDouble, if_neg hSingle, if_neg hMark, if_neg (by simp [isWordStart_of_isDigit hc]),
    if_pos hc, hTake, hDrop, hEnd, hText]
  rfl

/-- The digits of a number are one token. -/
theorem spells_repr (n : Nat) : Spells n.repr.toList [.number n.repr] := by
  refine spells_number ?_ fun c hc => ?_
  · rw [Nat.toList_repr]
    exact Nat.toDigits_ne_nil
  · exact Nat.isDigit_of_mem_toDigits (b := 10) (by decide) (by decide) (Nat.toList_repr ▸ hc)

/-- The sign of a comparison is one token before a blank. -/
theorem lex_sign (op : Comparison) (rest : List Char) :
    lex (op.sign.toList ++ ' ' :: rest) = (lex rest).map (.sign op.sign :: ·) := by
  have hChars : ∃ c cs, op.sign.toList = c :: cs ∧ c ≠ '\x00' ∧ isBlank c = false ∧
      readToken c (cs ++ ' ' :: rest) = some (.sign op.sign, ' ' :: rest) := by
    cases op
    · exact ⟨'=', [], rfl, by decide, by decide, rfl⟩
    · exact ⟨'!', ['='], rfl, by decide, by decide, rfl⟩
    · exact ⟨'>', [], rfl, by decide, by decide, rfl⟩
    · exact ⟨'>', ['='], rfl, by decide, by decide, rfl⟩
    · exact ⟨'<', [], rfl, by decide, by decide, rfl⟩
    · exact ⟨'<', ['='], rfl, by decide, by decide, rfl⟩
  obtain ⟨c, cs, hSign, hNul, hBlank, hRead⟩ := hChars
  rw [hSign, List.cons_append, lex_cons hNul hBlank hRead, lex_blank]

end ModelStore.Sql
