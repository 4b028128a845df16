import Mathlib.Data.List.Forall2
import Mathlib.Data.List.Nodup
import ModelStore.Proofs.Toml.Quoting
import ModelStore.Toml.Document

/-!
# Documents of pairs

A document that was written pair by pair is read line by line: each pair is cut into the same few
tokens, which are put together to the same line, and what the line says goes under its key.

## Main definitions

* `IsKey`: keys that need no quotes.

## Main results

* `parse_pairs`: a document of pairs with distinct keys says what the pairs say.
-/

namespace ModelStore.Toml

/-! ## Tokens of a pair -/

/-- Keys that need no quotes. -/
def IsKey (key : String) : Prop :=
  key.toList ≠ [] ∧ ∀ c ∈ key.toList, (c.isAlphanum || c == '_' || c == '-') = true

instance (key : String) : Decidable (IsKey key) :=
  @instDecidableAnd _ _ _
    (List.decidableBAll (fun c : Char => (c.isAlphanum || c == '_' || c == '-') = true) key.toList)

/-- The tokens of a pair, whose value is one quoted token. -/
structure PairTokens where
  key : Token
  before : Token
  equals : Token
  after : Token
  value : Token
  finish : Token

namespace PairTokens

/-- The tokens in their order. -/
def all (tokens : PairTokens) : List Token :=
  [tokens.key, tokens.before, tokens.equals, tokens.after, tokens.value, tokens.finish]

/-- Tokens that write a pair. -/
structure Write (tokens : PairTokens) (key value : String) : Prop where
  key : tokens.key.kind = .word ∧ tokens.key.chars = key.toList
  before : tokens.before.kind = .blank
  equals : tokens.equals.kind = .equals
  after : tokens.after.kind = .blank
  value : ∃ quotes, tokens.value.kind = .quoted quotes ∧
    ∀ start, quotes.text start tokens.value.chars = .ok value
  finish : tokens.finish.kind = .lineBreak ∧ tokens.finish.chars = ['\n']

end PairTokens

namespace Token

/-- A token is as long as the shape of its first character says. -/
theorem scan_append {kind : TokenKind} {c : Char} {cs rest : List Char}
    (hShape : shape c (cs ++ rest) = (kind, cs.length)) (start : Nat) :
    scan start (c :: cs ++ rest) =
      ⟨kind, start, c :: cs⟩ :: scan (start + sizeOf (c :: cs)) rest := by
  rw [List.cons_append, scan, hShape]
  simp only [List.take_left, List.drop_left]

theorem scan_one {kind : TokenKind} {c : Char} {rest : List Char}
    (hShape : shape c rest = (kind, 0)) (start : Nat) :
    scan start ([c] ++ rest) = ⟨kind, start, [c]⟩ :: scan (start + sizeOf [c]) rest :=
  @scan_append kind c [] rest hShape start

theorem countWhile_append {p : Char → Bool} {cs : List Char} (hAll : ∀ c ∈ cs, p c = true)
    {c : Char} (hStop : p c = false) (rest : List Char) :
    countWhile p (cs ++ c :: rest) = cs.length := by
  rw [countWhile, List.takeWhile_append_of_pos hAll, List.takeWhile_cons_of_neg (by simp [hStop]),
    List.append_nil]

/-- A character of a key belongs to a word. -/
theorem word_of_isKey {c : Char} (hKey : (c.isAlphanum || c == '_' || c == '-') = true) :
    endsWord c = false ∧ isBlank c = false ∧ c ≠ '"' ∧ c ≠ '\'' := by
  have hOther : ∀ d : Char, (d.isAlphanum || d == '_' || d == '-') = false → c ≠ d := by
    rintro d hNone rfl
    exact Bool.false_ne_true (hNone.symm.trans hKey)
  refine ⟨?_, ?_, hOther _ (by decide), hOther _ (by decide)⟩
  · rw [endsWord]
    have hChars : (".=,[]\x7b\x7d \t#\r\n".toList.all fun d =>
        !(d.isAlphanum || d == '_' || d == '-')) = true := by decide
    rw [Bool.eq_false_iff]
    intro hMem
    have hNone := List.all_eq_true.mp hChars c (List.contains_iff_mem.mp hMem)
    rw [hKey] at hNone
    exact Bool.false_ne_true hNone
  · simp [isBlank, hOther ' ' (by decide), hOther '\t' (by decide)]

theorem shape_word {c : Char} (hKey : (c.isAlphanum || c == '_' || c == '-') = true)
    (rest : List Char) : shape c rest = (.word, countWhile (fun d => !endsWord d) rest) := by
  obtain ⟨-, hBlank, -⟩ := word_of_isKey hKey
  unfold shape
  split
  all_goals first
    | exact absurd hKey (by decide)
    | rw [hBlank]; rfl

end Token

/-- **Cutting**: a pair is cut into its tokens, and what follows it is cut on its own. -/
theorem scan_pair {key : String} (hKey : IsKey key) (value : String) (start : Nat)
    (rest : List Char) :
    ∃ (tokens : PairTokens) (stop : Nat), tokens.Write key value ∧
      Token.scan start ((pair key value).toList ++ rest) = tokens.all ++ Token.scan stop rest := by
  obtain ⟨first, others, hFirst⟩ := List.exists_cons_of_ne_nil hKey.1
  obtain ⟨quotes, mark, inside, hQuote, hDelimits⟩ := quote_token value
  have hText : (pair key value).toList ++ rest =
      first :: others ++ ([' '] ++ (['='] ++ ([' '] ++ (mark :: inside ++ (['\n'] ++ rest))))) := by
    simp [pair, hFirst, hQuote]
  have hChars := hKey.2
  rw [hFirst] at hChars
  obtain ⟨hHead, hOthers⟩ := List.forall_mem_cons.mp hChars
  have hWord : ∀ tail, Token.shape first (others ++ ([' '] ++ tail)) = (.word, others.length) := by
    intro tail
    rw [Token.shape_word hHead, List.singleton_append,
      Token.countWhile_append (fun c hc => by simp [(Token.word_of_isKey (hOthers c hc)).1])
        (by decide)]
  have hMark : Token.isBlank mark = false := by
    by_contra hBlank
    have hShape := congrArg Prod.fst (hDelimits.shape [])
    rw [Bool.not_eq_false, Token.isBlank, Bool.or_eq_true, beq_iff_eq, beq_iff_eq] at hBlank
    rcases hBlank with rfl | rfl <;> cases hShape
  have hGap : ∀ tail, Token.shape ' ' (mark :: inside ++ tail) = (.blank, 0) := fun tail =>
    congrArg (Prod.mk _) (@Token.countWhile_append Token.isBlank [] nofun mark hMark (inside ++ tail))
  have hValue : Token.shape mark (inside ++ (['\n'] ++ rest)) = (.quoted quotes, inside.length) :=
    hDelimits.shape rest
  rw [hText, Token.scan_append (hWord _), Token.scan_one rfl, Token.scan_one rfl,
    Token.scan_one (hGap _), Token.scan_append hValue, Token.scan_one rfl]
  exact ⟨⟨_, _, _, _, _, _⟩, _,
    ⟨⟨rfl, hFirst.symm⟩, rfl, rfl, rfl, ⟨_, rfl, hDelimits.text⟩, rfl, rfl⟩, rfl⟩

/-! ## Lines of pairs -/

namespace Reader

variable {α β : Type}

theorem run_bind {first : Reader α} {next : α → Reader β} {cursor left : Cursor} {a : α}
    (hFirst : first.run cursor = .ok (a, left)) :
    (first >>= next).run cursor = (next a).run left := by
  rw [StateT.run_bind, hFirst]
  rfl

theorem discard_run {step : Reader α} {cursor left : Cursor} {a : α}
    (hStep : step.run cursor = .ok (a, left)) :
    (discard step).run cursor = .ok ((), left) := by
  rw [discard, map_const, Function.comp_apply, StateT.run_map, hStep]
  rfl

theorem peek_run (token : Token) (rest : List Token) (behind : Nat) :
    peek.run ⟨token :: rest, behind⟩ = .ok (token, ⟨token :: rest, behind⟩) := rfl

/-- The place behind the last token that was no gap, one token later. -/
def passed (token : Token) (behind : Nat) : Nat :=
  if token.kind.isGap then behind else token.stop

/-- A token that is not wrong in itself is consumed. -/
theorem take_run {token : Token} (hGood : token.fault? = none) (rest : List Token) (behind : Nat) :
    take.run ⟨token :: rest, behind⟩ = .ok (token, ⟨rest, passed token behind⟩) := by
  rw [take, run_bind (peek_run token rest behind), hGood]
  rfl

theorem takeIf_run {token : Token} (hGood : token.fault? = none) (rest : List Token)
    (behind : Nat) :
    (takeIf token.kind).run ⟨token :: rest, behind⟩ = .ok (true, ⟨rest, passed token behind⟩) := by
  rw [takeIf, run_bind (peek_run token rest behind), if_pos rfl,
    run_bind (discard_run (take_run hGood rest behind))]
  rfl

theorem takeIf_run_other {kind : TokenKind} {token : Token} (hOther : token.kind ≠ kind)
    (rest : List Token) (behind : Nat) :
    (takeIf kind).run ⟨token :: rest, behind⟩ = .ok (false, ⟨token :: rest, behind⟩) := by
  rw [takeIf, run_bind (peek_run token rest behind), if_neg hOther]
  rfl

theorem blank_run {token : Token} (hBlank : token.kind = .blank) (rest : List Token)
    (behind : Nat) : blank.run ⟨token :: rest, behind⟩ = .ok ((), ⟨rest, passed token behind⟩) := by
  have hGood : token.fault? = none := by
    rw [Token.fault?, hBlank]
  have hTake := takeIf_run hGood rest behind
  rw [hBlank] at hTake
  exact discard_run hTake

theorem blank_run_other {token : Token} (hOther : token.kind ≠ .blank) (rest : List Token)
    (behind : Nat) : blank.run ⟨token :: rest, behind⟩ = .ok ((), ⟨token :: rest, behind⟩) :=
  discard_run (takeIf_run_other hOther rest behind)

/-- A word in front of a blank and an equals sign is a key of one part. -/
theorem key_run {word space sign : Token} (hWord : word.kind = .word) (hSpace : space.kind = .blank)
    (hSign : sign.kind = .equals) (rest : List Token) (behind : Nat) :
    ∃ left, key.run ⟨word :: space :: sign :: rest, behind⟩ =
      .ok (([⟨none, word.start, word.chars⟩], true), ⟨sign :: rest, left⟩) := by
  have hGet : ∀ cursor : Cursor, (get : Reader Cursor).run cursor = .ok (cursor, cursor) :=
    fun _ => rfl
  have hGood : word.fault? = none := by
    rw [Token.fault?, hWord]
  refine ⟨passed space (passed word behind), ?_⟩
  rw [key, run_bind (hGet _), keyFrom, run_bind (peek_run word _ _)]
  rw [hWord]
  dsimp only
  rw [keyFrom.more, run_bind (discard_run (take_run hGood _ _)), run_bind (blank_run hSpace _ _),
    run_bind (takeIf_run_other (by rw [hSign]; decide) _ _), if_neg (by decide)]
  rfl

/-- A quoted text is a value. -/
theorem value_run {token : Token} {quotes : Quotes} (hKind : token.kind = .quoted quotes)
    (levels : Nat) (rest : List Token) (behind : Nat) :
    (value levels).run ⟨token :: rest, behind⟩ =
      .ok (.scalar ⟨some quotes, token.start, token.chars⟩, ⟨rest, passed token behind⟩) := by
  have hGet : ∀ cursor : Cursor, (get : Reader Cursor).run cursor = .ok (cursor, cursor) :=
    fun _ => rfl
  have hGood : token.fault? = none := by
    rw [Token.fault?, hKind]
  have hWith : ∀ inner, (value.valueWith inner).run ⟨token :: rest, behind⟩ =
      .ok (.scalar ⟨some quotes, token.start, token.chars⟩, ⟨rest, passed token behind⟩) := by
    intro inner
    rw [value.valueWith, run_bind (hGet _), run_bind (peek_run token rest behind)]
    rw [hKind]
    dsimp only
    rw [scalar, run_bind (peek_run token rest behind), hKind]
    dsimp only
    rw [run_bind (discard_run (take_run hGood rest behind))]
    rfl
  cases levels with
  | zero => exact hWith none
  | succ levels => exact hWith (some (value levels))

/-- The end of a line is passed over. -/
theorem lineEnd_run {token : Token} (hKind : token.kind = .lineBreak) (hChars : token.chars = ['\n'])
    (rest : List Token) (behind : Nat) :
    lineEnd.run ⟨token :: rest, behind⟩ = .ok ((), ⟨rest, passed token behind⟩) := by
  have hGood : token.fault? = none := by
    rw [Token.fault?, hKind, hChars]
    rfl
  rw [lineEnd, run_bind (blank_run_other (by rw [hKind]; decide) _ _),
    run_bind (takeIf_run_other (by rw [hKind]; decide) _ _), if_neg (by decide),
    run_bind (peek_run token rest behind), hKind]
  dsimp only
  exact discard_run (take_run hGood rest behind)

/-- **A line**: the tokens of a pair are put together to it. -/
theorem pair_run {tokens : PairTokens} {key value : String} (hWrite : tokens.Write key value)
    (rest : List Token) (behind : Nat) :
    ∃ quotes left, (∀ start, Quotes.text quotes start tokens.value.chars = .ok value) ∧
      pair.run ⟨tokens.all ++ rest, behind⟩ =
        .ok (.pair [⟨none, tokens.key.start, key.toList⟩]
          (.scalar ⟨some quotes, tokens.value.start, tokens.value.chars⟩), ⟨rest, left⟩) := by
  obtain ⟨quotes, hKind, hText⟩ := hWrite.value
  have hSign : tokens.equals.fault? = none := by
    rw [Token.fault?, hWrite.equals]
  obtain ⟨place, hKey⟩ := key_run hWrite.key.1 hWrite.before hWrite.equals
    (tokens.after :: tokens.value :: tokens.finish :: rest) behind
  have hEquals := takeIf_run hSign (tokens.after :: tokens.value :: tokens.finish :: rest) place
  rw [hWrite.equals] at hEquals
  rw [hWrite.key.2] at hKey
  refine ⟨quotes, passed tokens.finish (passed tokens.value (passed tokens.after
    (passed tokens.equals place))), hText, ?_⟩
  show pair.run ⟨tokens.key :: tokens.before :: tokens.equals ::
    tokens.after :: tokens.value :: tokens.finish :: rest, behind⟩ = _
  rw [pair, run_bind hKey]
  dsimp only
  rw [run_bind (blank_run_other (by rw [hWrite.equals]; decide) _ _), run_bind (peek_run _ _ _),
    run_bind hEquals, if_pos rfl, run_bind (blank_run hWrite.after _ _),
    run_bind (value_run hKind _ _ _), run_bind (lineEnd_run hWrite.finish.1 hWrite.finish.2 _ _)]
  rfl

theorem gap_run_other {token : Token}
    (hKind : token.kind = .word ∨ token.kind = .finish) (rest : List Token) (behind : Nat) :
    gap.run ⟨token :: rest, behind⟩ = .ok ((), ⟨token :: rest, behind⟩) := by
  have hGet : ∀ cursor : Cursor, (get : Reader Cursor).run cursor = .ok (cursor, cursor) :=
    fun _ => rfl
  rw [gap, run_bind (hGet _), List.length_cons, gapFrom, run_bind (peek_run token rest behind)]
  rcases hKind with hWord | hFinish
  · rw [hWord]
    rfl
  · rw [hFinish]
    rfl

end Reader

/-- A document of pairs. -/
def document (pairs : List (String × String)) : String :=
  String.join (pairs.map fun entry => pair entry.1 entry.2)

theorem document_cons (key value : String) (pairs : List (String × String)) :
    (document ((key, value) :: pairs)).toList =
      (pair key value).toList ++ (document pairs).toList := by
  simp [document, String.join_cons]

/-- A line that says a pair: a key of one part, and a quoted text. -/
def Line.Says (line : Line) (entry : String × String) : Prop :=
  ∃ place quotes start chars,
    line = .pair [⟨none, place, entry.1.toList⟩] (.scalar ⟨some quotes, start, chars⟩) ∧
      ∀ start, Quotes.text quotes start chars = .ok entry.2

section Document

variable {pairs : List (String × String)} (hKeys : ∀ entry ∈ pairs, IsKey entry.1)

include hKeys

/-- There are more tokens than pairs. -/
theorem length_scan_document (start : Nat) :
    pairs.length < (Token.scan start (document pairs).toList).length := by
  induction pairs generalizing start with
  | nil => simp [document, Token.scan]
  | cons entry pairs ih =>
      obtain ⟨key, value⟩ := entry
      obtain ⟨hKey, hRest⟩ := List.forall_mem_cons.mp hKeys
      obtain ⟨tokens, stop, -, hScan⟩ := scan_pair hKey value start (document pairs).toList
      have hLess := ih hRest stop
      rw [document_cons, hScan, List.length_append, List.length_cons]
      simp only [PairTokens.all, List.length_cons, List.length_nil]
      omega

/-- **Lines**: a document of pairs has the lines that say them. -/
theorem lines_document (start : Nat) : ∀ fuel behind, pairs.length < fuel →
    ∃ lines left, (Reader.lines fuel).run ⟨Token.scan start (document pairs).toList, behind⟩ =
      .ok (lines, left) ∧ List.Forall₂ Line.Says lines pairs := by
  induction pairs generalizing start with
  | nil =>
      intro fuel behind hFuel
      obtain ⟨fuel, rfl⟩ : ∃ less, fuel = less + 1 := ⟨fuel - 1, by omega⟩
      have hScan : Token.scan start (document []).toList = [⟨.finish, start, []⟩] := by
        simp [document, Token.scan]
      refine ⟨[], ⟨[⟨.finish, start, []⟩], behind⟩, ?_, .nil⟩
      rw [hScan, Reader.lines, Reader.run_bind (Reader.gap_run_other (.inr rfl) _ _)]
      rfl
  | cons entry pairs ih =>
      intro fuel behind hFuel
      obtain ⟨fuel, rfl⟩ : ∃ less, fuel = less + 1 := ⟨fuel - 1, by omega⟩
      obtain ⟨key, value⟩ := entry
      obtain ⟨hKey, hRest⟩ := List.forall_mem_cons.mp hKeys
      obtain ⟨tokens, stop, hWrite, hScan⟩ := scan_pair hKey value start (document pairs).toList
      obtain ⟨quotes, place, hText, hPair⟩ :=
        Reader.pair_run hWrite (Token.scan stop (document pairs).toList) behind
      obtain ⟨lines, left, hLines, hSays⟩ := ih hRest stop fuel place (by simp at hFuel; omega)
      refine ⟨_ :: lines, left, ?_, .cons ⟨tokens.key.start, quotes,
        tokens.value.start, tokens.value.chars, rfl, hText⟩ hSays⟩
      have hAll : tokens.all ++ Token.scan stop (document pairs).toList =
          tokens.key :: (tokens.all.tail ++ Token.scan stop (document pairs).toList) := rfl
      rw [hAll] at hPair
      rw [document_cons, hScan, hAll, Reader.lines,
        Reader.run_bind (Reader.gap_run_other (.inl hWrite.key.1) _ _),
        Reader.run_bind (Reader.peek_run _ _ _), hWrite.key.1]
      dsimp only
      rw [Reader.run_bind hPair, Reader.run_bind hLines]
      rfl

/-- A document of pairs begins with no mark. -/
theorem lines_ofText :
    ∃ lines, Line.ofText (document pairs) = .ok lines ∧ List.Forall₂ Line.Says lines pairs := by
  have hMark : ((document pairs).toList.head? == some byteOrderMark) = false := by
    cases pairs with
    | nil => rfl
    | cons entry pairs =>
        obtain ⟨key, value⟩ := entry
        obtain ⟨hSome, hChars⟩ := hKeys _ List.mem_cons_self
        obtain ⟨first, others, hFirst⟩ := List.exists_cons_of_ne_nil hSome
        have hKey := hChars first (hFirst ▸ List.mem_cons_self)
        have hOther : first ≠ byteOrderMark := by
          rintro rfl
          exact absurd hKey (by decide)
        rw [document_cons]
        simp [pair, hFirst, hOther]
  obtain ⟨lines, left, hLines, hSays⟩ :=
    lines_document hKeys 0 _ 0 (length_scan_document hKeys 0)
  refine ⟨lines, ?_, hSays⟩
  unfold Line.ofText
  simp only [hMark, Bool.false_eq_true, if_false, hLines]
  rfl

end Document

/-! ## What the lines say -/

/-- Entries without their places. -/
def said (entries : Entries) : List (String × Item) := entries.map fun entry => (entry.1, entry.2.2)

/-- What is inserted is one more entry. -/
theorem said_insert (entries : Entries) (name : String) (spot : Spot) (item : Item) :
    (said (entries.insert name spot item)).Perm ((name, item) :: said entries) := by
  have hAll : entries.takeWhile (·.1 < name) ++ entries.dropWhile (·.1 < name) = entries :=
    List.takeWhile_append_dropWhile
  have hPerm : (entries.insert name spot item).Perm ((name, spot, item) :: entries) := by
    rw [Entries.insert]
    conv_rhs => rw [← hAll]
    exact List.perm_middle
  exact hPerm.map _

/-- A name that needs no quotes is taken as it is. -/
theorem keyOf_isKey {key : String} (hKey : IsKey key) (start : Nat) :
    keyOf [⟨none, start, key.toList⟩] = .ok ([], (key, start)) := by
  have hGood : (key.toList.takeWhile fun c => c.isAlphanum || c == '_' || c == '-') = key.toList :=
    List.takeWhile_eq_self_iff.mpr hKey.2
  have hSome : key.toList.isEmpty = false := by
    simpa using hKey.1
  have hPart : KeyPart.ofPiece ⟨none, start, key.toList⟩ = .ok (key, start) := by
    unfold KeyPart.ofPiece
    dsimp only
    rw [hGood, hSome, if_neg (by simp), String.ofList_toList]
    rfl
  unfold keyOf
  rw [List.mapM_cons, hPart]
  rfl

/-- A line that says a pair adds it, if its key is new. -/
theorem add_line {line : Line} {key value : String} {entries : Entries}
    (hSays : line.Says (key, value)) (hKey : IsKey key) (hNew : key ∉ (said entries).map (·.1)) :
    ∃ spot, Draft.add ⟨[], none, entries⟩ line =
      .ok ⟨[], none, entries.insert key spot (.scalar (.text value))⟩ := by
  obtain ⟨place, quotes, start, chars, rfl, hText⟩ := hSays
  have hItem : Item.ofForm (.scalar ⟨some quotes, start, chars⟩) = .ok (.scalar (.text value)) := by
    rw [Item.ofForm, Scalar.ofPiece]
    dsimp only
    rw [hText]
    rfl
  have hNone : entries.find? key = none := by
    rw [Entries.find?, Option.map_eq_none_iff, List.lookup_eq_none_iff]
    intro entry hEntry
    rw [bne_iff_ne]
    rintro rfl
    exact hNew (List.mem_map.mpr ⟨_, List.mem_map.mpr ⟨entry, hEntry, rfl⟩, rfl⟩)
  refine ⟨⟨place, start⟩, ?_⟩
  unfold Draft.add
  dsimp only
  rw [keyOf_isKey hKey, hItem]
  dsimp only [bind, Except.bind]
  rw [Entries.addPair, Entries.descend, if_neg (by simp), hNone]
  rfl

/-- Lines that say pairs with new keys add them all. -/
theorem foldlM_lines {lines : List Line} {pairs : List (String × String)}
    (hSays : List.Forall₂ Line.Says lines pairs) (hKeys : ∀ entry ∈ pairs, IsKey entry.1) :
    ∀ {entries : Entries}, ((said entries).map (·.1) ++ pairs.map (·.1)).Nodup →
      ∃ result, lines.foldlM Draft.add ⟨[], none, entries⟩ = .ok ⟨[], none, result⟩ ∧
        (said result).Perm
          (said entries ++ pairs.map fun entry => (entry.1, .scalar (.text entry.2))) := by
  induction hSays with
  | nil =>
      intro entries _
      exact ⟨entries, rfl, by simp⟩
  | @cons line entry lines pairs hLine _ ih =>
      intro entries hNodup
      obtain ⟨key, value⟩ := entry
      obtain ⟨hKey, hRest⟩ := List.forall_mem_cons.mp hKeys
      have hNew : key ∉ (said entries).map (·.1) := fun hOld =>
        List.disjoint_of_nodup_append hNodup hOld List.mem_cons_self
      obtain ⟨spot, hAdd⟩ := add_line hLine hKey hNew
      have hInsert := said_insert entries key spot (.scalar (.text value))
      have hLeft : ((said (entries.insert key spot (.scalar (.text value)))).map (·.1) ++
          pairs.map (·.1)).Nodup := by
        have hNames := (hInsert.map (·.1)).append_right (pairs.map (·.1))
        rw [hNames.nodup_iff]
        exact (List.perm_middle.nodup_iff).mp hNodup
      obtain ⟨result, hRun, hPerm⟩ := ih hRest hLeft
      refine ⟨result, ?_, hPerm.trans ?_⟩
      · rw [List.foldlM_cons, hAdd]
        exact hRun
      · rw [List.map_cons]
        exact (hInsert.append_right _).trans List.perm_middle.symm

/-- **Documents**: a document of pairs with distinct keys says what the pairs say. -/
theorem parse_document {pairs : List (String × String)} (hKeys : ∀ entry ∈ pairs, IsKey entry.1)
    (hNodup : (pairs.map (·.1)).Nodup) :
    ∃ entries, parse (document pairs) = .ok entries ∧
      (said entries).Perm (pairs.map fun entry => (entry.1, .scalar (.text entry.2))) := by
  obtain ⟨lines, hLines, hSays⟩ := lines_ofText hKeys
  obtain ⟨entries, hFold, hPerm⟩ := @foldlM_lines _ _ hSays hKeys [] (by simpa [said] using hNodup)
  refine ⟨entries, ?_, hPerm⟩
  unfold parse
  rw [hLines]
  dsimp only [bind, Except.bind]
  rw [hFold]
  rfl

end ModelStore.Toml
