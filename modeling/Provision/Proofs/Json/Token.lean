import Mathlib.Data.List.Chain
import Provision.Json.Token
import Provision.Proofs.Json.Numeral

/-! JSON text is taken apart into the tokens that its lexical grammar writes. -/

namespace Provision.Json

/-- The hexadecimal digits in both cases, with their values. -/
inductive HexDigit (c : Char) (value : Nat) : Prop where
  | lower : "0123456789abcdef".toList[value]? = some c → HexDigit c value
  | upper : "0123456789ABCDEF".toList[value]? = some c → HexDigit c value

/-- The letters that stand for a character behind a backslash. -/
def shortEscapes : List (Char × Char) :=
  [('"', '"'), ('\\', '\\'), ('/', '/'), ('b', '\x08'), ('f', '\x0c'), ('n', '\n'), ('r', '\r'),
    ('t', '\t')]

/-- The ways to write the pieces of a string between its quotes: control characters, quotes and
backslashes are escaped, and every code unit of 16 bits may be. -/
inductive Quoted : List Piece → List Char → Prop where
  | nil : Quoted [] []
  | plain {c : Char} {pieces : List Piece} {text : List Char} : 32 ≤ c.toNat → c ≠ '"' → c ≠ '\\' →
      Quoted pieces text → Quoted (.char c :: pieces) (c :: text)
  | short {letter c : Char} {pieces : List Piece} {text : List Char} :
      (letter, c) ∈ shortEscapes → Quoted pieces text →
      Quoted (.char c :: pieces) ('\\' :: letter :: text)
  | unit {a b c d : Char} {w x y z : Nat} {pieces : List Piece} {text : List Char} :
      HexDigit a w → HexDigit b x → HexDigit c y → HexDigit d z → Quoted pieces text →
      Quoted (.unit (w * 4096 + x * 256 + y * 16 + z) :: pieces)
        ('\\' :: 'u' :: a :: b :: c :: d :: text)

/-- The codes of the hexadecimal digits, by which they are read. -/
theorem hexDigit_table : ∀ value < 16,
    "0123456789abcdef".toList[value]? =
        some (Char.ofNat (if value < 10 then 48 + value else 87 + value)) ∧
      "0123456789ABCDEF".toList[value]? =
        some (Char.ofNat (if value < 10 then 48 + value else 55 + value)) ∧
      ("0123456789abcdef".toList[value]?).bind hexDigit? = some value ∧
      ("0123456789ABCDEF".toList[value]?).bind hexDigit? = some value := by
  decide

/-- A character with the code of a digit in lower case is that digit. -/
theorem HexDigit.of_lower {c : Char} {value : Nat} (small : value < 16)
    (code : c.toNat = if value < 10 then 48 + value else 87 + value) : HexDigit c value := by
  -- The table has the character of this code in the place of the value.
  refine .lower ?_
  rw [(hexDigit_table value small).1, ← code, Char.ofNat_toNat]

/-- A character with the code of a digit in upper case is that digit. -/
theorem HexDigit.of_upper {c : Char} {value : Nat} (small : value < 16)
    (code : c.toNat = if value < 10 then 48 + value else 55 + value) : HexDigit c value := by
  -- Letters in upper case have codes of their own in the table.
  refine .upper ?_
  rw [(hexDigit_table value small).2.1, ← code, Char.ofNat_toNat]

/-- Hexadecimal digits are read by their values. -/
theorem hexDigit?_eq_some_iff {c : Char} {value : Nat} :
    hexDigit? c = some value ↔ HexDigit c value := by
  constructor
  · intro read
    -- Each of the three ranges of characters has its own first code.
    unfold hexDigit? at read
    split_ifs at read with digit lower upper
    · obtain ⟨least, most⟩ : 48 ≤ c.toNat ∧ c.toNat ≤ 57 := Char.isDigit_iff_toNat.mp digit
      have counted : c.toNat - 48 = value := Option.some.inj read
      exact .of_lower (by omega) (by rw [if_pos (by omega)]; omega)
    · obtain ⟨least, most⟩ : 97 ≤ c.toNat ∧ c.toNat ≤ 102 := lower
      have counted : c.toNat - 97 + 10 = value := Option.some.inj read
      exact .of_lower (by omega) (by rw [if_neg (by omega)]; omega)
    · obtain ⟨least, most⟩ : 65 ≤ c.toNat ∧ c.toNat ≤ 70 := upper
      have counted : c.toNat - 65 + 10 = value := Option.some.inj read
      exact .of_upper (by omega) (by rw [if_neg (by omega)]; omega)
  · -- A digit that is written is one of the sixteen in the table.
    intro digit
    cases digit with
    | lower listed =>
      have small : value < 16 := (List.getElem?_eq_some_iff.mp listed).1
      have read := (hexDigit_table value small).2.2.1
      rwa [listed] at read
    | upper listed =>
      have small : value < 16 := (List.getElem?_eq_some_iff.mp listed).1
      have read := (hexDigit_table value small).2.2.2
      rwa [listed] at read

/-- The escapes of one letter are read by their table. -/
theorem shortEscape?_eq_some_iff {letter c : Char} :
    shortEscape? letter = some c ↔ (letter, c) ∈ shortEscapes := by
  unfold shortEscape? shortEscapes
  split <;> simp_all [eq_comm]

/-- What is read of a string is written up to its closing quote. -/
theorem quoted_of_readString {text rest : List Char} {pieces : List Piece}
    (read : readString text = some (pieces, rest)) :
    ∃ part, text = part ++ '"' :: rest ∧ Quoted pieces part := by
  -- Each branch of the reader takes one piece, in the way in which it is written.
  fun_induction readString text generalizing pieces rest
  case case1 => cases read
  case case2 rest =>
    cases read
    exact ⟨[], rfl, .nil⟩
  case case3 ih =>
    -- Four hexadecimal digits.
    simp only [Option.bind_eq_bind, Option.bind_eq_some_iff] at read
    obtain ⟨w, first, x, second, y, third, z, fourth, ⟨found, after⟩, inner, same⟩ := read
    cases same
    obtain ⟨part, rfl, quoted⟩ := ih inner
    exact ⟨_, rfl, .unit (hexDigit?_eq_some_iff.mp first) (hexDigit?_eq_some_iff.mp second)
      (hexDigit?_eq_some_iff.mp third) (hexDigit?_eq_some_iff.mp fourth) quoted⟩
  case case4 ih =>
    -- One letter behind a backslash.
    simp only [Option.bind_eq_bind, Option.bind_eq_some_iff] at read
    obtain ⟨c, escape, ⟨found, after⟩, inner, same⟩ := read
    cases same
    obtain ⟨part, rfl, quoted⟩ := ih inner
    exact ⟨_, rfl, .short (shortEscape?_eq_some_iff.mp escape) quoted⟩
  case case5 => cases read
  case case6 c rest noQuote _ _ printable ih =>
    -- A character that stands for itself.
    simp only [Option.bind_eq_bind, Option.bind_eq_some_iff] at read
    obtain ⟨⟨found, after⟩, inner, same⟩ := read
    cases same
    obtain ⟨part, rfl, quoted⟩ := ih inner
    obtain ⟨least, noBackslash⟩ := not_or.mp printable
    exact ⟨_, rfl, .plain (Nat.le_of_not_lt least) noQuote noBackslash quoted⟩

/-- The pieces of a string are read up to its closing quote. -/
theorem readString_of_quoted {part : List Char} {pieces : List Piece} (quoted : Quoted pieces part)
    (rest : List Char) : readString (part ++ '"' :: rest) = some (pieces, rest) := by
  -- The induction is on how the pieces are written, and each way leads to its branch of the reader.
  induction quoted with
  | nil => rfl
  | @plain c pieces text printable noQuote noBackslash quoted ih =>
    -- A plain character passes the only test there is for it.
    have printed : ¬(c.toNat < 32 ∨ c = '\\') := by simp [noBackslash, printable]
    rw [List.cons_append, readString.eq_5 _ _ noQuote (by simp [noBackslash])
      (by simp [noBackslash]), if_neg printed, ih]
    rfl
  | @short letter c pieces text listed quoted ih =>
    -- No letter of the table is the one in front of hexadecimal digits.
    have noUnit : letter ≠ 'u' := by
      rintro rfl
      simp [shortEscapes] at listed
    rw [List.cons_append, List.cons_append, readString.eq_4 _ _ (by simp [noUnit]),
      shortEscape?_eq_some_iff.mpr listed, ih]
    rfl
  | unit first second third fourth quoted ih =>
    simp [readString, hexDigit?_eq_some_iff.mpr first, hexDigit?_eq_some_iff.mpr second,
      hexDigit?_eq_some_iff.mpr third, hexDigit?_eq_some_iff.mpr fourth, ih]

/-- The ways to write a token. -/
inductive Lexeme : Token → List Char → Prop where
  | openBrace : Lexeme .openBrace ['{']
  | closeBrace : Lexeme .closeBrace ['}']
  | openBracket : Lexeme .openBracket ['[']
  | closeBracket : Lexeme .closeBracket [']']
  | colon : Lexeme .colon [':']
  | comma : Lexeme .comma [',']
  | null : Lexeme .null "null".toList
  | isTrue : Lexeme (.bool true) "true".toList
  | isFalse : Lexeme (.bool false) "false".toList
  | number {n : Numeral} {text : List Char} : n.Written text → Lexeme (.number n) text
  | text {pieces : List Piece} {text : List Char} : Quoted pieces text →
      Lexeme (.text pieces) ('"' :: (text ++ ['"']))

/-- The characters that could go on with a token. -/
def Token.continues : Token → Char → Bool
  | .number _ => Numeral.continues
  | _ => fun _ => false

/-- What is read as a word or number is written that way. -/
theorem lexeme_of_readWord {text rest : List Char} {token : Token}
    (read : readWord text = some (token, rest)) :
    ∃ part, text = part ++ rest ∧ Lexeme token part := by
  -- Three words are compared, and all else has to be a numeral.
  unfold readWord at read
  split at read
  · cases read
    exact ⟨_, rfl, .null⟩
  · cases read
    exact ⟨_, rfl, .isTrue⟩
  · cases read
    exact ⟨_, rfl, .isFalse⟩
  · obtain ⟨⟨n, after⟩, found, same⟩ := Option.map_eq_some_iff.mp read
    cases same
    obtain ⟨part, split, written⟩ := Numeral.read_recognises.sound found
    exact ⟨part, split, .number written⟩

/-- What is read as a token is written that way. -/
theorem lexeme_of_readToken {text rest : List Char} {token : Token}
    (read : readToken text = some (token, rest)) :
    ∃ part, text = part ++ rest ∧ Lexeme token part := by
  -- A quote opens a string, a mark is a token by itself, and a word or a numeral is left.
  unfold readToken at read
  split at read
  · cases read
  · -- The closing quote belongs to the token.
    obtain ⟨⟨pieces, after⟩, found, same⟩ := Option.map_eq_some_iff.mp read
    cases same
    obtain ⟨part, rfl, quoted⟩ := quoted_of_readString found
    exact ⟨_, by simp, .text quoted⟩
  · split at read
    · rename_i c _ _ _ mark
      cases read
      unfold punctuation? at mark
      split at mark <;> cases mark
      · exact ⟨_, rfl, .openBrace⟩
      · exact ⟨_, rfl, .closeBrace⟩
      · exact ⟨_, rfl, .openBracket⟩
      · exact ⟨_, rfl, .closeBracket⟩
      · exact ⟨_, rfl, .colon⟩
      · exact ⟨_, rfl, .comma⟩
    · exact lexeme_of_readWord read

/-- Where a numeral starts, no other token does. -/
theorem readToken_of_starts {c : Char} {text : List Char} (starts : c = '-' ∨ c.isDigit = true) :
    readToken (c :: text) = (Numeral.read (c :: text)).map fun (n, rest) => (.number n, rest) := by
  -- The first characters of the other tokens are neither digits nor a minus sign.
  have other {mark : Char} (noMinus : mark ≠ '-') (noDigit : mark.isDigit = false) : c ≠ mark := by
    rintro rfl
    simp_all
  -- No mark is a digit or a minus sign.
  have noMark : punctuation? c = none := by
    unfold punctuation?
    split
    any_goals exact absurd rfl (other (by decide) rfl)
    rfl
  unfold readToken
  split
  · rename_i empty
    cases empty
  · rename_i quote
    exact absurd (List.cons.inj quote).1 (other (by decide) rfl)
  · rename_i same
    cases same
    rw [noMark]
    dsimp only
    unfold readWord
    split
    · rename_i word
      exact absurd (List.cons.inj word).1 (other (by decide) rfl)
    · rename_i word
      exact absurd (List.cons.inj word).1 (other (by decide) rfl)
    · rename_i word
      exact absurd (List.cons.inj word).1 (other (by decide) rfl)
    · rfl

/-- A token is read up to the first character that cannot continue it. -/
theorem readToken_of_lexeme {part : List Char} {token : Token} (lexeme : Lexeme token part)
    {rest : List Char} (ends : rest.head?.any token.continues = false) :
    readToken (part ++ rest) = some (token, rest) := by
  -- Numerals are the only tokens that do not show their own end.
  cases lexeme with
  | number written =>
    have read := Numeral.read_recognises.complete written rest ends
    obtain ⟨first, more, rfl, starts⟩ := written.exists_cons
    rw [List.cons_append] at read ⊢
    rw [readToken_of_starts starts, read]
    rfl
  | text quoted => simp [readToken, readString_of_quoted quoted]
  | _ => rfl

/-- A run of spaces, tabs, line feeds and carriage returns. -/
def Blanks (text : List Char) : Prop := ∀ c ∈ text, c ∈ [' ', '\t', '\n', '\r']

/-- The texts in which some tokens are written one after the other, with blanks around them. -/
inductive Lexed : List Token → List Char → Prop where
  | nil {blanks : List Char} : Blanks blanks → Lexed [] blanks
  | cons {blanks part rest : List Char} {token : Token} {tokens : List Token} : Blanks blanks →
      Lexeme token part → Lexed tokens rest → Lexed (token :: tokens) (blanks ++ (part ++ rest))

/-- The blanks of the grammar are those that are skipped. -/
theorem isBlank_iff {c : Char} : isBlank c = true ↔ c ∈ [' ', '\t', '\n', '\r'] := by
  simp [isBlank, or_assoc]

/-- A token starts with no blank. -/
theorem Lexeme.exists_cons {token : Token} {part : List Char} (lexeme : Lexeme token part) :
    ∃ first more, part = first :: more ∧ isBlank first = false := by
  -- Only numerals have more than one possible first character.
  cases lexeme with
  | number written =>
    obtain ⟨first, more, rfl, starts⟩ := written.exists_cons
    refine ⟨first, more, rfl, ?_⟩
    rw [← Bool.not_eq_true, isBlank_iff]
    intro blank
    simp only [List.mem_cons, List.not_mem_nil, or_false] at blank
    rcases blank with rfl | rfl | rfl | rfl <;> simp at starts
  | _ => exact ⟨_, _, rfl, rfl⟩

/-- The tokens that are found in a text are written there. -/
theorem lexed_of_tokensWithin {fuel : Nat} {text : List Char} {tokens : List Token}
    (found : tokensWithin fuel text = some tokens) : Lexed tokens text := by
  -- One step skips blanks and takes one token, if there is any.
  induction fuel generalizing text tokens with
  | zero =>
    rw [tokensWithin] at found
    split at found
    · -- No more steps are left, and no more characters either.
      rename_i empty
      cases found
      rw [List.isEmpty_iff] at empty
      subst empty
      exact .nil (by simp [Blanks])
    · cases found
  | succ fuel ih =>
    have blanks : Blanks (text.takeWhile isBlank) := fun c member =>
      isBlank_iff.mp (List.all_eq_true.mp List.all_takeWhile c member)
    have parts := text.takeWhile_append_dropWhile (p := isBlank)
    rw [tokensWithin] at found
    split at found
    · rename_i empty
      cases found
      rw [empty, List.append_nil] at parts
      rw [← parts]
      exact .nil blanks
    · -- The token is read behind the blanks, and the others behind it.
      rename_i c rest begins
      simp only [Option.bind_eq_bind, Option.bind_eq_some_iff] at found
      obtain ⟨⟨token, after⟩, read, more, later, same⟩ := found
      cases same
      obtain ⟨part, split, lexeme⟩ := lexeme_of_readToken read
      rw [← parts, begins, split]
      exact .cons blanks lexeme (ih later)

/-- A list of tokens that starts with no numeral. -/
def NoNumber (tokens : List Token) : Prop := ∀ n, tokens.head? ≠ some (.number n)

/-- A numeral of a list of tokens has no numeral right behind it. -/
def Apart (tokens : List Token) : Prop :=
  tokens.IsChain fun first second => ∀ n m, ¬(first = .number n ∧ second = .number m)

/-- No blank goes on with a numeral. -/
theorem Blanks.not_continues {blanks : List Char} (all : Blanks blanks) :
    ∀ c ∈ blanks, Numeral.continues c = false := by
  -- There are four blanks, and a numeral goes on with none of them.
  intro c member
  have blank := all c member
  simp only [List.mem_cons, List.not_mem_nil, or_false] at blank
  rcases blank with rfl | rfl | rfl | rfl <;> rfl

/-- Tokens of which the first is no numeral do not go on with a numeral. -/
theorem Lexed.ends {tokens : List Token} {text : List Char} (lexed : Lexed tokens text)
    (noNumber : NoNumber tokens) : text.head?.any Numeral.continues = false := by
  -- The first character is a blank, or the first one of a token.
  cases lexed with
  | nil all =>
    have behind : (text ++ []).head?.any Numeral.continues = false :=
      Path.head?_append_any all.not_continues rfl
    rwa [List.append_nil] at behind
  | cons all lexeme lexed =>
    refine Path.head?_append_any all.not_continues ?_
    cases lexeme with
    | number => exact absurd rfl (noNumber _)
    | _ => rfl

/-- What is written behind a token does not go on with it. -/
theorem Lexed.ends_of_apart {token : Token} {tokens : List Token} {text : List Char}
    (lexed : Lexed tokens text) (apart : Apart (token :: tokens)) :
    text.head?.any token.continues = false := by
  -- Only a numeral could go on, and what stands right behind it is no numeral.
  cases token with
  | number n =>
    refine lexed.ends fun m first => ?_
    obtain ⟨more, rfl⟩ := List.head?_eq_some_iff.mp first
    exact (List.isChain_cons_cons.mp apart).1 n m ⟨rfl, rfl⟩
  | _ => cases text <;> rfl

/-- Tokens are found where they are written, if no numeral stands right behind another. -/
theorem tokensWithin_of_lexed {tokens : List Token} {text : List Char} (lexed : Lexed tokens text)
    (apart : Apart tokens) {fuel : Nat} (enough : text.length < fuel) :
    tokensWithin fuel text = some tokens := by
  -- The induction is on what is written, of which each token makes the text shorter.
  induction lexed generalizing fuel with
  | @nil blanks all =>
    obtain ⟨fuel, rfl⟩ := Nat.exists_eq_succ_of_ne_zero (Nat.ne_zero_of_lt enough)
    -- Behind the last blanks there is nothing.
    have skipped : (blanks ++ []).dropWhile isBlank = [] :=
      (Path.span_append (fun c member => isBlank_iff.mpr (all c member)) rfl).2
    rw [List.append_nil] at skipped
    rw [tokensWithin, skipped]
  | @cons blanks part rest token tokens all lexeme lexed ih =>
    obtain ⟨fuel, rfl⟩ := Nat.exists_eq_succ_of_ne_zero (Nat.ne_zero_of_lt enough)
    -- The token is read up to its end, because nothing behind goes on with it.
    have read := readToken_of_lexeme lexeme (lexed.ends_of_apart apart)
    obtain ⟨first, more, rfl, noBlank⟩ := lexeme.exists_cons
    have skipped : (blanks ++ (first :: more ++ rest)).dropWhile isBlank = first :: more ++ rest :=
      (Path.span_append (fun c member => isBlank_iff.mpr (all c member)) (by simp [noBlank])).2
    have later : tokensWithin fuel rest = some tokens := ih apart.tail (by simp at enough; omega)
    rw [tokensWithin, skipped]
    rw [List.cons_append] at read ⊢
    simp [read, later]

/-- The tokens of a text are those that are written there. -/
theorem tokens?_eq_some_iff {text : String} {tokens : List Token} (apart : Apart tokens) :
    tokens? text = some tokens ↔ Lexed tokens text.toList :=
  ⟨lexed_of_tokensWithin, fun lexed => tokensWithin_of_lexed lexed apart (Nat.lt_succ_self _)⟩

end Provision.Json
