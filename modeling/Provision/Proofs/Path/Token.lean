import Mathlib.Data.List.Induction
import Provision.Proofs.Path.Grammar
import Provision.Proofs.Run

/-! The parts of path expressions that stand for one thing each, spaces, names, numbers, literals
and comparisons, are read as the grammar derives them. -/

namespace Provision.Path

open Grammar

/-- A reader finds what a grammar derives from the start of a text, as long as the character behind
it cannot continue it. -/
structure Recognises {α : Type} (read : List Char → Except Stop (α × List Char))
    (grammar : List Char → α → Prop) (continues : Char → Bool) : Prop where
  /-- What has been read is derived. -/
  sound {text rest : List Char} {found : α} : read text = .ok (found, rest) →
    ∃ part, text = part ++ rest ∧ grammar part found
  /-- What is derived is read, and nothing more. -/
  complete {part : List Char} {found : α} : grammar part found → ∀ rest : List Char,
    rest.head?.any continues = false → read (part ++ rest) = .ok (found, rest)

/-! Runs of characters of one class. -/

/-- The spaces of the grammar are the blanks that the reader skips. -/
theorem isBlank_iff {c : Char} : isBlank c = true ↔ IsSpace c := by
  -- Both list the same five characters.
  simp [isBlank, IsSpace, or_assoc]

/-- The letters of the grammar are the letters of ASCII. -/
theorem isAlpha_iff {c : Char} : c.isAlpha = true ↔ IsLetter c := by
  -- The test is one of two ranges.
  change (decide ('A' ≤ c ∧ c ≤ 'Z') || (decide ('a' ≤ c) && decide (c ≤ 'z'))) = true ↔ _
  simp [IsLetter]

/-- A name starts with a letter or an underscore. -/
theorem isNameStart_iff {c : Char} : isNameStart c = true ↔ IsLetter c ∨ c = '_' := by
  rw [isNameStart, Bool.or_eq_true, isAlpha_iff, beq_iff_eq]

/-- A name goes on with letters, digits, underscores and hyphens. -/
theorem isNameChar_iff {c : Char} :
    isNameChar c = true ↔ IsLetter c ∨ IsDigit c ∨ c = '_' ∨ c = '-' := by
  simp [isNameChar, IsDigit, Char.isAlphanum, isAlpha_iff, Char.isDigit, Char.le_def, or_assoc]

/-- What starts a name also continues one. -/
theorem isNameChar_of_isNameStart {c : Char} (starts : isNameStart c = true) :
    isNameChar c = true := by
  -- Letters and underscores are among the characters of names.
  rw [isNameChar_iff]
  rcases isNameStart_iff.mp starts with letter | underscore
  · exact .inl letter
  · exact .inr (.inr (.inl underscore))

/-- No blank continues a name. -/
theorem not_isNameChar_of_isSpace {c : Char} (space : IsSpace c) : isNameChar c = false := by
  -- None of the five spaces is a letter, a digit, an underscore or a hyphen.
  simp only [IsSpace, List.mem_cons, List.not_mem_nil, or_false] at space
  rcases space with rfl | rfl | rfl | rfl | rfl
  all_goals rfl

/-- A run of characters ends in front of the first one of another class. -/
theorem span_append {p : Char → Bool} {part rest : List Char} (all : ∀ c ∈ part, p c = true)
    (ends : rest.head?.any p = false) :
    (part ++ rest).takeWhile p = part ∧ (part ++ rest).dropWhile p = rest := by
  -- All of the part is taken, and the rest ends the run or is empty.
  rw [List.takeWhile_append_of_pos all, List.dropWhile_append_of_pos all]
  cases rest with
  | nil => simp
  | cons c rest =>
    have other : p c = false := by simpa using ends
    simp [other]

/-- The character at which two parts start is the one of the second part when the first one is
empty. -/
theorem head?_append_any {p : Char → Bool} {part rest : List Char}
    (none : ∀ c ∈ part, p c = false) (ends : rest.head?.any p = false) :
    (part ++ rest).head?.any p = false := by
  -- The first part has the first character unless it is empty.
  cases part with
  | nil => exact ends
  | cons c part => simpa using none c (by simp)

/-- What has been skipped are spaces. -/
theorem skipBlanks_derived (text : List Char) :
    ∃ before, text = before ++ skipBlanks text ∧ Spaces before := by
  -- The skipped characters are the longest run of blanks.
  refine ⟨text.takeWhile isBlank, List.takeWhile_append_dropWhile.symm, fun c member => ?_⟩
  have all := List.all_eq_true.mp (List.all_takeWhile (p := isBlank) (l := text))
  exact isBlank_iff.mp (all c member)

/-- Spaces are skipped up to the first other character. -/
theorem skipBlanks_spaces {before : List Char} (spaces : Spaces before) (rest : List Char)
    (ends : rest.head?.any isBlank = false) : skipBlanks (before ++ rest) = rest :=
  (span_append (fun c member => isBlank_iff.mpr (spaces c member)) ends).2

/-- A name is a run of characters of which the first one can start it. -/
theorem name_iff {text : List Char} {found : String} :
    Name text found ↔ text.head?.any isNameStart = true ∧ (∀ c ∈ text, isNameChar c = true) ∧
      found = String.ofList text := by
  -- The first character is told apart from those that may follow it.
  constructor
  · rintro ⟨starts, continues⟩
    have first := isNameStart_iff.mpr starts
    refine ⟨by simpa using first, ?_, rfl⟩
    intro c member
    rcases List.mem_cons.mp member with rfl | later
    · exact isNameChar_of_isNameStart first
    · exact isNameChar_iff.mpr (continues c later)
  · rintro ⟨starts, all, rfl⟩
    -- A text without characters cannot start a name.
    cases text with
    | nil => simp at starts
    | cons first rest =>
      refine .mk (isNameStart_iff.mp (by simpa using starts)) fun c member => ?_
      exact isNameChar_iff.mp (all c (List.mem_cons_of_mem _ member))

/-- Where a name starts, a name is read. -/
theorem name_derived {text : List Char} (starts : text.head?.any isNameStart = true) :
    ∃ part, text = part ++ afterName text ∧ Name part (name text) := by
  -- The name is the longest run of its characters.
  refine ⟨text.takeWhile isNameChar, List.takeWhile_append_dropWhile.symm, ?_⟩
  rw [name_iff]
  refine ⟨?_, List.all_eq_true.mp List.all_takeWhile, rfl⟩
  -- The first character is taken, for it can also continue a name.
  cases text with
  | nil => simp at starts
  | cons first rest =>
    have taken : isNameChar first = true := isNameChar_of_isNameStart (by simpa using starts)
    simpa [taken] using starts

/-- A name is read up to the first character that cannot continue it. -/
theorem name_complete {part rest : List Char} {found : String} (named : Name part found)
    (ends : rest.head?.any isNameChar = false) :
    (part ++ rest).head?.any isNameStart = true ∧ name (part ++ rest) = found ∧
      afterName (part ++ rest) = rest := by
  -- The run ends where the rest begins, so it is the name and no more.
  obtain ⟨starts, all, rfl⟩ := name_iff.mp named
  have ⟨taken, dropped⟩ := span_append all ends
  refine ⟨?_, by rw [name, taken], dropped⟩
  cases part with
  | nil => simp at starts
  | cons first part => simpa using starts

/-- Where a name starts there are no spaces to be skipped. -/
theorem not_isBlank_of_isNameStart {text : List Char} (starts : text.head?.any isNameStart = true) :
    text.head?.any isBlank = false := by
  -- The first character can continue a name, and no space can.
  cases text with
  | nil => rfl
  | cons first rest =>
    have taken : isNameChar first = true := isNameChar_of_isNameStart (by simpa using starts)
    -- A space would not continue a name.
    cases blank : isBlank first with
    | false => simpa using blank
    | true =>
      rw [not_isNameChar_of_isSpace (isBlank_iff.mp blank)] at taken
      cases taken

/-! Numbers. -/

/-- The characters of the ten digits, and what they count. -/
theorem digitChar_table : ∀ digit < 10, digit.digitChar = Char.ofNat (48 + digit) ∧
    digit.digitChar.isDigit = true ∧ Numeral.digitValue digit.digitChar = digit := by
  decide

/-- A digit is the character of the number that it counts. -/
theorem eq_digitChar {c : Char} (digit : c.isDigit = true) :
    Numeral.digitValue c < 10 ∧ c = (Numeral.digitValue c).digitChar := by
  -- Digits have the codes from 48 to 57, and each counts from the first of them.
  obtain ⟨least, most⟩ := Char.isDigit_iff_toNat.mp digit
  have least : 48 ≤ c.toNat := least
  have most : c.toNat ≤ 57 := most
  have value : Numeral.digitValue c = c.toNat - 48 := rfl
  have small : Numeral.digitValue c < 10 := by omega
  have code : 48 + Numeral.digitValue c = c.toNat := by omega
  refine ⟨small, ?_⟩
  rw [(digitChar_table _ small).1, code, Char.ofNat_toNat]

/-- Behind a further digit the number is ten times as large and larger by that digit. -/
theorem natOf_append (digits : List Char) (c : Char) :
    Numeral.natOf (digits ++ [c]) = 10 * Numeral.natOf digits + Numeral.digitValue c := by
  -- The digits in front move up one place.
  have shift : Numeral.natOf (digits ++ [c]) =
      Numeral.natOf digits * 10 + Numeral.digitValue c := by
    simp [Numeral.natOf]
  omega

/-- Digits in a row are a decimal of the number that they spell. -/
theorem decimal_of_digits {digits : List Char} (some : digits ≠ [])
    (all : ∀ c ∈ digits, c.isDigit = true) : Decimal digits (Numeral.natOf digits) := by
  -- The last digit counts ones, so the induction is over the digits in front of it.
  induction digits using List.reverseRecOn with
  | nil => exact absurd rfl some
  | append_singleton digits last ih =>
    have member : last ∈ digits ++ [last] := by simp
    obtain ⟨small, same⟩ := eq_digitChar (all last member)
    rw [natOf_append]
    -- The number has a single digit, or there is one in front of the last.
    by_cases first : digits = []
    · subst first
      have single := Decimal.single small
      rw [← same] at single
      simpa [Numeral.natOf] using single
    · have front := ih first fun c member => all c (List.mem_append_left _ member)
      have longer := Decimal.further front small
      rwa [← same] at longer

/-- A decimal is digits in a row, and its number is the one that they spell. -/
theorem digits_of_decimal {digits : List Char} {number : Nat} (derived : Decimal digits number) :
    digits ≠ [] ∧ (∀ c ∈ digits, c.isDigit = true) ∧ Numeral.natOf digits = number := by
  -- The induction adds one digit behind those that are there.
  induction derived with
  | single small =>
    obtain ⟨-, digit, value⟩ := digitChar_table _ small
    refine ⟨List.cons_ne_nil _ _, by simpa using digit, ?_⟩
    simpa [Numeral.natOf] using value
  | further _ small ih =>
    obtain ⟨-, digit, value⟩ := digitChar_table _ small
    obtain ⟨some, all, spelt⟩ := ih
    refine ⟨by simp, ?_, by rw [natOf_append, spelt, value]⟩
    intro c member
    rcases List.mem_append.mp member with earlier | last
    · exact all c earlier
    · simp only [List.mem_singleton] at last
      rw [last]
      exact digit

/-- A decimal starts with a digit. -/
theorem Grammar.Decimal.starts {digits : List Char} {number : Nat}
    (derived : Decimal digits number) : digits.head?.any Char.isDigit = true := by
  -- A decimal consists of digits, and there is at least one.
  obtain ⟨nonempty, all, -⟩ := digits_of_decimal derived
  cases digits with
  | nil => exact absurd rfl nonempty
  | cons c digits => exact all c List.mem_cons_self

/-- Digits behind an optional minus sign are an index as far as 64 bits go. -/
theorem indexOf?_eq_some_iff {negative : Bool} {digits : List Char} {position : Int} :
    indexOf? negative digits = some position ↔ digits ≠ [] ∧
      position = (if negative then -(Numeral.natOf digits : Int) else Numeral.natOf digits) ∧
      -9223372036854775808 ≤ position ∧ position < 9223372036854775808 := by
  -- The sign is left aside: what matters is whether the number fits into 64 bits.
  unfold indexOf?
  dsimp only
  generalize (if negative then -(Numeral.natOf digits : Int) else Numeral.natOf digits) = value
  simp only [List.isEmpty_iff]
  split
  · -- What is refused is no digit at all or out of range.
    rename_i outside
    refine iff_of_false (fun absent => nomatch absent) ?_
    rintro ⟨nonempty, rfl, least, most⟩
    rcases outside with empty | low | high
    · exact nonempty empty
    · omega
    · omega
  · rename_i inside
    have ⟨nonempty, bounds⟩ := not_or.mp inside
    have ⟨least, most⟩ := not_or.mp bounds
    constructor
    · rintro ⟨rfl⟩
      exact ⟨nonempty, rfl, by omega, by omega⟩
    · rintro ⟨-, rfl, -⟩
      rfl

/-- The minus sign is split off when there is one, and nothing else is. -/
theorem splitMinus_eq (text : List Char) :
    text = (if (splitMinus text).1 then ['-'] else []) ++ (splitMinus text).2 := by
  -- With a sign or without, nothing is lost.
  unfold splitMinus
  split <;> rfl

/-- In front of a digit there is no minus sign to be split off. -/
theorem splitMinus_append {digits : List Char} (digit : digits.head?.any Char.isDigit = true)
    (rest : List Char) : splitMinus (digits ++ rest) = (false, digits ++ rest) := by
  -- A minus sign in front would be the digit.
  unfold splitMinus
  split
  · rename_i minus
    cases digits with
    | nil => cases digit
    | cons c digits =>
      cases minus
      cases digit
  · rfl

/-- The number behind the sign is read from a run of digits. -/
theorem readIndex_eq (text : List Char) : readIndex text =
    match indexOf? (splitMinus text).1 ((splitMinus text).2.takeWhile Char.isDigit) with
    | some value => .ok (value, (splitMinus text).2.dropWhile Char.isDigit)
    | none => .error ⟨(splitMinus text).2.dropWhile Char.isDigit, .badIndex⟩ := rfl

/-- A decimal is read as it counts behind its sign, up to the first character that is no digit. -/
theorem readIndex_of_decimal {text digits rest : List Char} {number : Nat} {negative : Bool}
    (sign : splitMinus text = (negative, digits ++ rest)) (decimal : Decimal digits number)
    (ends : rest.head?.any Char.isDigit = false) {position : Int}
    (counts : position = if negative then -(number : Int) else number)
    (least : -9223372036854775808 ≤ position) (most : position < 9223372036854775808) :
    readIndex text = .ok (position, rest) := by
  -- The run of digits is the decimal, and its number is accepted because it is in range.
  obtain ⟨nonempty, all, spelt⟩ := digits_of_decimal decimal
  obtain ⟨taken, dropped⟩ := span_append all ends
  have accepted : indexOf? negative digits = some position := by
    rw [indexOf?_eq_some_iff, spelt]
    exact ⟨nonempty, counts, least, most⟩
  rw [readIndex_eq, sign]
  simp only [taken, dropped, accepted]

/-- An index is read up to the first character that is no digit. -/
theorem readIndex_recognises : Recognises readIndex Index Char.isDigit where
  sound {text rest position} read := by
    rw [readIndex_eq] at read
    split at read
    · rename_i value accepted
      cases read
      -- What has been taken is a decimal, and the sign in front of it decides how it counts.
      obtain ⟨nonempty, value, least, most⟩ := indexOf?_eq_some_iff.mp accepted
      have decimal := decimal_of_digits nonempty (List.all_eq_true.mp List.all_takeWhile)
      have parts := splitMinus_eq text
      have run := List.takeWhile_append_dropWhile (p := Char.isDigit) (l := (splitMinus text).2)
      cases sign : (splitMinus text).1 with
      | false =>
        -- Without a sign it counts as it is spelt.
        rw [sign] at parts value
        simp only [Bool.false_eq_true, if_false, List.nil_append] at parts value
        refine ⟨(splitMinus text).2.takeWhile Char.isDigit, by rw [run]; exact parts, ?_⟩
        rw [value]
        exact .plain decimal (by omega)
      | true =>
        -- Behind a sign it counts downwards.
        rw [sign] at parts value
        simp only [if_true, List.singleton_append] at parts value
        refine ⟨'-' :: (splitMinus text).2.takeWhile Char.isDigit, ?_, ?_⟩
        · rw [List.cons_append, run]
          exact parts
        · rw [value]
          exact .minus decimal (by omega)
    · cases read
  complete {part position} derived rest ends := by
    cases derived with
    | plain decimal small =>
      have sign := splitMinus_append decimal.starts rest
      exact readIndex_of_decimal sign decimal ends rfl (by omega) (by omega)
    | @minus digits number decimal small =>
      have sign : splitMinus ('-' :: digits ++ rest) = (true, digits ++ rest) := rfl
      exact readIndex_of_decimal sign decimal ends rfl (by omega) (by omega)

/-! Literals and comparisons. -/

/-- Quoted text goes up to the first closing quote. -/
theorem readQuoted_eq_ok_iff {quote : Char} {text rest : List Char} {found : String} :
    readQuoted quote text = .ok (found, rest) ↔
      ∃ part, text = part ++ quote :: rest ∧ quote ∉ part ∧ found = String.ofList part := by
  -- Text that lacks the quote consists of other characters.
  have differs {part : List Char} (absent : quote ∉ part) : ∀ c ∈ part, (c != quote) = true := by
    intro c member
    rw [bne_iff_ne]
    rintro rfl
    exact absent member
  constructor
  · intro read
    unfold readQuoted at read
    split at read
    · cases read
    · rename_i closing left dropped
      cases read
      have whole := List.takeWhile_append_dropWhile (p := (· != quote)) (l := text)
      -- Dropping stopped at the quote itself.
      have closes : closing = quote := by
        have stopped := List.head?_dropWhile_not (· != quote) text
        rw [dropped] at stopped
        simpa using stopped
      rw [dropped, closes] at whole
      refine ⟨text.takeWhile (· != quote), whole.symm, ?_, rfl⟩
      intro member
      have other := List.all_eq_true.mp (List.all_takeWhile (p := (· != quote))) quote member
      simp at other
  · rintro ⟨part, rfl, absent, rfl⟩
    -- The run of other characters ends at the quote.
    have ends : (quote :: rest).head?.any (· != quote) = false := by simp
    obtain ⟨taken, dropped⟩ := span_append (differs absent) ends
    unfold readQuoted
    rw [taken, dropped]

/-- A literal is read up to its closing quote. -/
theorem readLiteral_recognises : Recognises readLiteral Literal fun _ => false where
  sound {text rest found} read := by
    -- The opening quote decides how the text is taken.
    unfold readLiteral at read
    split at read
    · obtain ⟨⟨raw, after⟩, quoted, same⟩ := exists_of_bind_eq_ok read
      cases same
      obtain ⟨part, rfl, absent, rfl⟩ := readQuoted_eq_ok_iff.mp quoted
      exact ⟨'\'' :: (part ++ ['\'']), by simp, .raw absent⟩
    · obtain ⟨⟨raw, after⟩, quoted, same⟩ := exists_of_bind_eq_ok read
      obtain ⟨part, rfl, absent, rfl⟩ := readQuoted_eq_ok_iff.mp quoted
      -- Between backquotes there has to be a document.
      dsimp only at same
      split at same
      · rename_i document parsed
        cases same
        exact ⟨'\x60' :: (part ++ ['\x60']), by simp, .json absent parsed⟩
      · cases same
    · cases read
  complete {part found} derived rest _ := by
    cases derived with
    | @raw text absent =>
      have quoted : readQuoted '\'' (text ++ '\'' :: rest) = .ok (String.ofList text, rest) :=
        readQuoted_eq_ok_iff.mpr ⟨text, rfl, absent, rfl⟩
      simp [readLiteral, quoted, Bind.bind, Except.bind, pure, Except.pure]
    | @json text _ absent parsed =>
      have quoted : readQuoted '\x60' (text ++ '\x60' :: rest) = .ok (String.ofList text, rest) :=
        readQuoted_eq_ok_iff.mpr ⟨text, rfl, absent, rfl⟩
      simp [readLiteral, quoted, parsed, Bind.bind, Except.bind, pure, Except.pure]

/-- A comparison is read as its two characters. -/
theorem readOperator_recognises : Recognises readOperator Operator fun _ => false where
  sound {text rest negated} read := by
    -- Only the two comparisons start with these two characters.
    unfold readOperator at read
    split at read
    · cases read
      exact ⟨['=', '='], rfl, .same⟩
    · cases read
      exact ⟨['!', '='], rfl, .other⟩
    · cases read
  complete derived _ _ := by
    cases derived <;> rfl

end Provision.Path
