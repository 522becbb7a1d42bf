import Provision.Numeral
import Provision.Proofs.Path.Token

/-! JSON numerals are read as their grammar writes them, as far as their characters go. -/

namespace Provision

/-- A reader finds what a grammar writes at the start of a text, as long as the character behind it
cannot continue it. -/
structure Json.Recognises {α : Type} (read : List Char → Option (α × List Char))
    (grammar : α → List Char → Prop) (continues : Char → Bool) : Prop where
  /-- What has been read is written there. -/
  sound {text rest : List Char} {found : α} : read text = some (found, rest) →
    ∃ part, text = part ++ rest ∧ grammar found part
  /-- What is written is read, and nothing more. -/
  complete {part : List Char} {found : α} : grammar found part → ∀ rest : List Char,
    rest.head?.any continues = false → read (part ++ rest) = some (found, rest)

namespace Numeral

/-- One decimal digit or more. -/
def Digits (text : List Char) : Prop := text ≠ [] ∧ ∀ c ∈ text, c.isDigit = true

/-- The digits in front of the point are a lone zero, or their first one is no zero. -/
inductive Whole : List Char → Prop where
  | zero : Whole ['0']
  | digits {text : List Char} : Digits text → text.head? ≠ some '0' → Whole text

/-- A point with digits behind it, which may be left out. -/
inductive Fraction : Option (List Char) → List Char → Prop where
  | none : Fraction none []
  | some {digits : List Char} : Digits digits → Fraction (some digits) ('.' :: digits)

/-- Digits with an optional sign. -/
inductive Signed : Int → List Char → Prop where
  | bare {digits : List Char} : Digits digits → Signed (natOf digits) digits
  | plus {digits : List Char} : Digits digits → Signed (natOf digits) ('+' :: digits)
  | minus {digits : List Char} : Digits digits → Signed (-natOf digits) ('-' :: digits)

/-- A power of ten behind the letter e in either case, which may be left out. -/
inductive Exponent : Option Int → List Char → Prop where
  | none : Exponent none []
  | lower {power : Int} {text : List Char} : Signed power text → Exponent (some power) ('e' :: text)
  | upper {power : Int} {text : List Char} : Signed power text → Exponent (some power) ('E' :: text)

/-- A minus sign, which is all that can stand in front of a numeral. -/
inductive Sign : Bool → List Char → Prop where
  | none : Sign false []
  | minus : Sign true ['-']

/-- The ways to write a numeral. -/
inductive Written : Numeral → List Char → Prop where
  | mk {negative : Bool} {whole sign fractionText exponentText : List Char}
      {fraction : Option (List Char)} {exponent : Option Int} : Sign negative sign → Whole whole →
      Fraction fraction fractionText → Exponent exponent exponentText →
      Written ⟨negative, whole, fraction, exponent⟩
        (sign ++ (whole ++ (fractionText ++ exponentText)))

/-- The characters that could go on with a numeral. -/
def continues (c : Char) : Bool := c.isDigit || c == '.' || c == 'e' || c == 'E'

/-- Nothing that a numeral could go on with is a digit. -/
theorem not_isDigit_of_not_continues {rest : List Char}
    (ends : rest.head?.any continues = false) : rest.head?.any Char.isDigit = false := by
  -- Digits are among the characters that continue a numeral.
  cases rest with
  | nil => rfl
  | cons c rest => simp_all [continues]

/-- Digits at the start of a text are read up to the first other character. -/
theorem Digits.span {digits rest : List Char} (written : Digits digits)
    (ends : rest.head?.any Char.isDigit = false) :
    (digits ++ rest).takeWhile Char.isDigit = digits ∧
      (digits ++ rest).dropWhile Char.isDigit = rest :=
  Path.span_append written.2 ends

/-- Characters that are taken as long as they are digits are digits. -/
theorem digits_takeWhile {text : List Char} (filled : text.takeWhile Char.isDigit ≠ []) :
    Digits (text.takeWhile Char.isDigit) :=
  ⟨filled, List.all_eq_true.mp List.all_takeWhile⟩

/-- Digits start with a digit. -/
theorem Digits.exists_cons {text : List Char} (written : Digits text) :
    ∃ first more, text = first :: more ∧ first.isDigit = true := by
  -- There is at least one of them.
  obtain ⟨first, more, rfl⟩ := List.exists_cons_of_ne_nil written.1
  exact ⟨first, more, rfl, written.2 first List.mem_cons_self⟩

/-- The reader of exponents finds digits with an optional sign. -/
theorem readExponent_recognises : Json.Recognises readExponent Signed Char.isDigit where
  sound {text rest found} read := by
    -- The sign is split off first, and the digits behind it must not be missing.
    unfold readExponent at read
    split at read
    rename_i negative digits split
    dsimp only at read
    split at read
    · cases read
    · -- There are digits, and behind them lies what is left.
      rename_i filled
      rw [List.isEmpty_iff] at filled
      have here := digits_takeWhile filled
      have parts := digits.takeWhile_append_dropWhile (p := Char.isDigit)
      obtain ⟨rfl, rfl⟩ := Prod.mk.inj (Option.some.inj read)
      split at split <;> obtain ⟨rfl, rfl⟩ := Prod.mk.inj split
      · exact ⟨_, congrArg _ parts.symm, .minus here⟩
      · exact ⟨_, congrArg _ parts.symm, .plus here⟩
      · exact ⟨_, parts.symm, .bare here⟩
  complete {part found} signed rest ends := by
    -- A sign that is written is the one that is split off.
    cases signed with
    | plus written => simp [readExponent, written.span ends, written.1]
    | minus written => simp [readExponent, written.span ends, written.1]
    | bare written =>
      -- Its first digit is no sign.
      have taken := written.span ends
      obtain ⟨first, more, rfl, digit⟩ := written.exists_cons
      unfold readExponent
      rw [List.cons_append] at taken ⊢
      split
      rename_i negative digits split
      split at split
      · simp_all
      · simp_all
      · obtain ⟨rfl, rfl⟩ := Prod.mk.inj split
        simp [taken]

/-- Behind a fraction there is neither a further digit nor another point. -/
theorem Exponent.starts {exponent : Option Int} {text rest : List Char}
    (power : Exponent exponent text) (ends : rest.head?.any continues = false) :
    (text ++ rest).head?.any (fun c => c.isDigit || c == '.') = false := by
  -- Behind comes the letter e, or what follows the numeral.
  cases power with
  | none => cases rest <;> simp_all [continues]
  | lower | upper => simp

/-- A fraction and an exponent that are written behind each other are read. -/
theorem readTail_of_written {fraction : Option (List Char)} {exponent : Option Int}
    {fractionText exponentText rest : List Char} (point : Fraction fraction fractionText)
    (power : Exponent exponent exponentText) (ends : rest.head?.any continues = false) :
    readTail (fractionText ++ (exponentText ++ rest)) = some (fraction, exponent, rest) := by
  -- Both parts may be missing, so each is told by the character that stands there instead.
  have starts := power.starts ends
  have noDigit := not_isDigit_of_not_continues ends
  unfold readTail
  refine Option.bind_eq_some_iff.mpr ⟨(fraction, exponentText ++ rest), ?_, ?_⟩
  · -- The fraction ends where the exponent starts, or else the text behind both.
    generalize exponentText ++ rest = behind at starts ⊢
    cases point with
    | none =>
      rw [List.nil_append]
      split
      · simp at starts
      · rfl
    | some digits =>
      have noFurther : behind.head?.any Char.isDigit = false := by cases behind <;> simp_all
      simp [digits.span noFurther, digits.1]
  · -- What is left behind the fraction is the exponent or nothing of the numeral.
    cases power with
    | none =>
      -- Nothing goes on with the numeral, so no letter e does.
      dsimp only [List.nil_append]
      split
      · simp [continues] at ends
      · simp [continues] at ends
      · rfl
    | lower signed | upper signed =>
      simp [readExponent_recognises.complete signed rest noDigit]

/-- What is read as a fraction and an exponent is written that way. -/
theorem written_of_readTail {text rest : List Char} {fraction : Option (List Char)}
    {exponent : Option Int} (read : readTail text = some (fraction, exponent, rest)) :
    ∃ fractionText exponentText, text = fractionText ++ (exponentText ++ rest) ∧
      Fraction fraction fractionText ∧ Exponent exponent exponentText := by
  -- The reader looks for a point first, and then for a letter e in what is left.
  unfold readTail at read
  obtain ⟨⟨found, behind⟩, pointed, powered⟩ := Option.bind_eq_some_iff.mp read
  have point : ∃ fractionText, text = fractionText ++ behind ∧ Fraction found fractionText := by
    split at pointed
    · rename_i digits
      dsimp only at pointed
      split at pointed
      · cases pointed
      · -- A point must have digits behind it.
        rename_i filled
        rw [List.isEmpty_iff] at filled
        obtain ⟨rfl, rfl⟩ := Prod.mk.inj (Option.some.inj pointed)
        have parts := digits.takeWhile_append_dropWhile (p := Char.isDigit)
        exact ⟨_, congrArg _ parts.symm, .some (digits_takeWhile filled)⟩
    · obtain ⟨rfl, rfl⟩ := Prod.mk.inj (Option.some.inj pointed)
      exact ⟨[], rfl, .none⟩
  obtain ⟨fractionText, rfl, point⟩ := point
  refine ⟨fractionText, ?_⟩
  dsimp only at powered
  split at powered
  · obtain ⟨⟨power, after⟩, found, same⟩ := Option.map_eq_some_iff.mp powered
    cases same
    obtain ⟨part, rfl, signed⟩ := readExponent_recognises.sound found
    exact ⟨_, rfl, point, .lower signed⟩
  · obtain ⟨⟨power, after⟩, found, same⟩ := Option.map_eq_some_iff.mp powered
    cases same
    obtain ⟨part, rfl, signed⟩ := readExponent_recognises.sound found
    exact ⟨_, rfl, point, .upper signed⟩
  · cases powered
    -- Without the letter there is no exponent.
    exact ⟨[], rfl, point, .none⟩

/-- Behind the digits in front of a fraction there is no further digit. -/
theorem Fraction.starts {fraction : Option (List Char)} {text rest : List Char}
    (point : Fraction fraction text)
    (ends : rest.head?.any (fun c => c.isDigit || c == '.') = false) :
    (text ++ rest).head?.any Char.isDigit = false := by
  -- Behind comes the point, or whatever follows a numeral without one.
  cases point with
  | none => cases rest <;> simp_all
  | some => rfl

/-- The part of a numeral in front of the point starts with a digit. -/
theorem Whole.exists_cons {whole : List Char} (written : Whole whole) :
    ∃ first more, whole = first :: more ∧ first.isDigit = true := by
  -- Even a lone zero is a digit.
  cases written with
  | zero => exact ⟨'0', [], rfl, rfl⟩
  | digits written => exact written.exists_cons

/-- The digits in front of the point are taken up to the first other character. -/
theorem Whole.taken {whole rest : List Char} (written : Whole whole)
    (ends : rest.head?.any Char.isDigit = false) :
    (if ((whole ++ rest).takeWhile Char.isDigit).head? = some '0' then ['0']
      else (whole ++ rest).takeWhile Char.isDigit) = whole := by
  -- A zero in front is taken alone, and other digits as far as they go.
  cases written with
  | zero => simp
  | digits written first => rw [(written.span ends).1, if_neg first]

/-- What is taken in front of the point are the digits that may stand there. -/
theorem whole_of_taken {text whole : List Char} (filled : whole ≠ [])
    (taken : (if (text.takeWhile Char.isDigit).head? = some '0' then ['0']
      else text.takeWhile Char.isDigit) = whole) :
    Whole whole ∧ text = whole ++ text.drop whole.length := by
  -- The first digit decides how many are taken.
  split at taken
  · -- A zero is the first digit, and the only one that is taken.
    rename_i zero
    subst taken
    refine ⟨.zero, ?_⟩
    cases text with
    | nil => simp at zero
    | cons c text =>
      rw [List.takeWhile_cons] at zero
      split at zero <;> simp_all
  · -- Any other first digit is taken with all that follow.
    rename_i first
    subst taken
    refine ⟨.digits (digits_takeWhile filled) first, ?_⟩
    exact (List.prefix_iff_eq_append.mp (List.takeWhile_prefix _)).symm

/-- A numeral starts with a minus sign or a digit. -/
theorem Written.exists_cons {n : Numeral} {text : List Char} (written : Written n text) :
    ∃ first more, text = first :: more ∧ (first = '-' ∨ first.isDigit = true) := by
  -- Without a sign, the digits in front of the point come first.
  obtain ⟨sign, whole, point, power⟩ := written
  obtain ⟨first, more, rfl, digit⟩ := whole.exists_cons
  cases sign with
  | none => exact ⟨first, _, rfl, .inr digit⟩
  | minus => exact ⟨'-', _, rfl, .inl rfl⟩

/-- The reader of numerals finds the ways to write them. -/
theorem read_recognises : Json.Recognises Numeral.read Written continues where
  sound {text rest found} read := by
    -- The sign is split off, then whole digits are taken, and the tail is what is left.
    unfold Numeral.read at read
    split at read
    rename_i negative unsigned split
    obtain ⟨whole, taken⟩ : ∃ whole, (if (unsigned.takeWhile Char.isDigit).head? = some '0'
      then ['0'] else unsigned.takeWhile Char.isDigit) = whole := ⟨_, rfl⟩
    dsimp only at read
    rw [taken] at read
    split at read
    · cases read
    · rename_i filled
      rw [List.isEmpty_iff] at filled
      obtain ⟨⟨fraction, exponent, after⟩, tail, same⟩ := Option.map_eq_some_iff.mp read
      cases same
      obtain ⟨written, parts⟩ := whole_of_taken filled taken
      obtain ⟨fractionText, exponentText, behind, point, power⟩ := written_of_readTail tail
      rw [behind] at parts
      -- The numeral begins with the sign that was split off, if there was one.
      split at split <;> obtain ⟨rfl, rfl⟩ := Prod.mk.inj split
      · exact ⟨_, by rw [parts]; simp, .mk .minus written point power⟩
      · exact ⟨_, by rw [parts]; simp, .mk .none written point power⟩
  complete {part found} written rest ends := by
    obtain @⟨negative, whole, sign, fractionText, exponentText, fraction, exponent, signed, digits,
      point, power⟩ := written
    -- From behind: what follows ends the tail, and the tail ends the digits.
    have tail := readTail_of_written point power ends
    have taken := digits.taken (point.starts (power.starts ends))
    obtain ⟨first, more, rfl, digit⟩ := digits.exists_cons
    simp only [List.append_assoc, List.cons_append] at taken ⊢
    generalize fractionText ++ (exponentText ++ rest) = after at tail taken ⊢
    cases signed with
    | minus => simp [Numeral.read, taken, tail]
    | none =>
      unfold Numeral.read
      rw [List.nil_append]
      split
      rename_i negative unsigned split
      split at split
      · -- The first digit is no sign.
        rename_i minus
        cases minus
        cases digit
      · obtain ⟨rfl, rfl⟩ := Prod.mk.inj split
        simp [taken, tail]

end Numeral

end Provision
