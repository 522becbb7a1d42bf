import Provision.Cidr
import Provision.Proofs.Path.Dotted

/-! A text is accepted as an address block when it is four octets and the length of a mask, and in
front of each of these numbers there may be a plus sign. -/

namespace Provision

/-- A text without the separator is one part. -/
theorem Text.split_of_not_mem {separator : Char} {part : List Char} (free : separator ∉ part) :
    split separator part = [part] := by
  -- Each character in turn is no separator and joins what follows.
  induction part with
  | nil => rfl
  | cons c part ih =>
    obtain ⟨here, later⟩ := not_or.mp (List.mem_cons.not.mp free)
    rw [split, if_neg (Ne.symm here), ih later]

/-- In front of the first separator is the first part, and behind it are the others. -/
theorem Text.split_append {separator : Char} {part : List Char} (free : separator ∉ part)
    (rest : List Char) :
    split separator (part ++ separator :: rest) = part :: split separator rest := by
  -- The characters in front of the separator are put back one by one.
  induction part with
  | nil => rw [List.nil_append, split, if_pos rfl]
  | cons c part ih =>
    obtain ⟨here, later⟩ := not_or.mp (List.mem_cons.not.mp free)
    rw [List.cons_append, split, if_neg (Ne.symm here), ih later]

namespace Cidr

open Path.Grammar (Decimal)

/-- A decimal, in front of which there may be a plus sign. -/
inductive Signed : List Char → Nat → Prop where
  | plain {digits : List Char} {number : Nat} : Decimal digits number → Signed digits number
  | plus {digits : List Char} {number : Nat} : Decimal digits number →
      Signed ('+' :: digits) number

/-- Four numbers of at most 255 with dots between them. How numbers are written is left open. -/
inductive Address (numeral : List Char → Nat → Prop) : List Char → Prop where
  | mk {first second third fourth : List Char} {a b c d : Nat} :
      numeral first a → a ≤ 255 → numeral second b → b ≤ 255 →
      numeral third c → c ≤ 255 → numeral fourth d → d ≤ 255 →
      Address numeral (first ++ '.' :: (second ++ '.' :: (third ++ '.' :: fourth)))

/-- An address, and behind a slash the length of a mask of at most 32 bits. -/
inductive Block (numeral : List Char → Nat → Prop) : List Char → Prop where
  | mk {address mask : List Char} {length : Nat} :
      Address numeral address → numeral mask length → length ≤ 32 →
      Block numeral (address ++ '/' :: mask)

/-- Digits are read as the decimal that they are, if it is below the limit. -/
theorem digitsBelow_eq_some_iff {limit number : Nat} {digits : List Char} :
    (if digits.isEmpty || !digits.all Char.isDigit then none
      else if Numeral.natOf digits < limit then some (Numeral.natOf digits) else none) =
        some number ↔ Decimal digits number ∧ number < limit := by
  constructor
  · intro read
    split at read
    · cases read
    · rename_i wellFormed
      -- What is not refused at once is a run of at least one digit.
      simp only [Bool.or_eq_true, List.isEmpty_iff, Bool.not_eq_true', not_or,
        Bool.not_eq_false] at wellFormed
      obtain ⟨nonempty, all⟩ := wellFormed
      split at read
      · rename_i small
        cases read
        exact ⟨Path.decimal_of_digits nonempty (List.all_eq_true.mp all), small⟩
      · cases read
  · -- A decimal passes both tests, as it is a run of digits.
    rintro ⟨decimal, small⟩
    obtain ⟨nonempty, all, rfl⟩ := Path.digits_of_decimal decimal
    rw [if_neg, if_pos small]
    simp [nonempty, List.all_eq_true.mpr all]

/-- A number is read from digits behind an optional plus sign, if it is below the limit. -/
theorem unsignedBelow_eq_some_iff {limit number : Nat} {text : String} :
    unsignedBelow limit text = some number ↔ Signed text.toList number ∧ number < limit := by
  -- The limit is the same on both sides, so only the sign in front is left to compare.
  unfold unsignedBelow
  dsimp only
  rw [digitsBelow_eq_some_iff]
  refine and_congr_left fun _ => ?_
  split
  · rename_i digits signed
    rw [signed]
    -- Behind a plus sign only digits are read.
    constructor
    · exact .plus
    · intro read
      cases read with
      | plain decimal =>
        -- A plus sign is no digit, so no decimal starts with it.
        have digit := decimal.starts
        cases digit
      | plus decimal => exact decimal
  · -- Without one the text itself is read.
    rename_i digits unsigned
    constructor
    · exact .plain
    · intro read
      generalize text.toList = written at unsigned read
      cases read with
      | plain decimal => exact decimal
      | plus => exact (unsigned _ rfl).elim

/-- A signed decimal consists of digits, but for the plus sign. -/
theorem Signed.isDigit_of_mem {text : List Char} {number : Nat} (signed : Signed text number)
    {c : Char} (member : c ∈ text) : c = '+' ∨ c.isDigit = true := by
  -- The sign is a case of its own, and behind it or without it stand digits.
  cases signed with
  | plain decimal => exact .inr ((Path.digits_of_decimal decimal).2.1 c member)
  | plus decimal =>
    rcases List.mem_cons.mp member with rfl | later
    · exact .inl rfl
    · exact .inr ((Path.digits_of_decimal decimal).2.1 c later)

/-- Nothing that separates numbers stands in a number. -/
theorem Signed.not_mem {text : List Char} {number : Nat} (signed : Signed text number)
    {separator : Char} (plus : separator ≠ '+') (digit : separator.isDigit = false) :
    separator ∉ text := by
  -- A separator would have to be a plus sign or a digit.
  intro member
  rcases signed.isDigit_of_mem member with same | same
  · exact plus same
  · rw [digit] at same
    cases same

/-- A signed decimal without a plus sign is a decimal. -/
theorem Signed.decimal {text : List Char} {number : Nat} (signed : Signed text number)
    (unsigned : '+' ∉ text) : Decimal text number := by
  -- Only the first of the two forms has no sign.
  cases signed with
  | plain decimal => exact decimal
  | plus => exact absurd List.mem_cons_self unsigned

/-- A decimal has no plus sign in it. -/
theorem plus_not_mem_of_decimal {text : List Char} {number : Nat} (decimal : Decimal text number) :
    '+' ∉ text := by
  -- A plus sign in a decimal would have to be a digit.
  intro member
  have digit := (Path.digits_of_decimal decimal).2.1 '+' member
  cases digit

/-- An address is cut into its four octets, and nothing else is. -/
theorem address_iff {text : List Char} : Address Signed text ↔ (Text.split '.' text).length = 4 ∧
    ∀ octet ∈ Text.split '.' text, ∃ number, Signed octet number ∧ number ≤ 255 := by
  constructor
  · rintro ⟨first, small, second, smallToo, third, smallAgain, fourth, smallLast⟩
    -- No octet has a dot in it, so each dot ends the octet in front of it.
    have free {octet : List Char} {number : Nat} (signed : Signed octet number) : '.' ∉ octet :=
      signed.not_mem (by decide) rfl
    rw [Text.split_append (free first), Text.split_append (free second),
      Text.split_append (free third), Text.split_of_not_mem (free fourth)]
    refine ⟨rfl, ?_⟩
    simp only [List.forall_mem_cons]
    exact ⟨⟨_, first, small⟩, ⟨_, second, smallToo⟩, ⟨_, third, smallAgain⟩,
      ⟨_, fourth, smallLast⟩, fun _ none => nomatch none⟩
  · -- Four parts that are octets make an address when they are joined by dots.
    rintro ⟨four, octets⟩
    obtain ⟨first, parts, cut, joined⟩ := Text.split_joined '.' text
    rw [cut] at four octets
    obtain ⟨second, third, fourth, rfl⟩ :
        ∃ second third fourth, parts = [second, third, fourth] := by
      match parts, four with
      | [second, third, fourth], _ => exact ⟨second, third, fourth, rfl⟩
    simp only [List.forall_mem_cons] at octets
    obtain ⟨⟨a, isFirst, small⟩, ⟨b, isSecond, smallToo⟩, ⟨c, isThird, smallAgain⟩,
      ⟨d, isFourth, smallLast⟩, -⟩ := octets
    rw [joined]
    simpa using Address.mk isFirst small isSecond smallToo isThird smallAgain isFourth smallLast

/-- A block is cut at its only slash into an address and the length of a mask. -/
theorem block_iff {text : List Char} : Block Signed text ↔ ∃ address mask length,
    Text.split '/' text = [address, mask] ∧ Address Signed address ∧ Signed mask length ∧
      length ≤ 32 := by
  -- Neither the numbers nor the dots of a block are slashes, so it has only one.
  constructor
  · rintro @⟨address, mask, length, isAddress, isMask, small⟩
    have free {octet : List Char} {number : Nat} (signed : Signed octet number) : '/' ∉ octet :=
      signed.not_mem (by decide) rfl
    have addressFree : '/' ∉ address := by
      obtain ⟨first, -, second, -, third, -, fourth, -⟩ := isAddress
      simp [free first, free second, free third, free fourth]
    refine ⟨address, mask, length, ?_, isAddress, isMask, small⟩
    rw [Text.split_append addressFree, Text.split_of_not_mem (free isMask)]
  · -- Two parts are joined by the slash they were cut at.
    rintro ⟨address, mask, length, cut, isAddress, isMask, small⟩
    obtain ⟨part, parts, cutToo, joined⟩ := Text.split_joined '/' text
    obtain ⟨rfl, rfl⟩ := List.cons.inj (cut.symm.trans cutToo)
    rw [joined]
    simpa using Block.mk isAddress isMask small

/-- A part is read as an octet when it is a number of at most 255. -/
theorem isNone_unsignedBelow_iff {octet : List Char} :
    (unsignedBelow 256 (String.ofList octet)).isNone = false ↔
      ∃ number, Signed octet number ∧ number ≤ 255 := by
  -- To be below 256 is to be at most 255.
  rw [Option.isNone_eq_false_iff, Option.isSome_iff_exists]
  refine exists_congr fun number => ?_
  rw [unsignedBelow_eq_some_iff, String.toList_ofList]
  exact and_congr_right fun _ => Nat.lt_succ_iff

/-- What is cut at one slash has no fault when there is an address in front of the slash, and behind
it the length of a mask. -/
theorem fault?_eq_none_iff_of_split {text : String} {address mask : List Char}
    (cut : Text.split '/' text.toList = [address, mask]) :
    fault? text = none ↔ Address Signed address ∧ ∃ length, Signed mask length ∧ length ≤ 32 := by
  -- The checks come one after the other: four octets, each of them a number, then the mask.
  rw [address_iff, fault?, cut]
  dsimp only
  split
  · rename_i other
    exact iff_of_false (fun none => nomatch none) fun sound => other sound.1.1
  · rename_i four
    have four : (Text.split '.' address).length = 4 := not_not.mp four
    split
    · rename_i octet found
      -- The first part that is no octet is at fault.
      refine iff_of_false (fun none => nomatch none) fun sound => ?_
      have refused := List.find?_some found
      have isOctet := sound.1.2 octet (List.mem_of_find?_eq_some found)
      rw [isNone_unsignedBelow_iff.mpr isOctet] at refused
      cases refused
    · rename_i allRead
      have octets : ∀ octet ∈ Text.split '.' address, ∃ number, Signed octet number ∧
          number ≤ 255 := by
        intro octet member
        apply isNone_unsignedBelow_iff.mp
        exact Bool.eq_false_iff.mpr (List.find?_eq_none.mp allRead octet member)
      rw [and_iff_right ⟨four, octets⟩]
      -- What passed so far is an address, so the mask alone decides.
      have isMask : ∀ length, Signed mask length → length ≤ 32 →
          unsignedBelow 256 (String.ofList mask) = some length := by
        intro length signed small
        rw [unsignedBelow_eq_some_iff, String.toList_ofList]
        exact ⟨signed, by omega⟩
      split
      · rename_i length read
        -- A mask is read as one number, so it is that number which has to be small.
        constructor
        · intro accepted
          split at accepted
          · rename_i small
            obtain ⟨signed, -⟩ := unsignedBelow_eq_some_iff.mp read
            rw [String.toList_ofList] at signed
            exact ⟨length, signed, small⟩
          · cases accepted
        · rintro ⟨other, signed, small⟩
          have same := isMask other signed small
          rw [read] at same
          cases same
          exact if_pos small
      · -- A mask that is not read at all is no number of at most 32.
        rename_i unread
        refine iff_of_false (fun none => nomatch none) ?_
        rintro ⟨length, signed, small⟩
        rw [isMask length signed small] at unread
        cases unread

/-- A text has no fault when it is a block whose numbers may each have a plus sign. -/
theorem fault?_eq_none_iff_block {text : String} :
    fault? text = none ↔ Block Signed text.toList := by
  rw [block_iff]
  constructor
  · intro accepted
    -- Whatever is not cut at exactly one slash is refused at once.
    have cut : ∃ address mask, Text.split '/' text.toList = [address, mask] := by
      unfold fault? at accepted
      split at accepted
      · rename_i address mask cut
        exact ⟨address, mask, cut⟩
      · cases accepted
    obtain ⟨address, mask, cut⟩ := cut
    obtain ⟨isAddress, length, signed, small⟩ := (fault?_eq_none_iff_of_split cut).mp accepted
    exact ⟨address, mask, length, cut, isAddress, signed, small⟩
  · -- What is cut at one slash has its two parts checked.
    rintro ⟨address, mask, length, cut, isAddress, signed, small⟩
    exact (fault?_eq_none_iff_of_split cut).mpr ⟨isAddress, length, signed, small⟩

/-- Numbers that are written in one way may be written in another way that allows for the same
texts. -/
theorem Address.imp {numeral other : List Char → Nat → Prop} {text : List Char}
    (address : Address numeral text)
    (weaken : ∀ part number, part ⊆ text → numeral part number → other part number) :
    Address other text := by
  -- Each octet is a part of the text, so it may be written in the other way.
  obtain ⟨first, small, second, smallToo, third, smallAgain, fourth, smallLast⟩ := address
  refine .mk (weaken _ _ ?_ first) small (weaken _ _ ?_ second) smallToo
    (weaken _ _ ?_ third) smallAgain (weaken _ _ ?_ fourth) smallLast
  all_goals
    intro c member
    simp [member]

/-- The same holds of blocks. -/
theorem Block.imp {numeral other : List Char → Nat → Prop} {text : List Char}
    (block : Block numeral text)
    (weaken : ∀ part number, part ⊆ text → numeral part number → other part number) :
    Block other text := by
  -- The address and the mask are both parts of the text.
  obtain ⟨address, mask, small⟩ := block
  refine .mk (address.imp fun part number within => ?_) (weaken _ _ ?_ mask) small
  · exact weaken part number fun c member => List.mem_append_left _ (within member)
  · exact fun c member => List.mem_append_right _ (List.mem_cons_of_mem _ member)

/-- A block of decimals has no plus sign in it. -/
theorem Block.plus_not_mem {text : List Char} (block : Block Decimal text) : '+' ∉ text := by
  -- Neither a decimal nor what separates decimals is a plus sign.
  obtain ⟨⟨first, -, second, -, third, -, fourth, -⟩, mask, -⟩ := block
  simp [plus_not_mem_of_decimal first, plus_not_mem_of_decimal second,
    plus_not_mem_of_decimal third, plus_not_mem_of_decimal fourth, plus_not_mem_of_decimal mask]

/-- A text is accepted exactly when it is four numbers of at most 255 with dots between them, and
behind a slash one of at most 32, each of them digits of ASCII with or without a plus sign in front
of them. So what is accepted without a plus sign is exactly what has digits only. -/
theorem accepted_iff_signed (text : String) :
    (fault? text = none ↔ Block Signed text.toList) ∧
      (fault? text = none ∧ '+' ∉ text.toList ↔ Block Decimal text.toList) := by
  refine ⟨fault?_eq_none_iff_block, ?_⟩
  rw [fault?_eq_none_iff_block]
  constructor
  · -- In a text without plus signs each signed decimal is a plain one.
    rintro ⟨block, unsigned⟩
    exact block.imp fun part number within signed =>
      signed.decimal fun member => unsigned (within member)
  · -- A plain decimal is a signed one, and there is no plus sign in it.
    intro block
    exact ⟨block.imp fun part number within decimal => .plain decimal, block.plus_not_mem⟩

/-- A plus sign in front of an octet is accepted, though a block of decimals has none. -/
theorem accepted_with_plus :
    fault? "+10.0.0.0/8" = none ∧ ¬Block Decimal "+10.0.0.0/8".toList := by
  -- The sign is accepted in front of the octet, where a block of decimals cannot have it.
  refine ⟨by decide, fun block => ?_⟩
  have unsigned := block.plus_not_mem
  exact unsigned (by decide)

end Cidr

end Provision
