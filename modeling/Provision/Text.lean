import Provision.Text.Ranges

/-! Texts are cut at separators, and written in small letters: each letter by itself, but a sigma
by its neighbours. -/

namespace Provision.Text

/-- The parts between separators; there is always one part more than separators. -/
def split (separator : Char) : List Char → List (List Char)
  | [] => [[]]
  | c :: rest =>
    if c = separator then [] :: split separator rest
    else match split separator rest with
      | [] => [[c]]
      | part :: parts => (c :: part) :: parts

/-- Whether a code point lies in one of some ranges. -/
def inRanges (ranges : List (Nat × Nat)) (c : Char) : Bool :=
  ranges.any fun (low, high) => low ≤ c.toNat && c.toNat ≤ high

/-- The small letter of a character, or the character itself. -/
def lowerChar (c : Char) : Char :=
  match caseRanges.find? fun r =>
      r.first ≤ c.toNat && c.toNat ≤ r.last && (c.toNat - r.first) % r.step == 0 with
  | some r => Char.ofNat (c.toNat + r.shift).toNat
  | none => c

/-- Whether the first character that case does not look through has case. -/
def meetsCase (text : List Char) : Bool :=
  (text.dropWhile (inRanges ignorableRanges)).head?.any (inRanges casedRanges)

/-- The small form of a text behind the characters that come before it in reverse. -/
def lowerAfter (before : List Char) : List Char → List Char
  | [] => []
  | c :: rest =>
    let small :=
      if c = 'Σ' then
        -- A sigma at the end of a word has a form of its own.
        if meetsCase before && !meetsCase rest then ['ς'] else ['σ']
      else if c = 'İ' then ['i', '\u0307']
      else [lowerChar c]
    small ++ lowerAfter (c :: before) rest

/-- A text in small letters. -/
def lower (text : String) : String := String.ofList (lowerAfter [] text.toList)

end Provision.Text
