/-! Bytes decode to characters, with one mark for each longest run
that begins a character but ends too early. -/

namespace Provision.Utf8

/-- A character whose later bytes are still to come. -/
structure Pending where
  value : Nat
  /-- How many bytes are owed. -/
  owed : Nat
  /-- The range of the next byte; later ones range over all continuation bytes. -/
  low : Nat
  high : Nat

/-- What a byte in front of a character gives: at most one mark or
character, and what it leaves pending. -/
def enter (byte : Nat) : List (Option Char) × Option Pending :=
  if byte < 0x80 then ([some (Char.ofNat byte)], none)
  else if byte < 0xC2 then ([none], none)
  else if byte < 0xE0 then ([], some ⟨byte - 0xC0, 1, 0x80, 0xBF⟩)
  else if byte = 0xE0 then ([], some ⟨0, 2, 0xA0, 0xBF⟩)
  -- The code points reserved for surrogates have no encoding.
  else if byte = 0xED then ([], some ⟨0xD, 2, 0x80, 0x9F⟩)
  else if byte < 0xF0 then ([], some ⟨byte - 0xE0, 2, 0x80, 0xBF⟩)
  else if byte = 0xF0 then ([], some ⟨0, 3, 0x90, 0xBF⟩)
  else if byte < 0xF4 then ([], some ⟨byte - 0xF0, 3, 0x80, 0xBF⟩)
  else if byte = 0xF4 then ([], some ⟨4, 3, 0x80, 0x8F⟩)
  else ([none], none)

/-- What one more byte gives after a possibly unfinished character. -/
def step (pending : Option Pending) (byte : Nat) : List (Option Char) × Option Pending :=
  match pending with
  | none => enter byte
  | some p =>
    if p.low ≤ byte ∧ byte ≤ p.high then
      let value := p.value * 64 + (byte - 0x80)
      if p.owed ≤ 1 then ([some (Char.ofNat value)], none)
      else ([], some ⟨value, p.owed - 1, 0x80, 0xBF⟩)
    else
      -- The broken character ends here, and the byte starts over.
      let (marks, next) := enter byte
      (none :: marks, next)

/-- The characters of bytes, with none where bytes encode no character. -/
def scan : Option Pending → List UInt8 → List (Option Char)
  | none, [] => []
  | some _, [] => [none]
  | pending, byte :: rest =>
    let (marks, next) := step pending byte.toNat
    marks ++ scan next rest

/-- The text of bytes; none when some of them encode no character. -/
def decode? (bytes : List UInt8) : Option String :=
  ((scan none bytes).mapM id).map String.ofList

/-- The text of bytes, with the replacement character wherever they encode none. -/
def decodeLossy (bytes : List UInt8) : String :=
  String.ofList ((scan none bytes).map (·.getD '\uFFFD'))

end Provision.Utf8
