import Provision.Path.Scanner
import Provision.Proofs.Path.Token

/-! Positions between the characters of an expression: what is found there in its bytes, and where
the position is when characters have been passed. -/

namespace Provision.Path

open Grammar (IsLetter IsDigit)

/-! Characters and their bytes. -/

/-- The bytes of characters one after the other. -/
def bytes (text : List Char) : List UInt8 := text.flatMap String.utf8EncodeChar

/-- The bytes of an expression are those of its characters. -/
theorem toList_toByteArray (s : String) : s.toByteArray.data.toList = bytes s.toList := by
  -- The text is rebuilt from its characters, whose encodings are the bytes.
  conv_lhs => rw [← String.ofList_toList (s := s), String.toByteArray_ofList]
  exact List.toList_data_toByteArray

/-- There are as many bytes as the characters take. -/
theorem length_bytes (text : List Char) : (bytes text).length = byteLength text := by
  -- The size of a character is the length of its encoding.
  induction text with
  | nil => rfl
  | cons c rest ih =>
    rw [bytes, List.flatMap_cons, List.length_append, String.length_utf8EncodeChar, byteLength,
      ← ih, bytes]

/-- An expression is as long as its characters take bytes. -/
theorem byteLength_toList (s : String) : byteLength s.toList = s.utf8ByteSize := by
  rw [← length_bytes, ← toList_toByteArray, Array.length_toList]
  rfl

/-- Each part of a text takes bytes of its own. -/
theorem byteLength_append (part rest : List Char) :
    byteLength (part ++ rest) = byteLength part + byteLength rest := by
  -- The encodings stand one behind the other, so their lengths add up.
  rw [← length_bytes, bytes, List.flatMap_append, List.length_append, ← bytes, ← bytes,
    length_bytes, length_bytes]

/-- An end of a text takes no more bytes than the text. -/
theorem byteLength_le_of_suffix {rest text : List Char} (suffix : rest <:+ text) :
    byteLength rest ≤ byteLength text := by
  -- What was cut off in front took bytes, or none.
  obtain ⟨part, rfl⟩ := suffix
  rw [byteLength_append]
  omega

/-- Behind a character fewer bytes are left. -/
theorem byteLength_lt_cons (c : Char) (rest : List Char) :
    byteLength rest < byteLength (c :: rest) := by
  -- Every character takes at least one byte.
  have some := c.utf8Size_pos
  rw [byteLength]
  omega

/-- A byte stands for the character of its code. -/
theorem toNat_ofUInt8 {code : Nat} (small : code < 256) :
    (Char.ofUInt8 (UInt8.ofNat code)).toNat = code := by
  show (UInt8.ofNat code).toUInt32.toNat = code
  simp [Nat.mod_eq_of_lt small]

/-- A character of ASCII is one byte, and all bytes of any other one lie beyond ASCII. -/
theorem utf8EncodeChar_cases (c : Char) :
    (c.toNat < 128 ∧ (String.utf8EncodeChar c).map Char.ofUInt8 = [c]) ∨
      (128 ≤ c.toNat ∧ ∀ byte ∈ String.utf8EncodeChar c, 128 ≤ (Char.ofUInt8 byte).toNat) := by
  -- In the longer encodings every byte has its highest bit set.
  have beyond {code : Nat} (small : code < 256) (large : 128 ≤ code) :
      128 ≤ (Char.ofUInt8 (UInt8.ofNat code)).toNat := by
    rw [toNat_ofUInt8 small]
    exact large
  have same : c.val.toNat = c.toNat := rfl
  unfold String.utf8EncodeChar
  dsimp only
  rw [same]
  split
  · -- One byte holds the code itself.
    rename_i ascii
    refine .inl ⟨by omega, ?_⟩
    have byte := Char.toNat_inj.mp (toNat_ofUInt8 (show c.toNat < 256 by omega))
    rw [List.map_singleton, byte]
  · rename_i further
    refine .inr ⟨by omega, ?_⟩
    -- The marks of first and later bytes alone are beyond ASCII.
    split
    · simp only [List.forall_mem_cons]
      exact ⟨beyond (by omega) (by omega), beyond (by omega) (by omega), fun _ none => nomatch none⟩
    · split
      · simp only [List.forall_mem_cons]
        exact ⟨beyond (by omega) (by omega), beyond (by omega) (by omega),
          beyond (by omega) (by omega), fun _ none => nomatch none⟩
      · simp only [List.forall_mem_cons]
        exact ⟨beyond (by omega) (by omega), beyond (by omega) (by omega),
          beyond (by omega) (by omega), beyond (by omega) (by omega), fun _ none => nomatch none⟩

/-- A character of ASCII takes one byte. -/
theorem byteLength_singleton {c : Char} (ascii : c.toNat < 128) : byteLength [c] = 1 := by
  -- The encoding is as long as the one character that its bytes stand for.
  rcases utf8EncodeChar_cases c with ⟨-, single⟩ | ⟨large, -⟩
  · have length := congrArg List.length single
    rw [List.length_map, String.length_utf8EncodeChar] at length
    exact length
  · omega

/-- The first byte of a character is the one that its encoding starts with. -/
theorem head?_utf8EncodeChar (c : Char) :
    (String.utf8EncodeChar c).head?.map Char.ofUInt8 = some (Char.ofNat (leadByte c)) := by
  -- The code of a byte is below 256, and that of a character below 0x110000.
  have byte {code : Nat} (small : code < 256) :
      Char.ofUInt8 (UInt8.ofNat code) = Char.ofNat code := by
    rw [← Char.ofNat_toNat (Char.ofUInt8 (UInt8.ofNat code)), toNat_ofUInt8 small]
  have same : c.val.toNat = c.toNat := rfl
  have valid : c.toNat < 0x110000 := by
    rcases c.valid with low | high
    · exact Nat.lt_trans low (by decide)
    · exact high.2
  unfold String.utf8EncodeChar leadByte
  dsimp only
  rw [same]
  -- The size of a character decides about its first byte on both sides.
  by_cases one : c.toNat < 0x80
  · rw [if_pos (show c.toNat ≤ 0x7f by omega), if_pos one, List.head?_cons, Option.map_some,
      byte (by omega)]
  · rw [if_neg (show ¬c.toNat ≤ 0x7f by omega), if_neg one]
    by_cases two : c.toNat < 0x800
    · have code : c.toNat / 64 % 0x20 + 0xc0 = 0xC0 + c.toNat / 0x40 := by omega
      rw [if_pos (show c.toNat ≤ 0x7ff by omega), if_pos two, List.head?_cons, Option.map_some,
        byte (by omega), code]
    · rw [if_neg (show ¬c.toNat ≤ 0x7ff by omega), if_neg two]
      by_cases three : c.toNat < 0x10000
      · have code : c.toNat / 4096 % 0x10 + 0xe0 = 0xE0 + c.toNat / 0x1000 := by omega
        rw [if_pos (show c.toNat ≤ 0xffff by omega), if_pos three, List.head?_cons,
          Option.map_some, byte (by omega), code]
      · have code : c.toNat / 262144 % 0x08 + 0xf0 = 0xF0 + c.toNat / 0x40000 := by omega
        rw [if_neg (show ¬c.toNat ≤ 0xffff by omega), if_neg three, List.head?_cons,
          Option.map_some, byte (by omega), code]

/-- The character that stands for the first byte of a character. -/
def lead (c : Char) : Char := Char.ofNat (leadByte c)

/-- A test that does not tell characters beyond ASCII apart. -/
def IsUniform (p : Char → Bool) : Prop := ∃ beyond, ∀ c : Char, 128 ≤ c.toNat → p c = beyond

/-- Such a test says of each byte of a character what it says of the character. -/
theorem IsUniform.byte {p : Char → Bool} (uniform : IsUniform p) {c : Char} {byte : UInt8}
    (member : byte ∈ String.utf8EncodeChar c) : p (Char.ofUInt8 byte) = p c := by
  -- The bytes are either the character itself or all beyond ASCII, and so is the character.
  rcases utf8EncodeChar_cases c with ⟨-, single⟩ | ⟨large, all⟩
  · have same : Char.ofUInt8 byte ∈ [c] := single ▸ List.mem_map_of_mem member
    rw [List.mem_singleton.mp same]
  · obtain ⟨beyond, alike⟩ := uniform
    rw [alike _ large, alike _ (all byte member)]

/-- It also says so of the first byte. -/
theorem IsUniform.lead {p : Char → Bool} (uniform : IsUniform p) (c : Char) :
    p (lead c) = p c := by
  -- The first byte is one of the bytes.
  obtain ⟨byte, first, same⟩ := Option.map_eq_some_iff.mp (head?_utf8EncodeChar c)
  rw [Path.lead, ← same]
  exact uniform.byte (List.mem_of_head? first)

/-- A run of bytes that pass such a test consists of the characters that do. -/
theorem IsUniform.takeWhile {p : Char → Bool} (uniform : IsUniform p) (text : List Char) :
    (bytes text).takeWhile (fun byte => p (Char.ofUInt8 byte)) = bytes (text.takeWhile p) := by
  -- All bytes of a character pass or none does, so a run ends between two characters.
  induction text with
  | nil => rfl
  | cons c rest ih =>
    rw [bytes, List.flatMap_cons, ← bytes]
    cases passed : p c with
    | true =>
      -- All bytes of the character pass.
      rw [List.takeWhile_append_of_pos fun byte member => (uniform.byte member).trans passed, ih,
        List.takeWhile_cons_of_pos passed, bytes, bytes, List.flatMap_cons]
    | false =>
      -- The first byte of the character does not.
      rw [List.takeWhile_cons_of_neg (by simp [passed])]
      cases encoded : String.utf8EncodeChar c with
      | nil => exact absurd encoded String.utf8EncodeChar_ne_nil
      | cons first later =>
        have stopped : p (Char.ofUInt8 first) = false :=
          (uniform.byte (encoded ▸ List.mem_cons_self)).trans passed
        rw [List.cons_append, List.takeWhile_cons_of_neg (by simp [stopped])]
        rfl

/-- A test that only characters of ASCII pass is such a test. -/
theorem isUniform_of_ascii {p : Char → Bool} (ascii : ∀ c, p c = true → c.toNat < 128) :
    IsUniform p :=
  ⟨false, fun c large => Bool.eq_false_iff.mpr fun passed => by have := ascii c passed; omega⟩

/-- To be a certain character of ASCII is such a test. -/
theorem isUniform_beq {a : Char} (ascii : a.toNat < 128) : IsUniform (· == a) :=
  isUniform_of_ascii fun c same => by rwa [eq_of_beq same]

/-- To be any other character is one as well. -/
theorem isUniform_bne {a : Char} (ascii : a.toNat < 128) : IsUniform (· != a) := by
  -- Beyond ASCII nothing is that character.
  refine ⟨true, fun c large => bne_iff_ne.mpr ?_⟩
  rintro rfl
  omega

/-- To pass one of two such tests is one. -/
theorem IsUniform.or {p q : Char → Bool} (first : IsUniform p) (second : IsUniform q) :
    IsUniform fun c => p c || q c := by
  -- Beyond ASCII both tests always say the same.
  obtain ⟨passed, alike⟩ := first
  obtain ⟨passedToo, alikeToo⟩ := second
  refine ⟨passed || passedToo, fun c large => ?_⟩
  show (p c || q c) = (passed || passedToo)
  rw [alike c large, alikeToo c large]

/-- The first byte is a certain character of ASCII only if the character is. -/
theorem lead_eq_iff {a c : Char} (ascii : a.toNat < 128) : lead c = a ↔ c = a := by
  -- To be that character is a test that the first byte decides.
  have same := (isUniform_beq ascii).lead c
  rw [← beq_iff_eq, same, beq_iff_eq]

/-- Letters belong to ASCII. -/
theorem lt_of_isLetter {c : Char} (letter : IsLetter c) : c.toNat < 128 := by
  -- The last letters of both cases have codes below 128.
  rcases letter with ⟨-, most⟩ | ⟨-, most⟩
  all_goals
    have most := UInt32.le_iff_toNat_le.mp (Char.le_def.mp most)
    exact Nat.lt_of_le_of_lt most (by decide)

/-- Digits belong to ASCII. -/
theorem lt_of_isDigit {c : Char} (digit : IsDigit c) : c.toNat < 128 :=
  Nat.lt_of_le_of_lt (UInt32.le_iff_toNat_le.mp (Char.le_def.mp digit.2)) (by decide)

/-- Blanks are told from the bytes. -/
theorem isUniform_isBlank : IsUniform isBlank := by
  -- There are five blanks, and all of them belong to ASCII.
  refine isUniform_of_ascii fun c blank => ?_
  have space := isBlank_iff.mp blank
  simp only [Grammar.IsSpace, List.mem_cons, List.not_mem_nil, or_false] at space
  rcases space with rfl | rfl | rfl | rfl | rfl
  all_goals decide

/-- What starts a name is told from the bytes. -/
theorem isUniform_isNameStart : IsUniform isNameStart := by
  -- A name starts with a letter or an underscore.
  refine isUniform_of_ascii fun c starts => ?_
  rcases isNameStart_iff.mp starts with letter | rfl
  · exact lt_of_isLetter letter
  · decide

/-- What continues a name is told from the bytes. -/
theorem isUniform_isNameChar : IsUniform isNameChar := by
  -- A name goes on with letters, digits, underscores and hyphens.
  refine isUniform_of_ascii fun c continues => ?_
  rcases isNameChar_iff.mp continues with letter | digit | rfl | rfl
  · exact lt_of_isLetter letter
  · exact lt_of_isDigit digit
  · decide
  · decide

/-- Digits are told from the bytes. -/
theorem isUniform_isDigit : IsUniform Char.isDigit :=
  isUniform_of_ascii fun c digit => by
    have most := (Char.isDigit_iff_toNat.mp digit).2
    exact Nat.lt_of_le_of_lt most (by decide)

/-! Positions. -/

/-- What is found at a position is the first of the bytes from there on. -/
theorem peek_eq (s : String) (position : Nat) : Scanner.peek s position =
    (s.toByteArray.data.toList.drop position).head?.map Char.ofUInt8 := by
  -- Within the bytes and beyond them, an array and its list give the same.
  have found : s.toByteArray[position]? = s.toByteArray.data.toList[position]? := by
    by_cases within : position < s.toByteArray.size
    · rw [getElem?_pos s.toByteArray position within, Array.getElem?_toList,
        getElem?_pos s.toByteArray.data position within]
      rfl
    · rw [getElem?_neg s.toByteArray position within, Array.getElem?_toList,
        getElem?_neg s.toByteArray.data position within]
  rw [Scanner.peek, found, List.head?_drop]

/-- A position with certain characters behind it, up to the end of the expression. -/
structure At (s : String) (position : Nat) (rest : List Char) : Prop where
  suffix : rest <:+ s.toList
  size : position + byteLength rest = s.utf8ByteSize

namespace At

variable {s : String} {position : Nat} {rest : List Char}

/-- All characters are behind the first position. -/
theorem start (s : String) : At s 0 s.toList :=
  ⟨List.suffix_refl _, by rw [Nat.zero_add, byteLength_toList]⟩

/-- The position is told by the characters. -/
theorem eq (place : At s position rest) : position = byteLength s.toList - byteLength rest := by
  -- What is behind and the position make up the whole size.
  have size := place.size
  rw [byteLength_toList]
  omega

/-- The bytes from the position on are those of the characters. -/
theorem drop (place : At s position rest) :
    s.toByteArray.data.toList.drop position = bytes rest := by
  -- As many bytes are dropped as the characters in front take.
  obtain ⟨before, whole⟩ := place.suffix
  have length : (bytes before).length = position := by
    rw [length_bytes, place.eq, ← whole, byteLength_append, Nat.add_sub_cancel]
  rw [toList_toByteArray, ← whole, bytes, List.flatMap_append, ← bytes, ← bytes]
  exact List.drop_left' length

/-- The position is between two characters. -/
theorem isValid (place : At s position rest) : (⟨position⟩ : String.Pos.Raw).IsValid s := by
  -- A valid position is one at which the text can be cut in two.
  obtain ⟨before, whole⟩ := place.suffix
  rw [String.Pos.Raw.isValid_iff_exists_append]
  refine ⟨String.ofList before, String.ofList rest, ?_, ?_⟩
  · rw [← String.ofList_append, whole, String.ofList_toList]
  · rw [place.eq, ← whole, byteLength_append, Nat.add_sub_cancel]
    ext
    rw [String.byteIdx_rawEndPos, ← byteLength_toList, String.toList_ofList]

/-- At the end of the expression there is nothing. -/
theorem peek_nil (place : At s position []) : Scanner.peek s position = none := by
  rw [peek_eq, place.drop]
  rfl

/-- In front of a character there is its first byte. -/
theorem peek_cons {c : Char} (place : At s position (c :: rest)) :
    Scanner.peek s position = some (lead c) := by
  -- An encoding is never empty, so its head is the head of all that follows.
  rw [peek_eq, place.drop, bytes, List.flatMap_cons, List.head?_append, lead,
    ← head?_utf8EncodeChar]
  cases encoded : String.utf8EncodeChar c with
  | nil => exact absurd encoded String.utf8EncodeChar_ne_nil
  | cons => rfl

/-- In front of a character of ASCII there is that character. -/
theorem peek_ascii {c : Char} (place : At s position (c :: rest)) (ascii : c.toNat < 128) :
    Scanner.peek s position = some c := by
  rw [place.peek_cons, (lead_eq_iff ascii).mpr rfl]

/-- A character of ASCII is found only where it is the next one. -/
theorem peek_eq_some_iff (place : At s position rest) {a : Char} (ascii : a.toNat < 128) :
    Scanner.peek s position = some a ↔ ∃ after, rest = a :: after := by
  -- The byte decides, for the first byte of a longer encoding is never in ASCII.
  cases rest with
  | nil =>
    rw [place.peek_nil]
    exact iff_of_false (fun absent => nomatch absent) fun ⟨_, absent⟩ => nomatch absent
  | cons c rest =>
    rw [place.peek_cons, Option.some_inj, lead_eq_iff ascii]
    constructor
    · rintro rfl
      exact ⟨rest, rfl⟩
    · rintro ⟨after, same⟩
      exact (List.cons.inj same).1

/-- A uniform test says of what is at the position what it says of the next character. -/
theorem peek_any (place : At s position rest) {p : Char → Bool} (uniform : IsUniform p) :
    (Scanner.peek s position).any p = rest.head?.any p := by
  -- The end has no character, and elsewhere the first byte decides.
  cases rest with
  | nil => rw [place.peek_nil]; rfl
  | cons c rest => rw [place.peek_cons]; exact uniform.lead c

/-- Behind some of the characters the position is further on by their bytes. -/
theorem further (part : List Char) (place : At s position (part ++ rest)) :
    At s (position + byteLength part) rest := by
  -- The size is kept: what is added to the position is taken from the rest.
  refine ⟨(List.suffix_append part rest).trans place.suffix, ?_⟩
  rw [Nat.add_assoc, ← byteLength_append]
  exact place.size

/-- Two characters of ASCII are found only where they are the next ones. The second byte starts a
character for sure only if the first one was a character of its own. -/
theorem peek_pair_iff (place : At s position rest) {a b : Char} (ascii : a.toNat < 128)
    (further : b.toNat < 128) :
    Scanner.peek s position = some a ∧ Scanner.peek s (position + 1) = some b ↔
      ∃ after, rest = a :: b :: after := by
  -- Behind a character of one byte, the next byte starts a character.
  have next {after : List Char} (place : At s position (a :: after)) :
      At s (position + 1) after := by
    have behind := place.further [a]
    rwa [byteLength_singleton ascii] at behind
  constructor
  · rintro ⟨first, second⟩
    obtain ⟨after, rfl⟩ := (place.peek_eq_some_iff ascii).mp first
    obtain ⟨after, rfl⟩ := ((next place).peek_eq_some_iff further).mp second
    exact ⟨after, rfl⟩
  · rintro ⟨after, rfl⟩
    exact ⟨place.peek_ascii ascii, (next place).peek_ascii further⟩

/-- What is cut out between two positions are the characters between them. -/
theorem slice {part : List Char} (place : At s position (part ++ rest)) {stop : Nat}
    (stopPlace : At s stop rest) : Scanner.slice s position stop = .ok (String.ofList part) := by
  -- Both ends lie between characters, so that the cut is allowed.
  have behind : stop = position + byteLength part := by rw [stopPlace.eq, (place.further part).eq]
  have whole : (⟨position⟩ : String.Pos.Raw).IsValid s ∧ (⟨stop⟩ : String.Pos.Raw).IsValid s ∧
      position ≤ stop := ⟨place.isValid, stopPlace.isValid, by omega⟩
  rw [Scanner.slice, dif_pos whole]
  congr 1
  -- Two texts are the same if their bytes are.
  apply String.toByteArray_inj.mp
  apply ByteArray.ext
  apply Array.toList_inj.mp
  rw [toList_toByteArray (String.ofList part), String.toList_ofList, String.toByteArray_extract,
    ByteArray.data_extract, Array.toList_extract, List.extract_eq_take_drop]
  show (s.toByteArray.data.toList.drop position).take (stop - position) = bytes part
  rw [place.drop, bytes, List.flatMap_append, ← bytes, ← bytes]
  exact List.take_left' (by rw [length_bytes]; omega)

/-- A loop goes on behind a part that is not empty. -/
theorem onward {text : List Char} (place : At s position text) {next : Nat}
    (nextPlace : At s next rest) (shorter : byteLength rest < byteLength text) :
    ∃ moved, Scanner.onward s position next = .ok ⟨next, moved⟩ := by
  -- Fewer bytes are left, so the position is further on.
  have size := place.size
  have sizeBehind := nextPlace.size
  have moved : position < next ∧ next ≤ s.utf8ByteSize := by omega
  exact ⟨moved, dif_pos moved⟩

end At

/-! Moving the position. -/

/-- Bytes that pass a test are passed one by one, whether or not a character ends with them. -/
theorem skipWhile_eq {s : String} (p : Char → Bool) {position : Nat} {left : List UInt8}
    (behind : s.toByteArray.data.toList.drop position = left) :
    Scanner.skipWhile s p position =
      .ok (position + (left.takeWhile fun byte => p (Char.ofUInt8 byte)).length) := by
  -- The induction is on the bytes that are left, of which each round passes one.
  induction left generalizing position with
  | nil =>
    have nothing : Scanner.peek s position = none := by
      rw [peek_eq, behind, List.head?_nil, Option.map_none]
    rw [Scanner.skipWhile, nothing]
    rfl
  | cons byte left ih =>
    have first : Scanner.peek s position = some (Char.ofUInt8 byte) := by
      rw [peek_eq, behind, List.head?_cons, Option.map_some]
    rw [Scanner.skipWhile, first]
    cases passed : p (Char.ofUInt8 byte) with
    | false =>
      rw [if_neg (by simp [passed]), List.takeWhile_cons_of_neg (by simp [passed])]
      rfl
    | true =>
      -- The byte that was passed lies within the expression.
      have room : position + 1 ≤ s.utf8ByteSize := by
        have length := congrArg List.length behind
        rw [List.length_drop, Array.length_toList, List.length_cons] at length
        change s.utf8ByteSize - position = left.length + 1 at length
        omega
      -- The rest of the round starts one byte further on.
      have later : s.toByteArray.data.toList.drop (position + 1) = left := by
        rw [← List.drop_drop, behind, List.drop_one, List.tail_cons]
      have step : Scanner.advance s position 1 = .ok (position + 1) := if_pos room
      have moved : position < position + 1 ∧ position + 1 ≤ s.utf8ByteSize := by omega
      have round : Scanner.onward s position (position + 1) = .ok ⟨position + 1, moved⟩ :=
        dif_pos moved
      rw [if_pos (by simp [passed]), List.takeWhile_cons, if_pos passed, List.length_cons]
      simp only [step, Bind.bind, Except.bind, round]
      rw [ih later]
      congr 1
      omega

/-- The position gets to where certain characters are left. -/
def Scanner.Reaches (s : String) (moved : Except Scanner.Halt Nat) (rest : List Char) : Prop :=
  ∃ position, moved = .ok position ∧ At s position rest

variable {s : String} {position : Nat} {rest : List Char}

/-- A position has been reached when nothing has to be passed. -/
theorem At.reached (place : At s position rest) : Scanner.Reaches s (.ok position) rest :=
  ⟨position, rfl, place⟩

/-- Passing the bytes of some characters leaves those behind them. -/
theorem At.advance (part : List Char) (place : At s position (part ++ rest)) {count : Nat}
    (counted : byteLength part = count) :
    Scanner.Reaches s (Scanner.advance s position count) rest := by
  -- The position stays within the expression, for the characters do.
  have next := place.further part
  rw [counted] at next
  have size := next.size
  exact ⟨position + count, if_pos (by omega), next⟩

/-- Characters that pass a uniform test are passed as a whole. -/
theorem At.skipWhile (place : At s position rest) {p : Char → Bool} (uniform : IsUniform p) :
    Scanner.Reaches s (Scanner.skipWhile s p position) (rest.dropWhile p) := by
  -- The bytes that were passed are those of the characters that pass the test.
  refine ⟨_, skipWhile_eq p place.drop, ?_⟩
  rw [uniform.takeWhile, length_bytes]
  apply At.further
  rw [List.takeWhile_append_dropWhile]
  exact place

end Provision.Path
