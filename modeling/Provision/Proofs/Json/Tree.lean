import Provision.Json.Tree
import Provision.Proofs.Json.Token

/-! The tree of a JSON text is the one whose tokens are written there. -/

namespace Provision.Json

mutual

/-- The tokens of a tree. -/
def Tree.tokens : Tree → List Token
  | .null => [.null]
  | .bool b => [.bool b]
  | .number n => [.number n]
  | .text pieces => [.text pieces]
  | .array [] => [.openBracket, .closeBracket]
  | .array (item :: rest) => .openBracket :: (item.tokens ++ (itemTokens rest ++ [.closeBracket]))
  | .object [] => [.openBrace, .closeBrace]
  | .object ((key, tree) :: rest) =>
    .openBrace :: .text key :: .colon :: (tree.tokens ++ (memberTokens rest ++ [.closeBrace]))

/-- The tokens of the items after the first, each behind a comma. -/
def itemTokens : List Tree → List Token
  | [] => []
  | item :: rest => .comma :: (item.tokens ++ itemTokens rest)

/-- The tokens of the members after the first, each behind a comma. -/
def memberTokens : List (List Piece × Tree) → List Token
  | [] => []
  | (key, tree) :: rest => .comma :: .text key :: .colon :: (tree.tokens ++ memberTokens rest)

end

/-- A text consists of the tokens of a tree, with blanks around them. -/
def Tree.IsWritten (tree : Tree) (text : String) : Prop := Lexed tree.tokens text.toList

/-! No numeral of a tree stands right behind another. -/

/-- A token in front of a list that starts with no numeral. -/
theorem Apart.cons {tokens : List Token} (apart : Apart tokens) (noNumber : NoNumber tokens)
    (token : Token) : Apart (token :: tokens) := by
  -- Two numerals would have to be the first two tokens, but the second one is none.
  refine List.isChain_cons.mpr ⟨fun second first n m both => ?_, apart⟩
  rw [both.2] at first
  exact noNumber m first

/-- A token that is no numeral in front of a list. -/
theorem Apart.cons_mark {tokens : List Token} (apart : Apart tokens) (token : Token)
    (mark : ∀ n, token ≠ .number n) : Apart (token :: tokens) :=
  List.isChain_cons.mpr ⟨fun _ _ n _ both => mark n both.1, apart⟩

mutual

/-- The tokens of a tree keep numerals apart. -/
theorem apart_tokens (tree : Tree) {rest : List Token} (apart : Apart rest)
    (noNumber : NoNumber rest) : Apart (tree.tokens ++ rest) := by
  -- A numeral is a tree by itself, so only what follows the tree can stand behind one.
  match tree with
  | .null | .bool _ | .number _ | .text _ => exact apart.cons noNumber _
  | .array [] | .object [] => exact (apart.cons_mark _ (by nofun)).cons_mark _ (by nofun)
  | .array (item :: items) =>
    have behind := apart_items items (apart.cons_mark .closeBracket nofun) nofun
    have whole := (apart_tokens item behind.1 behind.2).cons_mark .openBracket nofun
    simpa [Tree.tokens] using whole
  | .object ((key, tree) :: members) =>
    -- In front of the members' end stands the first member, with its key and colon.
    have behind := apart_members members (apart.cons_mark .closeBrace nofun) nofun
    have inner := (apart_tokens tree behind.1 behind.2).cons_mark .colon nofun
    have whole := (inner.cons_mark (.text key) nofun).cons_mark .openBrace nofun
    simpa [Tree.tokens] using whole

/-- The tokens of items keep numerals apart. -/
theorem apart_items (items : List Tree) {rest : List Token} (apart : Apart rest)
    (noNumber : NoNumber rest) :
    Apart (itemTokens items ++ rest) ∧ NoNumber (itemTokens items ++ rest) := by
  -- Items begin with a comma, so what is in front of them is followed by no numeral.
  cases items with
  | nil => exact ⟨apart, noNumber⟩
  | cons item items =>
    have behind := apart_items items apart noNumber
    have whole := (apart_tokens item behind.1 behind.2).cons_mark .comma nofun
    exact ⟨by simpa [itemTokens] using whole, by nofun⟩

/-- The tokens of members keep numerals apart. -/
theorem apart_members (members : List (List Piece × Tree)) {rest : List Token}
    (apart : Apart rest) (noNumber : NoNumber rest) :
    Apart (memberTokens members ++ rest) ∧ NoNumber (memberTokens members ++ rest) := by
  -- A key and a colon stand between the comma and the tree of a member.
  cases members with
  | nil => exact ⟨apart, noNumber⟩
  | cons member members =>
    obtain ⟨key, tree⟩ := member
    have behind := apart_members members apart noNumber
    have inner := (apart_tokens tree behind.1 behind.2).cons_mark .colon nofun
    have whole := (inner.cons_mark (.text key) nofun).cons_mark .comma nofun
    exact ⟨by simpa [memberTokens] using whole, by nofun⟩

end

/-! Consuming the tokens of a tree gives the tree. -/

/-- No tree starts with a closing bracket. -/
theorem Tree.tokens_ne {tree : Tree} {rest after : List Token} :
    tree.tokens ++ rest ≠ .closeBracket :: after := by
  -- The first token of a tree is known from its form.
  match tree with
  | .null | .bool _ | .number _ | .text _ | .array [] | .object [] => nofun
  | .array (_ :: _) | .object (_ :: _) => simp [tokens]

mutual

/-- The tokens of a tree are consumed up to its end. -/
theorem build_tokens (tree : Tree) (frames : List Frame) (rest : List Token) :
    build .awaiting frames (tree.tokens ++ rest) = build (.ended tree) frames rest := by
  -- A scalar ends with its token; in an array or object the first part is built before the others.
  match tree with
  | .null | .bool _ | .number _ | .text _ | .array [] | .object [] =>
    simp only [Tree.tokens, List.cons_append, List.nil_append, build]
  | .array (item :: items) =>
    -- Its first item does not start with the bracket that would close an empty array.
    rw [Tree.tokens, List.cons_append, List.append_assoc, List.append_assoc, build,
      build_tokens item, List.singleton_append, build_items items]
    · simp
    · -- This is what tells it from an empty array.
      exact fun _ => Tree.tokens_ne
  | .object ((key, tree) :: members) =>
    rw [Tree.tokens, List.cons_append, List.cons_append, List.cons_append, List.append_assoc,
      List.append_assoc, build, build_tokens tree, List.singleton_append, build_members members]
    simp

/-- The tokens of the remaining items are consumed up to the end of the array. -/
theorem build_items (items : List Tree) (last : Tree) (before : List Tree) (frames : List Frame)
    (rest : List Token) :
    build (.ended last) (.array before :: frames) (itemTokens items ++ .closeBracket :: rest) =
      build (.ended (.array (before.reverse ++ last :: items))) frames rest := by
  -- The frame of the array collects its items, the last of which has just ended.
  cases items with
  | nil => simp [itemTokens, build]
  | cons item items =>
    rw [itemTokens, List.cons_append, List.append_assoc, build, build_tokens item,
      build_items items]
    simp

/-- The tokens of the remaining members are consumed up to the end of the object. -/
theorem build_members (members : List (List Piece × Tree)) (key : List Piece) (last : Tree)
    (before : List (List Piece × Tree)) (frames : List Frame) (rest : List Token) :
    build (.ended last) (.object before key :: frames)
        (memberTokens members ++ .closeBrace :: rest) =
      build (.ended (.object (before.reverse ++ (key, last) :: members))) frames rest := by
  -- The frame of the object also holds the key of the member that has just ended.
  cases members with
  | nil => simp [memberTokens, build]
  | cons member members =>
    obtain ⟨next, tree⟩ := member
    rw [memberTokens, List.cons_append, List.cons_append, List.cons_append, List.append_assoc,
      build, build_tokens tree, build_members members]
    simp

end

/-! What is consumed on the way to a tree are its tokens. -/

/-- The tokens of finished items, each in front of a comma. -/
def finishedItems (items : List Tree) : List Token :=
  items.flatMap fun item => item.tokens ++ [.comma]

/-- The tokens of finished members, each in front of a comma. -/
def finishedMembers (members : List (List Piece × Tree)) : List Token :=
  members.flatMap fun (key, tree) => .text key :: .colon :: (tree.tokens ++ [.comma])

/-- The tokens consumed for the arrays and objects that are still open. -/
def openedTokens : List Frame → List Token
  | [] => []
  | .array before :: frames => openedTokens frames ++ .openBracket :: finishedItems before.reverse
  | .object before key :: frames =>
    openedTokens frames ++ .openBrace :: (finishedMembers before.reverse ++ [.text key, .colon])

/-- The tokens consumed so far. -/
def consumed (stage : Stage) (frames : List Frame) : List Token :=
  match stage with
  | .awaiting => openedTokens frames
  | .ended tree => openedTokens frames ++ tree.tokens

/-- The tokens of an array lead up to those of its last item. -/
theorem tokens_array (before : List Tree) (last : Tree) :
    (Tree.array (before ++ [last])).tokens =
      .openBracket :: (finishedItems before ++ (last.tokens ++ [.closeBracket])) := by
  -- A comma belongs to the item in front of it just as well as to the one behind it.
  have shifted (items : List Tree) (first : Tree) :
      first.tokens ++ itemTokens (items ++ [last]) =
        finishedItems (first :: items) ++ last.tokens := by
    induction items generalizing first with
    | nil => simp [itemTokens, finishedItems]
    | cons item items ih => simp [itemTokens, finishedItems, ih item]
  -- With no items in front there is no comma at all.
  cases before with
  | nil => simp [Tree.tokens, itemTokens, finishedItems]
  | cons first items =>
    rw [List.cons_append, Tree.tokens, ← List.append_assoc, shifted, List.append_assoc]

/-- The tokens of an object lead up to those of its last member. -/
theorem tokens_object (before : List (List Piece × Tree)) (key : List Piece) (last : Tree) :
    (Tree.object (before ++ [(key, last)])).tokens =
      .openBrace :: (finishedMembers before ++
        .text key :: .colon :: (last.tokens ++ [.closeBrace])) := by
  -- Here, too, a comma may be counted with the member in front of it.
  have shifted (members : List (List Piece × Tree)) (first : Tree) :
      first.tokens ++ memberTokens (members ++ [(key, last)]) =
        first.tokens ++ .comma :: (finishedMembers members ++
          .text key :: .colon :: last.tokens) := by
    induction members generalizing first with
    | nil => simp [memberTokens, finishedMembers]
    | cons member members ih => simp [memberTokens, finishedMembers, ih member.2]
  cases before with
  | nil => simp [Tree.tokens, memberTokens, finishedMembers]
  | cons first members =>
    rw [List.cons_append, Tree.tokens, ← List.append_assoc, shifted]
    simp [finishedMembers]

/-- What is consumed on the way to a tree, and what is still to be consumed, are its tokens. -/
theorem consumed_of_build {stage : Stage} {frames : List Frame} {tokens : List Token} {tree : Tree}
    (built : build stage frames tokens = some tree) :
    consumed stage frames ++ tokens = tree.tokens := by
  -- Each step moves the tokens that it takes from what is left to what is consumed.
  fun_induction build stage frames tokens with
  | case1 ended =>
    cases built
    simp [consumed, openedTokens]
  | case2 ended before frames rest ih =>
    rw [← ih built]
    simp [consumed, openedTokens, finishedItems]
  | case3 ended before frames rest ih =>
    rw [← ih built]
    simp [consumed, openedTokens, tokens_array]
  | case4 ended before key frames next rest ih =>
    rw [← ih built]
    simp [consumed, openedTokens, finishedMembers]
  | case5 ended before key frames rest ih =>
    rw [← ih built]
    simp [consumed, openedTokens, tokens_object]
  | case7 frames rest _ ih =>
    rw [← ih built]
    simp [consumed, openedTokens, finishedItems]
  | case9 frames key rest ih =>
    rw [← ih built]
    simp [consumed, openedTokens, finishedMembers]
  | case6 _ _ ih | case8 _ _ ih | case10 _ _ ih | case11 _ _ _ ih | case12 _ _ _ ih
  | case13 _ _ _ ih =>
    rw [← ih built]
    simp [consumed, Tree.tokens]
  | case14 => cases built

/-- Tokens form a tree exactly when they are those of the tree. -/
theorem build_eq_some_iff {tokens : List Token} {tree : Tree} :
    build .awaiting [] tokens = some tree ↔ tokens = tree.tokens := by
  -- At the start nothing is open, and nothing has been consumed.
  constructor
  · intro built
    simpa [consumed, openedTokens] using consumed_of_build built
  · rintro rfl
    simpa [build] using build_tokens tree [] []

/-- The tree of a text is the one whose tokens are written there. -/
theorem Tree.parse?_eq_some_iff {text : String} {tree : Tree} :
    Tree.parse? text = some tree ↔ tree.IsWritten text := by
  -- The tokens of a tree keep numerals apart, so they can be told from the text.
  have apart : Apart tree.tokens := by
    simpa using apart_tokens tree List.isChain_nil (by nofun)
  rw [Tree.parse?, Option.bind_eq_some_iff]
  constructor
  · rintro ⟨tokens, found, built⟩
    cases build_eq_some_iff.mp built
    exact (tokens?_eq_some_iff apart).mp found
  · intro written
    exact ⟨_, (tokens?_eq_some_iff apart).mpr written, build_eq_some_iff.mpr rfl⟩

/-! The pieces of a string make up characters. -/

/-- A code unit that is neither half of a pair. -/
def IsWhole (unit : Nat) : Prop := unit < 0xD800 ∨ 0xE000 ≤ unit

/-- The characters that pieces spell. A code unit is the code of a character by itself, unless it is
one half of a pair, of which the first half comes first. -/
inductive Spells : List Piece → List Char → Prop where
  | nil : Spells [] []
  | char {c : Char} {pieces : List Piece} {text : List Char} : Spells pieces text →
      Spells (.char c :: pieces) (c :: text)
  | unit {unit : Nat} {pieces : List Piece} {text : List Char} : IsWhole unit →
      Spells pieces text → Spells (.unit unit :: pieces) (Char.ofNat unit :: text)
  | pair {high low : Nat} {pieces : List Piece} {text : List Char} : high < 0x400 → low < 0x400 →
      Spells pieces text →
      Spells (.unit (0xD800 + high) :: .unit (0xDC00 + low) :: pieces)
        (Char.ofNat (0x10000 + high * 0x400 + low) :: text)

/-- A code unit is neither half of a pair if it is neither the first nor the second one. -/
theorem isWhole_iff {unit : Nat} :
    IsWhole unit ↔ isHigh unit = false ∧ isLow unit = false := by
  simp [IsWhole, isHigh, isLow]
  omega

/-- A code unit that is no half of a pair stands for one character, whatever follows. -/
theorem characters?_unit {unit : Nat} (whole : IsWhole unit) (pieces : List Piece) :
    characters? (.unit unit :: pieces) = (characters? pieces).map (Char.ofNat unit :: ·) := by
  -- The reader looks at a second unit only behind the first half of a pair.
  obtain ⟨noHigh, noLow⟩ := isWhole_iff.mp whole
  match pieces with
  | [] | .char _ :: _ | .unit _ :: _ => simp [characters?, noHigh, noLow]

/-- Pieces stand for the characters that they spell. -/
theorem characters?_eq_some_iff {pieces : List Piece} {text : List Char} :
    characters? pieces = some text ↔ Spells pieces text := by
  -- Each branch of the reader takes a character, a whole unit or a pair.
  constructor
  · intro read
    fun_induction characters? pieces generalizing text
    case case1 =>
      cases read
      exact .nil
    case case2 ih =>
      obtain ⟨characters, inner, rfl⟩ := Option.map_eq_some_iff.mp read
      exact .char (ih inner)
    case case3 high low rest isHigh isLow ih =>
      obtain ⟨characters, inner, rfl⟩ := Option.map_eq_some_iff.mp read
      simp only [Json.isHigh, Json.isLow, Bool.and_eq_true, decide_eq_true_eq] at isHigh isLow
      -- The two halves are counted from where their ranges begin.
      have first : high = 0xD800 + (high - 0xD800) := by omega
      have second : low = 0xDC00 + (low - 0xDC00) := by omega
      have spelt := Spells.pair (show high - 0xD800 < 0x400 by omega)
        (show low - 0xDC00 < 0x400 by omega) (ih inner)
      rwa [← first, ← second] at spelt
    case case6 noHigh noLow ih =>
      obtain ⟨characters, inner, rfl⟩ := Option.map_eq_some_iff.mp read
      exact .unit (isWhole_iff.mpr ⟨by simpa using noHigh, by simpa using noLow⟩) (ih inner)
    case case8 none ih =>
      obtain ⟨characters, inner, rfl⟩ := Option.map_eq_some_iff.mp read
      exact .unit (isWhole_iff.mpr (by simpa using none)) (ih inner)
    all_goals cases read
  · intro spells
    induction spells with
    | nil => rfl
    | char spells ih => rw [characters?, ih, Option.map_some]
    | unit whole spells ih => rw [characters?_unit whole, ih, Option.map_some]
    -- The offsets are those of a high and a low half.
    | @pair high low pieces text small smaller spells ih =>
      have isHigh : isHigh (0xD800 + high) = true := by simp [Json.isHigh]; omega
      have isLow : isLow (0xDC00 + low) = true := by simp [Json.isLow]; omega
      rw [characters?, if_pos isHigh, if_pos isLow, ih, Option.map_some, Nat.add_sub_cancel_left,
        Nat.add_sub_cancel_left]

/-- Pieces stand for the string whose characters they spell. -/
theorem string?_eq_some_iff {pieces : List Piece} {text : String} :
    string? pieces = some text ↔ Spells pieces text.toList := by
  -- A string and its characters determine each other.
  rw [string?, Option.map_eq_some_iff, ← characters?_eq_some_iff]
  constructor
  · rintro ⟨characters, read, rfl⟩
    rw [read, String.toList_ofList]
  · exact fun read => ⟨_, read, String.ofList_toList⟩

end Provision.Json
