import Provision.Envelope
import Provision.Proofs.Json.Tree

/-! Whether an error means that an object is gone is decided by its status and by the code that a
service gives in its body. -/

namespace Provision

namespace Envelope

/-- The fields of an object under the strings that their names spell. Half a pair of code units is
part of no string, so an object with such a name has no fields under strings. -/
inductive Named : List (List Json.Piece × Json.Tree) → List (String × Json.Tree) → Prop where
  | nil : Named [] []
  | cons {pieces : List Json.Piece} {name : String} {tree : Json.Tree}
      {members : List (List Json.Piece × Json.Tree)} {fields : List (String × Json.Tree)} :
      Json.Spells pieces name.toList → Named members fields →
      Named ((pieces, tree) :: members) ((name, tree) :: fields)

/-- The values of the fields of a name, at most one unless fields are repeated. -/
def valuesOf (name : String) (fields : List (String × Json.Tree)) : List Json.Tree :=
  (fields.filter (·.1 = name)).map (·.2)

/-- A string or null. -/
inductive OptionalText : Json.Tree → Option String → Prop where
  | null : OptionalText .null none
  | text {pieces : List Json.Piece} {text : String} : Json.Spells pieces text.toList →
      OptionalText (.text pieces) (some text)

/-- A string, null or nothing, but not several values. -/
inductive SoleText : List Json.Tree → Option String → Prop where
  | absent : SoleText [] none
  | sole {tree : Json.Tree} {text : Option String} : OptionalText tree text → SoleText [tree] text

/-- An object in which a code and a message are each a string, null or absent, or an array of these
two, each a string or null. -/
inductive Pair (codeKey messageKey : String) : Json.Tree → Envelope → Prop where
  | object {members : List (List Json.Piece × Json.Tree)} {fields : List (String × Json.Tree)}
      {code message : Option String} : Named members fields →
      SoleText (valuesOf codeKey fields) code → SoleText (valuesOf messageKey fields) message →
      Pair codeKey messageKey (.object members) ⟨code, message⟩
  | array {first second : Json.Tree} {code message : Option String} : OptionalText first code →
      OptionalText second message → Pair codeKey messageKey (.array [first, second]) ⟨code, message⟩

/-- The code and message of the only error among fields. -/
def Nested (fields : List (String × Json.Tree)) (envelope : Envelope) : Prop :=
  ∃ tree, valuesOf "error" fields = [tree] ∧ Pair "code" "message" tree envelope

/-- The code and message among fields, each a string, null or absent. -/
def Flat (fields : List (String × Json.Tree)) (envelope : Envelope) : Prop :=
  SoleText (valuesOf "error_code" fields) envelope.code ∧
    SoleText (valuesOf "error_msg" fields) envelope.message

/-- The code that fields give: that of the error among them, or else their own, or else none. -/
inductive VendorCode (fields : List (String × Json.Tree)) : Option String → Prop where
  | nested {envelope : Envelope} : Nested fields envelope → VendorCode fields envelope.code
  | flat {envelope : Envelope} : (∀ other, ¬Nested fields other) → Flat fields envelope →
      VendorCode fields envelope.code
  | neither : (∀ other, ¬Nested fields other) → (∀ other, ¬Flat fields other) →
      VendorCode fields none

/-- Optional texts are read as they are spelt. -/
theorem optionalText?_eq_some_iff {tree : Json.Tree} {text : Option String} :
    optionalText? tree = some text ↔ OptionalText tree text := by
  -- A string is read by its own reader, null without a text, and nothing else at all.
  constructor
  · intro read
    cases tree with
    | null => cases read; exact .null
    | text pieces =>
      obtain ⟨text, spelt, rfl⟩ := Option.map_eq_some_iff.mp read
      exact .text (Json.string?_eq_some_iff.mp spelt)
    | _ => cases read
  · rintro (_ | spells)
    · rfl
    · rw [optionalText?, Json.string?_eq_some_iff.mpr spells, Option.map_some]

/-- The keys of members are read as they are spelt. -/
theorem keyed?_eq_some_iff {members : List (List Json.Piece × Json.Tree)}
    {fields : List (String × Json.Tree)} : keyed? members = some fields ↔ Named members fields := by
  -- The induction is on the members one way, and on how they are named the other way.
  constructor
  · intro read
    induction members generalizing fields with
    | nil => cases read; exact .nil
    | cons member members ih =>
      simp only [keyed?, Option.bind_eq_bind, Option.bind_eq_some_iff] at read
      obtain ⟨name, spelt, fields, rest, same⟩ := read
      cases same
      exact .cons (Json.string?_eq_some_iff.mp spelt) (ih rest)
  · intro named
    induction named with
    | nil => rfl
    | cons spells named ih =>
      simp [keyed?, Json.string?_eq_some_iff.mpr spells, ih]

/-- A key without values has no sole one. -/
theorem sole?_eq_some_none_iff {key : String} {fields : List (String × Json.Tree)} :
    sole? key fields = some none ↔ valuesOf key fields = [] := by
  -- Under the key there is nothing, one value or more, and each case is read differently.
  unfold sole? valuesOf
  generalize fields.filter (·.1 = key) = found
  rcases found with _ | ⟨first, _ | ⟨second, rest⟩⟩ <;> simp

/-- The sole value of a key is the only one among its values. -/
theorem sole?_eq_some_some_iff {key : String} {fields : List (String × Json.Tree)}
    {tree : Json.Tree} : sole? key fields = some (some tree) ↔ valuesOf key fields = [tree] := by
  -- More than one value is a repetition, which is refused rather than resolved.
  unfold sole? valuesOf
  generalize fields.filter (·.1 = key) = found
  rcases found with _ | ⟨first, _ | ⟨second, rest⟩⟩ <;> simp

/-- The optional text of a key is read from its sole value. -/
theorem memberText?_eq_some_iff {key : String} {fields : List (String × Json.Tree)}
    {text : Option String} :
    memberText? key fields = some text ↔ SoleText (valuesOf key fields) text := by
  -- The key is absent, or it has one value that is read as an optional text.
  simp only [memberText?, Option.bind_eq_bind, Option.bind_eq_some_iff]
  constructor
  · rintro ⟨_ | tree, sole, read⟩
    · cases read
      rw [sole?_eq_some_none_iff.mp sole]
      exact .absent
    · rw [sole?_eq_some_some_iff.mp sole]
      exact .sole (optionalText?_eq_some_iff.mp read)
  · intro written
    generalize values : valuesOf key fields = found at written
    cases written with
    | absent => exact ⟨none, sole?_eq_some_none_iff.mpr values, rfl⟩
    | sole optional =>
      exact ⟨some _, sole?_eq_some_some_iff.mpr values, optionalText?_eq_some_iff.mpr optional⟩

/-- A code and a message are read from an object or array that holds them. -/
theorem pair?_eq_some_iff {codeKey messageKey : String} {tree : Json.Tree} {envelope : Envelope} :
    pair? codeKey messageKey tree = some envelope ↔ Pair codeKey messageKey tree envelope := by
  -- Each of the two shapes is read part by part, and a tree of another shape is not read.
  constructor
  · intro read
    unfold pair? at read
    split at read
    · -- An object is asked for both keys.
      simp only [Option.bind_eq_bind, Option.bind_eq_some_iff] at read
      obtain ⟨fields, keyed, code, first, message, second, same⟩ := read
      cases same
      exact .object (keyed?_eq_some_iff.mp keyed) (memberText?_eq_some_iff.mp first)
        (memberText?_eq_some_iff.mp second)
    · -- An array has the two texts by their places.
      simp only [Option.bind_eq_bind, Option.bind_eq_some_iff] at read
      obtain ⟨code, first, message, second, same⟩ := read
      cases same
      exact .array (optionalText?_eq_some_iff.mp first) (optionalText?_eq_some_iff.mp second)
    · cases read
  · intro pair
    cases pair with
    | object named code message =>
      simp [pair?, keyed?_eq_some_iff.mpr named, memberText?_eq_some_iff.mpr code,
        memberText?_eq_some_iff.mpr message]
    | array code message =>
      simp [pair?, optionalText?_eq_some_iff.mpr code, optionalText?_eq_some_iff.mpr message]

/-- The names of an object are spelt in one way only. -/
theorem Named.unique {members : List (List Json.Piece × Json.Tree)}
    {fields others : List (String × Json.Tree)} (named : Named members fields)
    (again : Named members others) : fields = others := by
  -- Reading the members gives the fields, whichever way they are said to be named.
  have same := (keyed?_eq_some_iff.mpr named).symm.trans (keyed?_eq_some_iff.mpr again)
  exact Option.some.inj same

section Object

variable {members : List (List Json.Piece × Json.Tree)} {fields : List (String × Json.Tree)}
  (named : Named members fields)

include named

/-- The envelope inside an object is that of its only error. -/
theorem nested?_object {envelope : Envelope} :
    nested? (.object members) = some envelope ↔ Nested fields envelope := by
  -- The error has to be the only value of its name, and a pair.
  simp only [nested?, keyed?_eq_some_iff.mpr named, Option.bind_eq_bind, Option.bind_some,
    Option.bind_eq_some_iff]
  constructor
  · rintro ⟨_ | tree, sole, read⟩
    · cases read
    · exact ⟨tree, sole?_eq_some_some_iff.mp sole, pair?_eq_some_iff.mp read⟩
  · rintro ⟨tree, values, pair⟩
    exact ⟨some tree, sole?_eq_some_some_iff.mpr values, pair?_eq_some_iff.mpr pair⟩

/-- The envelope beside the other fields of an object is that of its fields. -/
theorem flat?_object {envelope : Envelope} :
    pair? "error_code" "error_msg" (.object members) = some envelope ↔ Flat fields envelope := by
  -- An object is named in one way, so its fields are the ones at hand.
  rw [pair?_eq_some_iff]
  constructor
  · rintro @⟨_, _, _, _, again, code, message⟩
    cases named.unique again
    exact ⟨code, message⟩
  · rintro ⟨code, message⟩
    exact .object named code message

/-- The code of an object is the one that its fields give. -/
theorem parse_code_iff {body : String} (written : (Json.Tree.object members).IsWritten body)
    {code : Option String} : (parse body).code = code ↔ VendorCode fields code := by
  -- What cannot be read from the object is not there in its fields.
  have noNested : nested? (.object members) = none ↔ ∀ other, ¬Nested fields other := by
    simp only [Option.eq_none_iff_forall_ne_some, ne_eq, nested?_object named]
  have noFlat : pair? "error_code" "error_msg" (.object members) = none ↔
      ∀ other, ¬Flat fields other := by
    simp only [Option.eq_none_iff_forall_ne_some, ne_eq, flat?_object named]
  rw [parse, Json.Tree.parse?_eq_some_iff.mpr written]
  dsimp only
  constructor
  · -- The flat shape is looked at only if the nested one is not there.
    rintro rfl
    cases inner : nested? (.object members) with
    | some envelope => exact .nested ((nested?_object named).mp inner)
    | none =>
      cases beside : pair? "error_code" "error_msg" (.object members) with
      | some envelope => exact .flat (noNested.mp inner) ((flat?_object named).mp beside)
      | none => exact .neither (noNested.mp inner) (noFlat.mp beside)
  · -- How the code is given says which of the shapes are missing.
    intro vendor
    cases vendor with
    | nested inner => rw [(nested?_object named).mpr inner]
    | flat missing beside =>
      rw [noNested.mpr missing, (flat?_object named).mpr beside]
      rfl
    | neither missing missingToo =>
      rw [noNested.mpr missing, noFlat.mpr missingToo]
      rfl

end Object

/-- A body that is no JSON text has neither code nor message. -/
theorem parse_of_not_written {body : String}
    (unwritten : ∀ tree : Json.Tree, ¬tree.IsWritten body) : parse body = ⟨none, none⟩ := by
  -- A text that was read as a tree would be written as that tree.
  have unread : Json.Tree.parse? body = none :=
    Option.eq_none_iff_forall_ne_some.mpr fun tree read =>
      unwritten tree (Json.Tree.parse?_eq_some_iff.mp read)
  rw [parse, unread]

/-- A tree that is neither an array nor an object. -/
def IsScalar : Json.Tree → Prop
  | .array _ | .object _ => False
  | .null | .bool _ | .number _ | .text _ => True

/-- A scalar has neither code nor message. -/
theorem parse_of_isScalar {body : String} {tree : Json.Tree} (written : tree.IsWritten body)
    (scalar : IsScalar tree) : parse body = ⟨none, none⟩ := by
  -- Either shape is that of an array or an object.
  rw [parse, Json.Tree.parse?_eq_some_iff.mpr written]
  cases tree with
  | array | object => cases scalar
  | null | bool | number | text => rfl

/-- An object with a name that no string spells has neither code nor message. -/
theorem parse_of_not_named {body : String} {members : List (List Json.Piece × Json.Tree)}
    (written : (Json.Tree.object members).IsWritten body)
    (unnamed : ∀ fields, ¬Named members fields) : parse body = ⟨none, none⟩ := by
  -- All names are read before the value of any, in either shape.
  have unread : keyed? members = none :=
    Option.eq_none_iff_forall_ne_some.mpr fun fields read =>
      unnamed fields (keyed?_eq_some_iff.mp read)
  rw [parse, Json.Tree.parse?_eq_some_iff.mpr written]
  simp [nested?, pair?, unread]

/-! Only the fields of five names count. -/

/-- Errors that differ in fields other than code and message at most, or in the order of fields. -/
inductive AlikeError : Json.Tree → Json.Tree → Prop where
  | same (tree : Json.Tree) : AlikeError tree tree
  | object {members others : List (List Json.Piece × Json.Tree)}
      {fields otherFields : List (String × Json.Tree)} : Named members fields →
      Named others otherFields → valuesOf "code" fields = valuesOf "code" otherFields →
      valuesOf "message" fields = valuesOf "message" otherFields →
      AlikeError (.object members) (.object others)

/-- Fields of which only others than error, error code and error message differ, or the order. -/
structure Alike (fields others : List (String × Json.Tree)) : Prop where
  error : List.Forall₂ AlikeError (valuesOf "error" fields) (valuesOf "error" others)
  code : valuesOf "error_code" fields = valuesOf "error_code" others
  message : valuesOf "error_msg" fields = valuesOf "error_msg" others

/-- Errors are alike in both directions. -/
theorem AlikeError.symm {tree other : Json.Tree} (alike : AlikeError tree other) :
    AlikeError other tree := by
  -- To have the same values under a name goes both ways.
  cases alike with
  | same => exact .same tree
  | object named again code message => exact .object again named code.symm message.symm

/-- Fields are alike in both directions. -/
theorem Alike.symm {fields others : List (String × Json.Tree)} (alike : Alike fields others) :
    Alike others fields :=
  ⟨alike.error.flip.imp fun _ _ => AlikeError.symm, alike.code.symm, alike.message.symm⟩

/-- Errors that are alike have the same code and message. -/
theorem AlikeError.pair {tree other : Json.Tree} (alike : AlikeError tree other)
    {envelope : Envelope} (pair : Pair "code" "message" tree envelope) :
    Pair "code" "message" other envelope := by
  -- Of an error only the values of two names are read, and these are the same.
  cases alike with
  | same => exact pair
  | object named again code message =>
    obtain @⟨_, _, _, _, listed, first, second⟩ := pair
    cases named.unique listed
    rw [code] at first
    rw [message] at second
    exact .object again first second

/-- Fields that are alike have the same error. -/
theorem Alike.nested {fields others : List (String × Json.Tree)} (alike : Alike fields others)
    {envelope : Envelope} (nested : Nested fields envelope) : Nested others envelope := by
  -- The errors correspond one by one, so where there is one on this side there is one on that.
  obtain ⟨tree, sole, pair⟩ := nested
  have errors := alike.error
  rw [sole] at errors
  generalize values : valuesOf "error" others = found at errors
  obtain _ | ⟨same, _ | _⟩ := errors
  exact ⟨_, values, same.pair pair⟩

/-- Fields that are alike have the same code and message of their own. -/
theorem Alike.flat {fields others : List (String × Json.Tree)} (alike : Alike fields others)
    {envelope : Envelope} (flat : Flat fields envelope) : Flat others envelope := by
  rwa [Flat, ← alike.code, ← alike.message]

/-- Fields that are alike give the same code. -/
theorem Alike.vendorCode {fields others : List (String × Json.Tree)} (alike : Alike fields others)
    {code : Option String} (vendor : VendorCode fields code) : VendorCode others code := by
  -- What one of the two lacks, the other one lacks as well.
  cases vendor with
  | nested inner => exact .nested (alike.nested inner)
  | flat missing beside =>
    exact .flat (fun other inner => missing other (alike.symm.nested inner)) (alike.flat beside)
  | neither missing missingToo =>
    exact .neither (fun other inner => missing other (alike.symm.nested inner))
      fun other beside => missingToo other (alike.symm.flat beside)

end Envelope

namespace NotFoundRule

open Envelope

/-- A rule covers the statuses that it lists, if it lists no codes or the one that the body has. -/
theorem covers_iff {rule : NotFoundRule} {failure : Failure} :
    rule.covers failure = true ↔ ∃ status body,
      failure = .unexpectedStatus status body ∧ status ∈ rule.statusCodes ∧
        (rule.errorCodes = [] ∨ ∃ code ∈ rule.errorCodes, (parse body).code = some code) := by
  -- A failure that is no answer has neither a status nor a body.
  cases failure with
  | unexpectedStatus status body =>
    -- Without a code no listed one is found.
    rw [covers, Failure.envelope?]
    cases found : (parse body).code <;> simp [found]
  | _ => simp [covers, Failure.envelope?]

/-- A rule covers an error by its status and, if it lists codes, by the code of the body. In an
object whose names are spelt by strings this is the code that its fields give, and it is the same
for objects that are alike. An object with another name has no code, nor has a scalar or a text that
is not JSON. -/
theorem covers_by_vendorCode (rule : NotFoundRule) :
    (∀ failure, rule.covers failure = true ↔ ∃ status body,
      failure = .unexpectedStatus status body ∧ status ∈ rule.statusCodes ∧
        (rule.errorCodes = [] ∨ ∃ code ∈ rule.errorCodes, (parse body).code = some code)) ∧
    (∀ body members, (Json.Tree.object members).IsWritten body →
      (∀ fields, Named members fields → ∀ code, (parse body).code = code ↔ VendorCode fields code) ∧
      ((∀ fields, ¬Named members fields) → (parse body).code = none)) ∧
    (∀ body, (∀ tree : Json.Tree, ¬tree.IsWritten body) → (parse body).code = none) ∧
    (∀ body (tree : Json.Tree), tree.IsWritten body → IsScalar tree → (parse body).code = none) ∧
    ∀ status body other members others fields otherFields,
      (Json.Tree.object members).IsWritten body → (Json.Tree.object others).IsWritten other →
      Named members fields → Named others otherFields → Alike fields otherFields →
      rule.covers (.unexpectedStatus status body) =
        rule.covers (.unexpectedStatus status other) := by
  -- The first four parts restate what is known of rules and bodies; the last compares two bodies.
  refine ⟨fun failure => covers_iff, fun body members written => ⟨fun fields named code => ?_, ?_⟩,
    fun body unwritten => ?_, fun body tree written scalar => ?_, ?_⟩
  · exact parse_code_iff named written
  · intro unnamed
    rw [parse_of_not_named written unnamed]
  · rw [parse_of_not_written unwritten]
  · rw [parse_of_isScalar written scalar]
  · intro status body other members others fields otherFields written otherWritten named
      otherNamed alike
    -- The code of the one body is also what the fields of the other give.
    have same : (parse other).code = (parse body).code :=
      (parse_code_iff otherNamed otherWritten).mpr
        (alike.vendorCode ((parse_code_iff named written).mp rfl))
    simp [covers, Failure.envelope?, same]

/-- Half a pair of code units in a name hides the code of an object, which its grammar allows, and
in a value that is not looked at it does not, so no one reading of such texts fits both. -/
theorem covers_unpaired_name :
    (Json.Tree.object [([.unit 0xD800], .null),
      ("error_code".toList.map .char, .text [.char 'X'])]).IsWritten
        "\x7b\"\\ud800\":null,\"error_code\":\"X\"\x7d" ∧
    covers ⟨[404], ["X"]⟩
      (.unexpectedStatus 404 "\x7b\"\\ud800\":null,\"error_code\":\"X\"\x7d") = false ∧
    covers ⟨[404], ["X"]⟩
      (.unexpectedStatus 404 "\x7b\"note\":\"\\ud800\",\"error_code\":\"X\"\x7d") = true := by
  -- The grammar of the text is shown by parsing it, and both rules by evaluating them.
  refine ⟨Json.Tree.parse?_eq_some_iff.mp ?_, ?_, ?_⟩
  all_goals rfl

end NotFoundRule

end Provision
