import Provision.Value

/-! Tags travel as lists of keys and values, and change by removing some and adding others. -/

namespace Provision.Tags

/-- A tag as it is sent. -/
def document (key value : String) : Document :=
  .object [("key", .string key), ("value", .string value)]

/-- The entries of a map; anything else has none. -/
def entriesOf : Option Value → Dict Value
  | some (.map entries) => Dict.ofList entries
  | _ => Dict.empty

/-- The tags of entries in key order; entries other than texts are left out. -/
def listOf (tags : Dict Value) : List Document :=
  tags.entries.filterMap fun (key, value) => value.string?.map (document key)

/-- The tags of an attribute as they are sent. -/
def build (tags : Option Value) : List Document := listOf (entriesOf tags)

/-- The key and value of a tag as it is read; a value that is no text is empty. -/
def read? (tag : Document) : Option (String × Value) := do
  let key ← (← tag.get? "key").string?
  let value := ((tag.get? "value").bind Document.string?).getD ""
  return (key, .string value)

/-- The tags of a list, of which the last under a key counts. -/
def parse (tags : List Document) : Dict Value := Dict.ofList (tags.filterMap read?)

/-- The tags to remove and those to add on the way from old to
new; a changed tag is in both lists. -/
def diff (old new : Option Value) : List Document × List Document :=
  let before := entriesOf old
  let after := entriesOf new
  let removed := before.filter fun key value => !value.agreesWith (after.get? key)
  let added := after.filter fun key value => !value.agreesWith (before.get? key)
  (listOf removed, listOf added)

end Provision.Tags
