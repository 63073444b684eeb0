import StorageArray.Http.Name.Direction
import StorageArray.Http.Name.Label
import StorageArray.Text.Utf8
/-!
# Names of hosts

A name is a sequence of labels.  It may be given in any script; it is sent in ASCII, in lower
case.  `Name.ascii?` gives this form of a name, and none if it is not one.
-/

namespace StorageArray.Http.Name

/-- The labels of a text. -/
def labels? (cs : List Char) : Option (List Label) := do
  (Text.split '.' (composed (← forms? cs))).mapM Label.ofCharacters?

/-- Nothing in the labels is written from right to left, or all of them keep to one
direction. -/
def areOrderly (labels : List Label) : Bool :=
  !labels.any (hasLeftward ·.characters) || labels.all (isOrderly ·.characters)

/-- The name in ASCII. -/
def ascii? (cs : List Char) : Option (List Char) := do
  let labels ← labels? cs
  if areOrderly labels then some (['.'].intercalate (labels.map (·.ascii))) else none

end StorageArray.Http.Name
