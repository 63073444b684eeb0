import StorageArray.Http.Name.Direction.Table
import StorageArray.Text.Lowercase
/-!
# The direction of labels

A name in which something is written from right to left can be shown in a misleading order.
Each label of such a name has to begin with a letter and to keep to one direction: a label
from left to right holds no letters of the other direction and ends in a letter or a digit,
one from right to left holds no letters of the other direction and digits of one kind only.
-/

namespace StorageArray.Http.Name

/-- The direction of a character. -/
def direction (c : Char) : Direction :=
  ((directionRanges.find? fun (_, ranges) => Text.inRanges ranges c).map (·.1)).getD .left

namespace Direction

/-- What makes a name one with a part from right to left. -/
def isLeftward : Direction → Bool
  | right | arabic | arabicNumber => true
  | _ => false

/-- What a label from left to right can hold. -/
def fitsLeft : Direction → Bool
  | right | arabic | arabicNumber => false
  | _ => true

/-- What a label from right to left can hold. -/
def fitsRight : Direction → Bool
  | left => false
  | _ => true

/-- What a label from left to right can end in, marks left out. -/
def endsLeft : Direction → Bool
  | left | europeanNumber => true
  | _ => false

/-- What a label from right to left can end in, marks left out. -/
def endsRight : Direction → Bool
  | right | arabic | arabicNumber | europeanNumber => true
  | _ => false

/-- The last direction other than that of a mark fulfils a condition. -/
def endsIn (condition : Direction → Bool) (ds : List Direction) : Bool :=
  ((ds.reverse.dropWhile (· == .mark)).head?).any condition

/-- The directions of the characters of a label keep to one direction. -/
def areOrderly (ds : List Direction) : Bool :=
  match ds with
  | [] => true
  | left :: _ => ds.all fitsLeft && endsIn endsLeft ds
  | right :: _ | arabic :: _ =>
    ds.all fitsRight && endsIn endsRight ds
      && !(ds.contains arabicNumber && ds.contains europeanNumber)
  | _ => false

end Direction

/-- Something in the text is written from right to left. -/
def hasLeftward (cs : List Char) : Bool := cs.any fun c => (direction c).isLeftward

/-- The label keeps to one direction. -/
def isOrderly (label : List Char) : Bool := Direction.areOrderly (label.map direction)

end StorageArray.Http.Name
