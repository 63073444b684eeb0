import StorageArray.Http.Name.Composition
import StorageArray.Http.Name.Joining.Table
/-!
# Joiners

Two characters without any width change how their neighbours are joined: U+200D joins them
and U+200C keeps them apart.  In a label they are of use, and allowed, only behind the sign
that cancels the vowel of a letter, and U+200C also between letters that would be joined.
-/

namespace StorageArray.Http.Name

/-- How a character joins. -/
def joining (c : Char) : Joining :=
  ((joiningRanges.find? fun (_, ranges) => Text.inRanges ranges c).map (·.1)).getD .apart

/-- The character needs another one before it. -/
def isMark (c : Char) : Bool := Text.inRanges markRanges c

/-- The character keeps its neighbours apart. -/
def isSeparator (c : Char) : Bool := c.toNat == 0x200c

/-- The character is one of the two that change how others are joined. -/
def isJoiner (c : Char) : Bool := c.toNat == 0x200c || c.toNat == 0x200d

/-- The mark cancels the vowel of the letter before it. -/
def cancelsVowel (c : Char) : Bool := markClass c == 9

/-- The nearest character that is not transparent joins in one of these ways. -/
def meets (ways : List Joining) (cs : List Char) : Bool :=
  ((cs.dropWhile fun c => joining c == .transparent).head?).any fun c => ways.contains (joining c)

/-- A joiner may stand between these characters; those before it are given from the nearest
one on. -/
def mayStand (joiner : Char) (before after : List Char) : Bool :=
  before.head?.any cancelsVowel
    || (isSeparator joiner && !before.isEmpty && meets [.after, .both] before
      && meets [.before, .both] after)

/-- Every joiner of a label may stand where it does; `before` is what precedes the label's
rest, nearest character first. -/
def joinersFit (before : List Char) : List Char → Bool
  | [] => true
  | c :: rest => (!isJoiner c || mayStand c before rest) && joinersFit (c :: before) rest

end StorageArray.Http.Name
