import StorageArray.Http.Name.Mapping.Table
import StorageArray.Text.Lowercase
import StorageArray.Text.Numeral
import StorageArray.Text.Search
/-!
# Forms of characters in names

A name does not tell capitals from small letters, nor the ways apart in which one letter
can be written: each character has one form, which can be another character, several, or
none at all.  Some characters cannot stand in a name.  `form?` gives the form of a character
and `forms?` that of a text.
-/

namespace StorageArray.Http.Name

/-- Consecutive characters with their replacements. -/
structure Stretch where
  /-- The first of the characters. -/
  first : Nat
  /-- The replacement of each of them, if it is replaced. -/
  forms : List (Option (List Char))

namespace Stretch

/-- The replacement that a word of the table stands for. -/
def formOf (word : List Char) : Option (List Char) :=
  if word = ['-'] then none
  else (Text.split '.' word).mapM fun digits => (Text.numberIn 16 digits).map Char.ofNat

/-- The stretch in a piece of the table. -/
def ofText (piece : List Char) : Option Stretch := do
  let (first, words) ← Text.splitFirst ':' (piece.dropWhile (· == ' '))
  let words := (Text.split ' ' words).filter fun word => !word.isEmpty
  pure ⟨← Text.numberIn 16 first, words.map formOf⟩

/-- The replacement of a character in a stretch. -/
def form? (s : Stretch) (c : Char) : Option (List Char) :=
  if s.first ≤ c.toNat then s.forms[c.toNat - s.first]?.join else none

end Stretch

/-- The stretches of the table. -/
def stretches : List Stretch :=
  replacedText.flatMap fun line => (Text.split ';' line.toList).filterMap Stretch.ofText

/-- The character that takes the place of one that is moved. -/
def moved? (c : Char) : Option Char :=
  (movedRuns.find? fun (first, last, step, _) =>
    first ≤ c.toNat && c.toNat ≤ last && (c.toNat - first) % step == 0).map
      fun (_, _, _, shift) => Char.ofNat (c.toNat + shift).toNat

/-- The form of a character in a name, if it can stand there. -/
def form? (c : Char) : Option (List Char) :=
  if c.toNat < 0x80 then some [Text.lowerAscii c]
  else if Text.inRanges refusedRanges c then none
  else if Text.inRanges droppedRanges c then some []
  else match moved? c with
    | some d => some [d]
    | none => some ((stretches.findSome? (·.form? c)).getD [c])

/-- The character is its own form. -/
def isOwnForm (c : Char) : Bool := form? c == some [c]

/-- The form of a text in a name, if all of its characters can stand there. -/
def forms? (cs : List Char) : Option (List Char) := (cs.mapM form?).map List.flatten

end StorageArray.Http.Name
