import StorageArray.Text.Blank
/-!
# Identifiers

Arrays, volumes and jobs are named by identifiers.  `ofString` makes one from what a caller
gives, without the white space around it; an identifier that an array reports is kept as
it was reported.
-/

namespace StorageArray

/-- What an identifier names. -/
inductive IdentifierKind where
  | array
  | volume
  | job
deriving DecidableEq, Repr

/-- An identifier of one kind. -/
structure Identifier (kind : IdentifierKind) where
  /-- The identifier as a text. -/
  text : String
deriving DecidableEq

/-- The serial number of an array. -/
abbrev ArrayId := Identifier .array

/-- The device identifier that an array gives to a volume. -/
abbrev VolumeId := Identifier .volume

/-- The identifier of an asynchronous job. -/
abbrev JobId := Identifier .job

namespace Identifier

variable {kind : IdentifierKind}

/-- The identifier written in a text, white space at both ends left out. -/
def ofString (s : String) : Identifier kind := ⟨Text.trim s⟩

@[simp] theorem text_ofString (s : String) :
    (ofString s : Identifier kind).text = Text.trim s := rfl

/-- Making an identifier from the text of another one changes nothing. -/
@[simp] theorem ofString_text_ofString (s : String) :
    (ofString (ofString s : Identifier kind).text : Identifier kind) = ofString s := by
  simp [ofString]

/-- The name of the kind, as it appears in the inspection text of a client. -/
def kindName : IdentifierKind → String
  | .array => "ArrayId"
  | .volume => "VolumeId"
  | .job => "JobId"

end Identifier

end StorageArray
