import StorageArray.Error
import StorageArray.Text.Blank
import StorageArray.Text.Lowercase
import StorageArray.Text.Search
/-!
# Benign failures

Some failures only say that the array is already where the request would have taken it.
They are known by their texts: a failure is benign when its text contains one of a list of
patterns, letter case left out of account.
-/

namespace StorageArray

/-- The patterns that make a failure benign. -/
structure BenignFailures where
  /-- The patterns, in the order in which they were given. -/
  patterns : List String
  /-- The empty pattern is not among them; it would be found in every text. -/
  nonempty : ∀ pattern ∈ patterns, pattern ≠ ""
deriving DecidableEq

namespace BenignFailures

/-- The patterns given by a list of texts, trimmed and in lower case; blank texts are left out. -/
def ofList (texts : List String) : BenignFailures where
  patterns :=
    (texts.map fun text => Text.lowercase (Text.trim text)).filter fun p => !p.toList.isEmpty
  nonempty := by
    rintro pattern hmem rfl
    simp at hmem

/-- The texts that arrays give when nothing is left to do. -/
def builtinTexts : List String :=
  ["already in the requested state", "already in the desired state", "is already suspended",
    "is already in the"]

/-- The patterns used unless the configuration gives others. -/
def builtin : BenignFailures := ofList builtinTexts

/-- A pattern occurs in the text. -/
def isMatch (b : BenignFailures) (text : String) : Bool :=
  b.patterns.any fun pattern => Text.contains (Text.lowercase text) pattern

/-- The error is the array's refusal of a request or the failure of a job, and its text is
benign. -/
def matchesError (b : BenignFailures) : ArrayError → Bool
  | .jobFailed _ detail => b.isMatch detail
  | .rejected _ detail => b.isMatch detail
  | _ => false

end BenignFailures

end StorageArray
