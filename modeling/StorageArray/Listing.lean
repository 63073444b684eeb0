import StorageArray.Error
import StorageArray.Json.Writer
/-!
# Listings

A collection is listed in one of two shapes: an object with the identifiers under a key,
or an envelope `resultList.result` of entries with one identifier each.  `listed` reads
both.  `firstOccurrences` drops repetitions and keeps the order.
-/

namespace StorageArray.Listing

/-- An identifier in a listing: a string, or a number in its own notation. -/
def idOf (context : String) : Json → Except ArrayError String
  | .string s => .ok s
  | .number n => .ok (Json.numberText n)
  | other =>
    .error (.unexpectedResponse context ("expected an identifier, found " ++ other.compact))

/-- The entries of the envelope, if the body has one. -/
def envelope? (body : Json) : Option (List Json) :=
  match (body.member? "resultList").bind (·.member? "result") with
  | some (.array entries) => some entries
  | _ => none

/-- The identifiers that a body lists under a key, in order.  A body without the key lists
none, and so does null. -/
def listed (key : String) (body : Json) : Except ArrayError (List String) :=
  let context := key ++ " listing"
  match body with
  | .null => .ok []
  | .object _ => match envelope? body with
    | some entries => (entries.filterMap (·.member? key)).mapM (idOf context)
    | none => match body.member? key with
      | none => .ok []
      | some .null => .ok []
      | some (.array items) => items.mapM (idOf context)
      | some other => (idOf context other).map ([·])
  | _ => .error (.unexpectedResponse context "listing body is not an object")

variable {α : Type} [DecidableEq α]

/-- The items that are not in `seen`, each at its first occurrence. -/
def firstOccurrencesAfter (seen : List α) : List α → List α
  | [] => []
  | a :: rest =>
    if a ∈ seen then firstOccurrencesAfter seen rest
    else a :: firstOccurrencesAfter (a :: seen) rest

/-- Each item once, at its first occurrence. -/
def firstOccurrences (items : List α) : List α := firstOccurrencesAfter [] items

end StorageArray.Listing
