import StorageArray.Json.Writer
import StorageArray.Text.Quoted
import StorageArray.Wire.Shape
/-!
# Decoding records

A record is decoded from an object: the members are checked in the order in which the
object holds them, the first bad value is the error, and after that the first declared
member that has to be there and is not.  Members that are not declared are ignored.  A
record is also decoded from an array, which holds the members in the order of their
declaration and may leave out the last ones.
-/

namespace StorageArray

/-- Why a body does not have the expected shape. -/
inductive DecodeError where
  /-- A value of another kind than the wanted one. -/
  | wrongKind (found : Json) (wanted : String)
  /-- A whole number outside the range of the wanted type. -/
  | outOfRange (n : Int) (wanted : String)
  /-- A member that has to be there and is not. -/
  | missing (name : String)
  /-- An array that ends before the member at this position. -/
  | tooShort (position : Nat) (record : String) (size : Nat)
  /-- An array with more items than the record has members. -/
  | tooLong (length : Nat)
  /-- An object in place of a name that has not exactly one member. -/
  | notOneMember

namespace DecodeError

/-- A value as it is named in a message. -/
def describe : Json → String
  | .null => "null"
  | .bool b => "boolean `" ++ Json.boolText b ++ "`"
  | .number (.whole n) => "integer `" ++ toString n ++ "`"
  | .number (.real x) => "floating point `" ++ x.textIn .json ++ "`"
  | .string s => "string " ++ Text.quoted s
  | .array _ => "sequence"
  | .object _ => "map"

/-- The error as a text. -/
def message : DecodeError → String
  | .wrongKind found wanted => "invalid type: " ++ describe found ++ ", expected " ++ wanted
  | .outOfRange n wanted => "invalid value: integer `" ++ toString n ++ "`, expected " ++ wanted
  | .missing name => "missing field `" ++ name ++ "`"
  | .tooShort position record size =>
    "invalid length " ++ toString position ++ ", expected struct " ++ record ++ " with "
      ++ toString size ++ (if size = 1 then " element" else " elements")
  | .tooLong length =>
    "invalid length " ++ toString length ++ ", expected fewer elements in array"
  | .notOneMember => "invalid value: map, expected map with a single key"

end DecodeError

/-- A whole number below a bound. -/
def decodeWord (bound : Nat) (wanted : String) : Json → Except DecodeError Nat
  | .number (.whole n) =>
    if 0 ≤ n ∧ n < bound then .ok n.toNat else .error (.outOfRange n wanted)
  | found => .error (.wrongKind found wanted)

/-- A name: a string, or an object whose only member has the name and is null. -/
def decodeName : Json → Except DecodeError String
  | .string s => .ok s
  | .object [(name, value)] =>
    match value with
    | .null => .ok name
    | _ => .error (.wrongKind value "unit")
  | .object _ => .error .notOneMember
  | found => .error (.wrongKind found "string or map")

mutual

/-- The value that a JSON value stands for. -/
def Shape.decode {α : Type} : Shape α → Json → Except DecodeError α
  | .text, v => match v with
    | .string s => .ok s
    | _ => .error (.wrongKind v "a string")
  | .identifier _, v => match v with
    | .string s => .ok ⟨s⟩
    | _ => .error (.wrongKind v "a string")
  | .flag, v => match v with
    | .bool b => .ok b
    | _ => .error (.wrongKind v "a boolean")
  | .real, v => match v with
    | .number (.real x) => .ok x
    | .number (.whole n) => .ok (.ofInt n)
    | _ => .error (.wrongKind v "f64")
  | .word32, v => (decodeWord 4294967296 "u32" v).map UInt32.ofNat
  | .word64, v => (decodeWord 18446744073709551616 "u64" v).map UInt64.ofNat
  | .choice ofName _ _, v => (decodeName v).map ofName
  | .optional shape, v => match v with
    | .null => .ok none
    | _ => (shape.decode v).map some
  | .list shape, v => match v with
    | .array items => items.mapM shape.decode
    | _ => .error (.wrongKind v "a sequence")
  | .record name fields make _ _, v => match v with
    | .object members => do
      members.forM fun (n, value) => fields.check n value
      pure (make (← fields.decodeMembers members))
    | .array items => do
      pure (make (← fields.decodeItems name fields.size 0 items.length items))
    | _ => .error (.wrongKind v ("struct " ++ name))

/-- The error of a member with this name and value, if it has one. -/
def Fields.check {ρ : Type} : Fields ρ → String → Json → Except DecodeError Unit
  | .nil, _, _ => .ok ()
  | .cons name _ shape rest, n, v =>
    if name = n then (shape.decode v).map fun _ => () else rest.check n v

/-- The values of the declared members among the members of an object. -/
def Fields.decodeMembers {ρ : Type} :
    Fields ρ → List (String × Json) → Except DecodeError ρ
  | .nil, _ => .ok ()
  | .cons name presence shape rest, members => do
    let a ← match Json.find? name members, presence with
      | some v, _ => shape.decode v
      | none, .defaulted => pure shape.blank
      | none, .required => .error (.missing name)
    pure (a, ← rest.decodeMembers members)

/-- The values of the declared members in the items of an array; `record` and `size` name
the whole record, `position` counts the members before these, `length` is that of the
whole array. -/
def Fields.decodeItems {ρ : Type} (record : String) (size position length : Nat) :
    Fields ρ → List Json → Except DecodeError ρ
  | .nil, [] => .ok ()
  | .nil, _ :: _ => .error (.tooLong length)
  | .cons _ presence shape rest, [] => do
    let a ← match presence with
      | .defaulted => pure shape.blank
      | .required => .error (.tooShort position record size)
    pure (a, ← rest.decodeItems record size (position + 1) length [])
  | .cons _ _ shape rest, v :: items => do
    let a ← shape.decode v
    pure (a, ← rest.decodeItems record size (position + 1) length items)

end

end StorageArray
