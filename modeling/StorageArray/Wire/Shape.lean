import StorageArray.Identifier
import StorageArray.Json.Basic
/-!
# Shapes of records on the wire

A `Shape α` describes how values of `α` are written as JSON: which members a record has,
in which order they are declared, and which of them may be missing.  Encoding is defined
here, decoding in `StorageArray.Wire.Decode`; both follow the shape.
-/

namespace StorageArray

/-- Whether a member has to be there. -/
inductive Presence where
  /-- The member has to be there. -/
  | required
  /-- A member that is not there has the blank value of its shape. -/
  | defaulted
deriving DecidableEq, Repr

mutual

/-- The ways in which values of a type are written. -/
inductive Shape : Type → Type 1 where
  /-- A string. -/
  | text : Shape String
  /-- An identifier, written as its text. -/
  | identifier (kind : IdentifierKind) : Shape (Identifier kind)
  /-- A boolean. -/
  | flag : Shape Bool
  /-- Any number, read as a binary64 number. -/
  | real : Shape Binary64
  /-- A whole number of 32 bits. -/
  | word32 : Shape UInt32
  /-- A whole number of 64 bits. -/
  | word64 : Shape UInt64
  /-- A name out of a fixed set, with a value for names outside it. -/
  | choice {α : Type} (ofName : String → α) (name : α → String)
      (ofName_name : ∀ a, ofName (name a) = a) : Shape α
  /-- A value or null. -/
  | optional {α : Type} (shape : Shape α) : Shape (Option α)
  /-- An array of values. -/
  | list {α : Type} (shape : Shape α) : Shape (List α)
  /-- An object with declared members, made from their values. -/
  | record {ρ α : Type} (name : String) (fields : Fields ρ) (make : ρ → α) (parts : α → ρ)
      (make_parts : ∀ a, make (parts a) = a) : Shape α

/-- The declared members of a record, in order; their values form nested pairs. -/
inductive Fields : Type → Type 1 where
  /-- No further member. -/
  | nil : Fields Unit
  /-- A member, then the others. -/
  | cons {α ρ : Type} (name : String) (presence : Presence) (shape : Shape α)
      (rest : Fields ρ) : Fields (α × ρ)

end

mutual

/-- The value of a member that is not there. -/
def Shape.blank {α : Type} : Shape α → α
  | .text => ""
  | .identifier _ => ⟨""⟩
  | .flag => false
  | .real => .zero
  | .word32 => 0
  | .word64 => 0
  | .choice ofName _ _ => ofName ""
  | .optional _ => none
  | .list _ => []
  | .record _ fields make _ _ => make fields.blank

/-- Blank values for all members. -/
def Fields.blank {ρ : Type} : Fields ρ → ρ
  | .nil => ()
  | .cons _ _ shape rest => (shape.blank, rest.blank)

end

/-- How many members are declared. -/
def Fields.size {ρ : Type} : Fields ρ → Nat
  | .nil => 0
  | .cons _ _ _ rest => rest.size + 1

/-- The declared names, in order. -/
def Fields.names {ρ : Type} : Fields ρ → List String
  | .nil => []
  | .cons name _ _ rest => name :: rest.names

/-- The members that a record of this shape declares. -/
def Shape.names {α : Type} : Shape α → List String
  | .record _ fields _ _ _ => fields.names
  | _ => []

mutual

/-- A value as JSON; the members of a record come in the order of their declaration. -/
def Shape.encode {α : Type} : Shape α → α → Json
  | .text, s => .string s
  | .identifier _, i => .string i.text
  | .flag, b => .bool b
  | .real, x => .number (.real x)
  | .word32, n => .nat n.toNat
  | .word64, n => .nat n.toNat
  | .choice _ name _, a => .string (name a)
  | .optional shape, a => match a with
    | none => .null
    | some a => shape.encode a
  | .list shape, items => .array (items.map shape.encode)
  | .record _ fields _ parts _, a => .object (fields.encode (parts a))

/-- The values of the members with their names. -/
def Fields.encode {ρ : Type} : Fields ρ → ρ → List (String × Json)
  | .nil, _ => []
  | .cons name _ shape rest, (a, r) => (name, shape.encode a) :: rest.encode r

end

end StorageArray
