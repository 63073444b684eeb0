import StorageArray.Decimal.Layout
/-!
# JSON values

A number is a whole number or a binary64 number; the two are never the same value, so `1`
and `1.0` differ.  The members of an object are kept in the byte order of their names with
each name once, which is the order in which they are read, shown and compared.
`Json.object` brings any list of members into this order.
-/

namespace StorageArray

/-- A number of a JSON text. -/
inductive JsonNumber where
  /-- A number without point and exponent, from `-2 ^ 63` to `2 ^ 64 - 1`. -/
  | whole (n : Int)
  /-- Any other number. -/
  | real (x : Binary64)
deriving DecidableEq

/-- A JSON value. -/
inductive Json where
  | null
  | bool (b : Bool)
  | number (n : JsonNumber)
  | string (s : String)
  | array (items : List Json)
  | object (members : List (String × Json))
deriving Inhabited

namespace Json

/-- A natural number. -/
def nat (n : Nat) : Json := .number (.whole n)

/-- A list of texts. -/
def strings (items : List String) : Json := .array (items.map .string)

/-- A text or null. -/
def optionString (s : Option String) : Json := s.elim .null .string

/-- The members with one added at its place; a member of the same name is replaced. -/
def insertMember (name : String) (value : Json) : List (String × Json) → List (String × Json)
  | [] => [(name, value)]
  | (n, v) :: rest =>
    if name < n then (name, value) :: (n, v) :: rest
    else if name = n then (name, value) :: rest
    else (n, v) :: insertMember name value rest

/-- Members in the byte order of their names; the last of several with one name stays. -/
def sortMembers (members : List (String × Json)) : List (String × Json) :=
  members.foldl (fun done (name, value) => insertMember name value done) []

/-- The object with the given members. -/
def ofMembers (members : List (String × Json)) : Json := .object (sortMembers members)

/-- The value of the member called `name`. -/
def find? (name : String) (members : List (String × Json)) : Option Json :=
  (members.find? fun member => member.1 == name).map (·.2)

/-- The value of a member of an object; nothing for other values. -/
def member? (value : Json) (name : String) : Option Json :=
  match value with
  | .object members => find? name members
  | _ => none

@[simp] theorem member?_object (members : List (String × Json)) (name : String) :
    (Json.object members).member? name = find? name members := rfl

@[simp] theorem find?_nil (name : String) : find? name [] = none := rfl

theorem find?_cons (name n : String) (v : Json) (rest : List (String × Json)) :
    find? name ((n, v) :: rest) = if n = name then some v else find? name rest := by
  by_cases h : n = name <;> simp [find?, h]

/-- Adding a member sets its name and leaves every other name alone. -/
theorem find?_insertMember (name n : String) (v : Json) (members : List (String × Json)) :
    find? name (insertMember n v members) = if n = name then some v else find? name members := by
  induction members with
  | nil => simp [insertMember, find?_cons]
  | cons m rest ih =>
    obtain ⟨n', v'⟩ := m
    simp only [insertMember]
    split
    · simp [find?_cons]
    · split
      · rename_i h
        subst h
        by_cases hn : n = name <;> simp [find?_cons, hn]
      · rename_i h
        by_cases hn : n' = name
        · subst hn
          simp [find?_cons, h]
        · simp [find?_cons, hn, ih]

end Json

end StorageArray
