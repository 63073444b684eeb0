import StorageArray.Json.Basic
/-!
# Writing JSON

`compact` writes a value without any white space, `pretty` with one item a line and two
spaces for each level.  Members are written in the order in which the value holds them.
-/

namespace StorageArray.Json

/-- One character inside a string: quotes, backslashes and controls are escaped. -/
def escapeChar (c : Char) : List Char :=
  match c with
  | '"' => ['\\', '"']
  | '\\' => ['\\', '\\']
  | '\n' => ['\\', 'n']
  | '\r' => ['\\', 'r']
  | '\t' => ['\\', 't']
  | '\x08' => ['\\', 'b']
  | '\x0c' => ['\\', 'f']
  | c =>
    if c.toNat < 0x20 then
      ['\\', 'u', '0', '0'] ++ (if c.toNat < 0x10 then ['0'] else []) ++ Nat.toDigits 16 c.toNat
    else [c]

/-- A string in its quotes. -/
def stringText (s : String) : String :=
  String.ofList ('"' :: s.toList.flatMap escapeChar ++ ['"'])

/-- A whole number in decimal digits, any other in the layout for JSON. -/
def numberText : JsonNumber → String
  | .whole n => toString n
  | .real x => x.textIn .json

/-- The literals. -/
def boolText (b : Bool) : String := if b then "true" else "false"

mutual

/-- A value without white space. -/
def compact : Json → String
  | .null => "null"
  | .bool b => boolText b
  | .number n => numberText n
  | .string s => stringText s
  | .array items => "[" ++ compactItems items ++ "]"
  | .object members => "\x7b" ++ compactMembers members ++ "\x7d"

/-- Items with commas between them. -/
def compactItems : List Json → String
  | [] => ""
  | [v] => compact v
  | v :: rest => compact v ++ "," ++ compactItems rest

/-- Members with commas between them. -/
def compactMembers : List (String × Json) → String
  | [] => ""
  | [(n, v)] => stringText n ++ ":" ++ compact v
  | (n, v) :: rest => stringText n ++ ":" ++ compact v ++ "," ++ compactMembers rest

end

/-- The start of a line at a level. -/
def newline (level : Nat) : String := String.ofList ('\n' :: List.replicate (2 * level) ' ')

mutual

/-- A value with one item a line, its first line at the given level. -/
def prettyAt (level : Nat) : Json → String
  | .null => "null"
  | .bool b => boolText b
  | .number n => numberText n
  | .string s => stringText s
  | .array [] => "[]"
  | .array items => "[" ++ prettyItems (level + 1) items ++ newline level ++ "]"
  | .object [] => "\x7b\x7d"
  | .object members => "\x7b" ++ prettyMembers (level + 1) members ++ newline level ++ "\x7d"

/-- Items, each on a line of its own. -/
def prettyItems (level : Nat) : List Json → String
  | [] => ""
  | [v] => newline level ++ prettyAt level v
  | v :: rest => newline level ++ prettyAt level v ++ "," ++ prettyItems level rest

/-- Members, each on a line of its own. -/
def prettyMembers (level : Nat) : List (String × Json) → String
  | [] => ""
  | [(n, v)] => newline level ++ stringText n ++ ": " ++ prettyAt level v
  | (n, v) :: rest =>
    newline level ++ stringText n ++ ": " ++ prettyAt level v ++ "," ++ prettyMembers level rest

end

/-- A value with one item a line. -/
def pretty (value : Json) : String := prettyAt 0 value

end StorageArray.Json
