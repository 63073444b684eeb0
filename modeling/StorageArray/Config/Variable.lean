import StorageArray.Config.Escaped
import StorageArray.Json.Reader
import StorageArray.Text.Blank
import StorageArray.Text.Lowercase
import StorageArray.Text.Search
/-!
# Variables of the environment

The value of a variable is text, and is read as the kind of value that it looks like: a
truth value, a whole number, a number with a point, a character or a text in quotes, a list
or a table.  What looks like none of them is the text itself.  `Variable.read` never fails.

The name of a variable is the path to its value: two low lines in a row, or a point, lead
into a table.
-/

namespace StorageArray.Config

/-- Digits, perhaps after a sign. -/
def isInteger (cs : List Char) : Bool :=
  let digits := match cs with
    | '-' :: rest | '+' :: rest => rest
    | _ => cs
  !digits.isEmpty && digits.all Char.isDigit

/-- A number with a point or an exponent, or one of the names of infinity and of no
number. -/
def isFraction (cs : List Char) : Bool :=
  let unsigned := match cs with
    | '-' :: rest | '+' :: rest => rest
    | _ => cs
  let named := ["inf", "infinity", "nan"].contains (String.ofList (unsigned.map Text.lowerAscii))
  let rest := unsigned.dropWhile Char.isDigit
  let (decimals, rest) := match rest with
    | '.' :: after => (after.takeWhile Char.isDigit, after.dropWhile Char.isDigit)
    | _ => ([], rest)
  let hasDigits := (unsigned.head?.any Char.isDigit) || !decimals.isEmpty
  let hasEnd := match rest with
    | [] => true
    | c :: exponent => (c == 'e' || c == 'E') && isInteger exponent
  named || (hasDigits && hasEnd)

/-- The integer that digits after an optional sign denote. -/
def integerOf (cs : List Char) : Int :=
  let magnitude (digits : List Char) : Int := ((Text.numberIn 10 digits).getD 0 : Nat)
  match cs with
  | '-' :: rest => -magnitude rest
  | '+' :: rest => magnitude rest
  | _ => magnitude cs

/-- A number with a fraction.  No value of a configuration is one, so it is enough to know
that it is not whole. -/
def fraction : Json := .number (.real .zero)

namespace Variable

/-- White space between the parts of a value. -/
def isSpace (c : Char) : Bool :=
  c == ' ' || c == '\t' || c == '\n' || c == '\x0c' || c == '\r'

/-- A character that a bare value cannot hold. -/
def isSeparator (c : Char) : Bool :=
  c == ',' || c == '\x7b' || c == '\x7d' || c == '[' || c == ']'

/-- Characters of a key without quotes. -/
def isKeyChar (c : Char) : Bool := c.isAlphanum || c == '_' || c == '-'

/-- The integer fits into 64 bits, with a sign or without. -/
def isWord (n : Int) : Bool := -9223372036854775808 ≤ n && n < 18446744073709551616

/-- A value without quotes or brackets.  A fraction needs a point. -/
def ofBare (text : List Char) : Json :=
  if text.contains '.' && isFraction text then fraction
  else if isInteger text && isWord (integerOf text) then .number (.whole (integerOf text))
  else .string (String.ofList text)

/-- The characters that fill this many bytes at the start of a text. -/
def takeBytes : Nat → List Char → Option (List Char)
  | 0, _ => some []
  | _, [] => none
  | n, c :: rest =>
    if c.utf8Size ≤ n then (takeBytes (n - c.utf8Size) rest).map (c :: ·) else none

/-- The text that characters between quotes stand for.  Where there is an escape, the part
before the first one keeps as many bytes as it has characters. -/
def resolve (raw : List Char) : Option (List Char) := do
  let front ← unescape (raw.takeWhile (· != '\\'))
  let back ← unescape (raw.dropWhile (· != '\\'))
  if back.isEmpty then pure front
  else pure ((← takeBytes front.length front) ++ back)

/-- A text in quotes, and what follows it. -/
def quoted? : List Char → Option (String × List Char)
  | '"' :: rest => do
    let (raw, after) ← untilQuote rest
    pure (String.ofList (← resolve raw), after)
  | _ => none

/-- A key, and what follows it. -/
def key? (cs : List Char) : Option (String × List Char) :=
  match cs with
  | '"' :: _ => quoted? cs
  | _ =>
    let key := cs.takeWhile isKeyChar
    if key.isEmpty then none else some (String.ofList key, cs.dropWhile isKeyChar)

mutual

/-- A value, and what follows it and its white space. -/
def value? : (fuel : Nat) → List Char → Option (Json × List Char)
  | 0, _ => none
  | fuel + 1, cs => do
    let (value, rest) ← match cs.dropWhile isSpace with
      | 't' :: 'r' :: 'u' :: 'e' :: rest => some (.bool true, rest)
      | 'f' :: 'a' :: 'l' :: 's' :: 'e' :: rest => some (.bool false, rest)
      | '[' :: rest => (items? fuel rest).map fun (items, rest) => (.array items, rest)
      | '\x7b' :: rest => (entries? fuel rest).map fun (entries, rest) => (.object entries, rest)
      | '"' :: rest => (quoted? ('"' :: rest)).map fun (text, rest) => (.string text, rest)
      | '\'' :: c :: '\'' :: rest => some (.string (String.ofList [c]), rest)
      | '\'' :: _ => none
      | rest =>
        some (ofBare (Text.trimList (rest.takeWhile (!isSeparator ·))),
          rest.dropWhile (!isSeparator ·))
    pure (value, rest.dropWhile isSpace)

/-- The rest of a list, and what follows its bracket.  A comma may stand behind the last
value. -/
def items? : (fuel : Nat) → List Char → Option (List Json × List Char)
  | 0, _ => none
  | fuel + 1, cs =>
    match cs with
    | ']' :: rest => some ([], rest)
    | _ => do
      let (value, rest) ← value? fuel cs
      match rest with
      | ',' :: rest => (items? fuel rest).map fun (items, rest) => (value :: items, rest)
      | ']' :: rest => some ([value], rest)
      | _ => none

/-- The rest of a table, and what follows its brace.  A comma may stand behind the last
entry. -/
def entries? : (fuel : Nat) → List Char → Option (List (String × Json) × List Char)
  | 0, _ => none
  | fuel + 1, cs =>
    match cs with
    | '\x7d' :: rest => some ([], rest)
    | _ => do
      let (key, rest) ← key? (cs.dropWhile isSpace)
      match rest.dropWhile isSpace with
      | '=' :: rest =>
        let (value, rest) ← value? fuel rest
        match rest with
        | ',' :: rest =>
          (entries? fuel rest).map fun (entries, rest) => ((key, value) :: entries, rest)
        | '\x7d' :: rest => some ([(key, value)], rest)
        | _ => none
      | _ => none

end

/-- The value that a whole text denotes, if it denotes one. -/
def whole? (text : List Char) : Option Json :=
  match value? (2 * text.length + 2) text with
  | some (value, []) => some value
  | _ => none

/-- The text is a list without its brackets: there are commas, and it does not start like
a value that could hold them. -/
def isBareList (text : List Char) : Bool :=
  text.contains ',' && !text.head?.any fun c => c == '[' || c == '\x7b' || c == '"' || c == '\''

/-- The value of a variable. -/
def read (raw : String) : Json :=
  let text := Text.trimList raw.toList
  if isBareList text then
    .array ((Text.split ',' text).map fun piece => .string (String.ofList (Text.trimList piece)))
  else (whole? text).getD (.string (String.ofList text))

/-- A name with points for pairs of low lines. -/
def pointed : List Char → List Char
  | '_' :: '_' :: rest => '.' :: pointed rest
  | c :: rest => c :: pointed rest
  | [] => []

/-- The path in the name of a variable, in lower case; none if a part of it is empty. -/
def path? (name : String) : Option (List String) :=
  let text := Text.trimList (pointed (Text.trimList name.toList))
  let parts := (Text.split '.' text).map fun part => String.ofList (part.map Text.lowerAscii)
  if parts.contains "" then none else some parts

/-- The value at the end of a path, inside the tables that the path leads through. -/
def nested (value : Json) : List String → Json
  | [] => value
  | key :: rest => .object [(key, nested value rest)]

/-- The value that a variable contributes, with its key. -/
def entry? (name raw : String) : Option (String × Json) :=
  match path? name with
  | some (key :: rest) => some (key, nested (read raw) rest)
  | _ => none

end Variable

end StorageArray.Config
