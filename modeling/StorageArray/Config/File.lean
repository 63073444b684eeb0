import StorageArray.Config.Basic
import StorageArray.Config.Variable
import StorageArray.Text.Search
/-!
# Configuration files

A configuration file has one value a line: a key, an equals sign, and a text in quotes, a
number or a truth value; a number sign starts a comment.  Between double quotes a backslash
starts an escape, between single quotes it does not.  Lines after the first table header
belong to tables, in which no value of a configuration stands.
-/

namespace StorageArray.Config.File

/-- Characters that separate the pieces of a line. -/
def isSpace (c : Char) : Bool := c == ' ' || c == '\t' || c == '\r'

/-- Characters of a key without quotes. -/
def isKeyChar (c : Char) : Bool := c.isAlphanum || c == '_' || c == '-'

/-- A whole number of a file has 64 bits with a sign. -/
def isSigned (n : Int) : Bool := -9223372036854775808 ≤ n && n < 9223372036854775808

/-- A text in quotes, and what follows it. -/
def quoted? : List Char → Option (String × List Char)
  | '"' :: rest => do
    let (raw, after) ← untilQuote rest
    pure (String.ofList (← unescape raw), after)
  | '\'' :: rest => do
    let (text, after) ← Text.splitFirst '\'' rest
    if text.all isPlain then some (String.ofList text, after) else none
  | _ => none

/-- The value of a word without quotes. -/
def wordValue? (word : List Char) : Option Json :=
  let digits := word.filter (· != '_')
  if word = ['t', 'r', 'u', 'e'] then some (.bool true)
  else if word = ['f', 'a', 'l', 's', 'e'] then some (.bool false)
  else if isInteger digits then
    if isSigned (integerOf digits) then some (.number (.whole (integerOf digits))) else none
  else if isFraction digits then some fraction
  else none

/-- A value, and what follows it. -/
def value? (cs : List Char) : Option (Json × List Char) :=
  match quoted? cs with
  | some (text, after) => some (.string text, after)
  | none =>
    let isWordChar (c : Char) : Bool := !isSpace c && c != '#'
    (wordValue? (cs.takeWhile isWordChar)).map fun v => (v, cs.dropWhile isWordChar)

/-- A key, and what follows it. -/
def key? (cs : List Char) : Option (String × List Char) :=
  match quoted? cs with
  | some found => some found
  | none =>
    let key := cs.takeWhile isKeyChar
    if key.isEmpty then none else some (String.ofList key, cs.dropWhile isKeyChar)

/-- Nothing is left of a line but a comment. -/
def isRemark (cs : List Char) : Bool :=
  match cs.dropWhile isSpace with
  | [] => true
  | c :: _ => c == '#'

/-- The key and the value of a line. -/
def entry? (line : List Char) : Option (String × Json) := do
  let (key, rest) ← key? (line.dropWhile isSpace)
  let rest ← match rest.dropWhile isSpace with
    | '=' :: rest => some rest
    | _ => none
  let (value, rest) ← value? (rest.dropWhile isSpace)
  if isRemark rest then some (key, value) else none

/-- The entries of lines of which the first has this number. -/
def entries (number : Nat) : List (List Char) → Except ConfigError (List (String × Json))
  | [] => .ok []
  | line :: rest =>
    if isRemark line then entries (number + 1) rest
    else if (line.dropWhile isSpace).head? = some '[' then .ok []
    else match entry? line with
      | none => .error (.unreadable ("line " ++ toString number ++ " is no entry"))
      | some (key, value) => do
        let others ← entries (number + 1) rest
        if (Json.find? key others).isSome then
          .error (.unreadable ("key " ++ key ++ " is given twice"))
        else pure ((key, value) :: others)

/-- The values of a file with this text. -/
def read (text : String) : Except ConfigError (List (String × Json)) :=
  entries 1 (Text.split '\n' text.toList)

end StorageArray.Config.File
