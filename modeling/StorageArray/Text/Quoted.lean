import StorageArray.Text.Lowercase
import StorageArray.Text.Quoted.Table
/-!
# Quoted texts

How a text is shown inside a message: between double quotes, with a backslash before a
quote or a backslash, the usual letters for the line controls, and a number in braces for
every other character that cannot be seen as itself.
-/

namespace StorageArray.Text

/-- Digits of a number in lower-case hexadecimal. -/
def hexDigits (n : Nat) : List Char := Nat.toDigits 16 n

/-- One character of a quoted text. -/
def quoteChar (c : Char) : List Char :=
  match c with
  | '"' => ['\\', '"']
  | '\\' => ['\\', '\\']
  | '\n' => ['\\', 'n']
  | '\r' => ['\\', 'r']
  | '\t' => ['\\', 't']
  | '\x00' => ['\\', '0']
  | c =>
    if inRanges unprintableRanges c then ['\\', 'u', '\x7b'] ++ hexDigits c.toNat ++ ['\x7d']
    else [c]

/-- A text between double quotes, every character written so that it can be seen. -/
def quoted (s : String) : String :=
  String.ofList ('"' :: s.toList.flatMap quoteChar ++ ['"'])

end StorageArray.Text
