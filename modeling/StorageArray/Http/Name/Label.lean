import StorageArray.Http.Name.Joining
import StorageArray.Http.Name.Mapping
import StorageArray.Http.Name.Punycode
/-!
# Labels of names

A label is what stands between two points of a name.  It is sent in ASCII, and a label that
starts with `xn--` already is the ASCII form of another one.
-/

namespace StorageArray.Http.Name

/-- A label of a name. -/
structure Label where
  /-- Its characters. -/
  characters : List Char
  /-- Its form in ASCII. -/
  ascii : List Char

/-- Characters of ASCII that no name contains. -/
def isForbidden (c : Char) : Bool :=
  c.toNat ≤ 0x20 || c.toNat == 0x7f || "#%/:<>?@[\\]^|".toList.contains c

/-- How long a label with characters outside ASCII can be. -/
def longestLabel : Nat := 1000

/-- How long the ASCII form of a label can be behind `xn--`. -/
def longestCode : Nat := 2000

/-- Characters in their own form make up a label. -/
def isLabel (cs : List Char) : Bool :=
  !cs.any isForbidden
    && (cs.all Punycode.isBasic
      || (!cs.head?.any isMark && joinersFit [] cs && cs.length ≤ longestLabel))

/-- The label whose form in ASCII is `xn--` and a text, if there is one.  It has to be as it
would be sent: in its own form, composed, and with something outside ASCII. -/
def Label.ofCode? (code : List Char) : Option Label :=
  if code.isEmpty || code.getLast? == some '-' || longestCode < code.length then none
  else do
    let cs ← Punycode.decode? code
    if cs.all isOwnForm && composed cs == cs && isLabel cs && !cs.contains '.' then
      some ⟨cs, "xn--".toList ++ code⟩
    else none

/-- The label of characters in their own form. -/
def Label.ofCharacters? (cs : List Char) : Option Label :=
  match cs with
  | 'x' :: 'n' :: '-' :: '-' :: code =>
    if code.all Punycode.isBasic then Label.ofCode? code else none
  | _ =>
    if isLabel cs then
      some ⟨cs, if cs.all Punycode.isBasic then cs else "xn--".toList ++ Punycode.encode cs⟩
    else none

end StorageArray.Http.Name
