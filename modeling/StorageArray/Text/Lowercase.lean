import StorageArray.Text.Lowercase.Table
/-!
# Full lower-casing

Every character is replaced by its lower-case form.  Two characters need more than the
table: İ becomes an i with a combining dot, and a capital sigma is written ς at the end of
a word and σ elsewhere.  A word ends at a sigma when a letter stands before it and none
after it, characters without influence on words left out of account.
-/

namespace StorageArray.Text

/-- Membership in a list of closed intervals. -/
def inRanges (ranges : List (Nat × Nat)) (c : Char) : Bool :=
  ranges.any fun (first, last) => first ≤ c.toNat && c.toNat ≤ last

/-- The character does not interrupt a word. -/
def isCaseIgnorable (c : Char) : Bool := inRanges caseIgnorableRanges c

/-- The first character of the list that matters to words is a letter with a case. -/
def startsWithCased (cs : List Char) : Bool :=
  match cs.dropWhile isCaseIgnorable with
  | [] => false
  | c :: _ => inRanges casedRanges c

/-- The lower-case form of one character, read without its surroundings. -/
def lowerChar (c : Char) : List Char :=
  if c.toNat < 0x80 then [if 'A' ≤ c ∧ c ≤ 'Z' then Char.ofNat (c.toNat + 32) else c]
  else if c = 'İ' then ['i', Char.ofNat 0x307]
  else match lowercaseRuns.find? fun (first, last, step, _) =>
      first ≤ c.toNat && c.toNat ≤ last && (c.toNat - first) % step == 0 with
    | some (_, _, _, shift) => [Char.ofNat (c.toNat + shift).toNat]
    | none => [c]

/-- Lower-case form of a list; `before` is what precedes it, nearest character first. -/
def lowerFrom (before : List Char) : List Char → List Char
  | [] => []
  | c :: r =>
    let low :=
      if c = 'Σ' then [if startsWithCased before && !startsWithCased r then 'ς' else 'σ']
      else lowerChar c
    low ++ lowerFrom (c :: before) r

/-- Lower-case form of a list of characters. -/
def lowerList (cs : List Char) : List Char := lowerFrom [] cs

/-- Lower-case form of a text. -/
def lowercase (s : String) : String := String.ofList (lowerList s.toList)

@[simp] theorem toList_lowercase (s : String) :
    (lowercase s).toList = lowerList s.toList := by
  simp [lowercase]

/-- Upper-case ASCII letters in lower case, every other character unchanged. -/
def lowerAscii (c : Char) : Char :=
  if 'A' ≤ c ∧ c ≤ 'Z' then Char.ofNat (c.toNat + 32) else c

/-- Equality of texts up to the case of ASCII letters. -/
def eqIgnoringAsciiCase (s t : String) : Bool :=
  s.toList.map lowerAscii == t.toList.map lowerAscii

end StorageArray.Text
