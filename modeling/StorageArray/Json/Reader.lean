import StorageArray.Json.Basic
import StorageArray.Text.Numeral
import StorageArray.Text.Utf8
/-!
# Reading JSON

A text is cut into tokens, and the tokens are read one after the other by a machine whose
stack holds the arrays and objects that are still open.  The reader is strict: nothing but
white space follows the value, a surrogate written as an escape needs its partner, values
nest at most `maxDepth` deep, and of several members with one name the last one counts.
-/

namespace StorageArray.Json

/-- Why a text is not JSON. -/
inductive ReadError where
  /-- The text ends inside a value. -/
  | incomplete
  /-- This character or word does not belong where it stands. -/
  | unexpected (piece : String)
  /-- A string contains a control character. -/
  | controlCharacter
  /-- A string contains an escape that does not exist. -/
  | badEscape
  /-- An escaped surrogate stands alone. -/
  | loneSurrogate
  /-- A number is too large for the format. -/
  | numberTooLarge
  /-- Arrays and objects nest too deep. -/
  | tooDeep
  /-- The bytes are not UTF-8. -/
  | notUtf8
deriving DecidableEq, Repr

/-- The cause as a text. -/
def ReadError.message : ReadError → String
  | .incomplete => "the text ends inside a value"
  | .unexpected piece => "unexpected " ++ piece
  | .controlCharacter => "control character inside a string"
  | .badEscape => "invalid escape"
  | .loneSurrogate => "lone surrogate in an escape"
  | .numberTooLarge => "number out of range"
  | .tooDeep => "nesting too deep"
  | .notUtf8 => "invalid UTF-8"

/-! ## Numbers -/

/-- Significands are read up to this bound; the digits after that only scale. -/
def maxSignificand : Nat := 18446744073709551615

/-- The greatest number that is whole with a minus sign in front. -/
def maxNegated : Nat := 9223372036854775808

/-- Appends digits as long as the bound allows, and returns the digits left over. -/
def absorb (significand : Nat) : List Char → Nat × List Char
  | [] => (significand, [])
  | c :: rest =>
    let next := significand * 10 + (c.toNat - '0'.toNat)
    if next ≤ maxSignificand then absorb next rest else (significand, c :: rest)

/-- An exponent after its letter. -/
def exponentOf (cs : List Char) : Except ReadError Int :=
  let (negative, digits) := match cs with
    | '-' :: rest => (true, rest)
    | '+' :: rest => (false, rest)
    | _ => (false, cs)
  if digits.isEmpty || digits.any (fun c => !c.isDigit) then
    .error (.unexpected (String.ofList cs))
  else
    let n := digits.foldl (fun n c => n * 10 + (c.toNat - '0'.toNat)) 0
    .ok (if negative then -n else n)

/-- The number that a significand, a power of ten and what is left of a word denote. -/
def realOf (negative : Bool) (significand : Nat) (scale : Int) (rest : List Char) :
    Except ReadError JsonNumber := do
  let exponent ← match rest with
    | [] => pure 0
    | 'e' :: cs => exponentOf cs
    | 'E' :: cs => exponentOf cs
    | cs => .error (.unexpected (String.ofList cs))
  match Binary64.ofDecimal? significand (scale + exponent) with
  | some x => pure (.real (x.withSign negative))
  | none => .error .numberTooLarge

/-- The number that a word denotes. -/
def numberOf (word : List Char) : Except ReadError JsonNumber :=
  let (negative, unsigned) := match word with
    | '-' :: rest => (true, rest)
    | _ => (false, word)
  let digits := unsigned.takeWhile Char.isDigit
  let rest := unsigned.dropWhile Char.isDigit
  let (significand, excess) := absorb 0 digits
  if digits.isEmpty || (digits.head? == some '0' && 1 < digits.length) then
    .error (.unexpected (String.ofList word))
  else match rest with
    | [] =>
      if excess.isEmpty && !negative then .ok (.whole significand)
      else if excess.isEmpty && 0 < significand && significand ≤ maxNegated then
        .ok (.whole (-(significand : Int)))
      else realOf negative significand excess.length []
    | '.' :: after =>
      let decimals := after.takeWhile Char.isDigit
      if decimals.isEmpty then .error (.unexpected (String.ofList word))
      else
        let (full, dropped) := absorb significand decimals
        realOf negative full (excess.length - (decimals.length - dropped.length : Nat))
          (after.dropWhile Char.isDigit)
    | _ => realOf negative significand excess.length rest

/-! ## Strings -/

/-- The characters up to the closing quote, escapes as they stand, and what follows. -/
def untilQuote : List Char → Except ReadError (List Char × List Char)
  | [] => .error .incomplete
  | '"' :: rest => .ok ([], rest)
  | ['\\'] => .error .incomplete
  | '\\' :: c :: rest => do
    let (raw, after) ← untilQuote rest
    pure ('\\' :: c :: raw, after)
  | c :: rest =>
    if c.toNat < 0x20 then .error .controlCharacter
    else do
      let (raw, after) ← untilQuote rest
      pure (c :: raw, after)

/-- One unit of a string: a character that stands for itself, or an escaped code unit. -/
inductive StringUnit where
  | char (c : Char)
  | code (n : Nat)

/-- The units of a string, its escapes resolved. -/
def units : List Char → Except ReadError (List StringUnit)
  | [] => .ok []
  | '\\' :: 'u' :: a :: b :: c :: d :: rest =>
    match Text.numberIn 16 [a, b, c, d] with
    | some n => do pure (.code n :: (← units rest))
    | none => .error .badEscape
  | '\\' :: c :: rest =>
    match c with
    | '"' => do pure (.char '"' :: (← units rest))
    | '\\' => do pure (.char '\\' :: (← units rest))
    | '/' => do pure (.char '/' :: (← units rest))
    | 'b' => do pure (.char '\x08' :: (← units rest))
    | 'f' => do pure (.char '\x0c' :: (← units rest))
    | 'n' => do pure (.char '\n' :: (← units rest))
    | 'r' => do pure (.char '\r' :: (← units rest))
    | 't' => do pure (.char '\t' :: (← units rest))
    | _ => .error .badEscape
  | c :: rest => do pure (.char c :: (← units rest))

/-- The first code unit of a character that takes two. -/
def isHighSurrogate (n : Nat) : Bool := 0xd800 ≤ n && n ≤ 0xdbff

/-- The second code unit of a character that takes two. -/
def isLowSurrogate (n : Nat) : Bool := 0xdc00 ≤ n && n ≤ 0xdfff

/-- The characters of a list of units, pairs of surrogates joined. -/
def joinUnits : List StringUnit → Except ReadError (List Char)
  | [] => .ok []
  | .char c :: rest => do pure (c :: (← joinUnits rest))
  | .code n :: rest =>
    if isLowSurrogate n then .error .loneSurrogate
    else if isHighSurrogate n then
      match rest with
      | .code m :: rest =>
        if isLowSurrogate m then do
          pure (Char.ofNat (0x10000 + (n - 0xd800) * 0x400 + (m - 0xdc00)) :: (← joinUnits rest))
        else .error .loneSurrogate
      | _ => .error .loneSurrogate
    else do pure (Char.ofNat n :: (← joinUnits rest))

/-! ## Tokens -/

/-- The smallest pieces of a text that mean something. -/
inductive Token where
  /-- A bracket, a brace, a comma or a colon. -/
  | mark (c : Char)
  /-- A string. -/
  | text (s : String)
  /-- A literal or a number. -/
  | word (cs : List Char)

/-- White space between tokens. -/
def isSpace (c : Char) : Bool := c == ' ' || c == '\n' || c == '\t' || c == '\r'

/-- Characters of literals and numbers. -/
def isWordChar (c : Char) : Bool := c.isAlphanum || c == '-' || c == '+' || c == '.'

/-- Characters that are tokens. -/
def isMark (c : Char) : Bool :=
  c == '[' || c == ']' || c == '\x7b' || c == '\x7d' || c == ',' || c == ':'

theorem untilQuote_length {cs raw after : List Char}
    (h : untilQuote cs = .ok (raw, after)) : after.length < cs.length := by
  fun_induction untilQuote cs generalizing raw after with
  | case1 => simp at h
  | case2 rest => simp_all
  | case3 => simp at h
  | case4 c rest ih =>
    simp only [bind, Except.bind] at h
    split at h
    · simp at h
    · rename_i p hp
      obtain ⟨raw', after'⟩ := p
      have := ih hp
      simp only [pure, Except.pure, Except.ok.injEq, Prod.mk.injEq] at h
      obtain ⟨-, rfl⟩ := h
      simp only [List.length_cons]
      omega
  | case5 => simp at h
  | case6 c rest _ _ _ _ ih =>
    simp only [bind, Except.bind] at h
    split at h
    · simp at h
    · rename_i p hp
      obtain ⟨raw', after'⟩ := p
      have := ih hp
      simp only [pure, Except.pure, Except.ok.injEq, Prod.mk.injEq] at h
      obtain ⟨-, rfl⟩ := h
      simp only [List.length_cons]
      omega

/-- The tokens of a text. -/
def tokens (text : List Char) : Except ReadError (List Token) :=
  match text with
  | [] => .ok []
  | c :: rest =>
    if isSpace c then tokens rest
    else if isMark c then do pure (.mark c :: (← tokens rest))
    else if c = '"' then
      match _h : untilQuote rest with
      | .error e => .error e
      | .ok (raw, after) => do
        let s ← joinUnits (← units raw)
        pure (.text (String.ofList s) :: (← tokens after))
    else if isWordChar c then do
      pure (.word (c :: rest.takeWhile isWordChar) :: (← tokens (rest.dropWhile isWordChar)))
    else .error (.unexpected (String.ofList [c]))
  termination_by text.length
  decreasing_by
    · simp
    · simp
    · have := untilQuote_length _h
      simp only [List.length_cons]
      omega
    · have := (List.dropWhile_sublist isWordChar (l := rest)).length_le
      simp only [List.length_cons]
      omega

/-! ## Values -/

/-- An array or object that is not closed yet. -/
inductive Frame where
  /-- An array with the items so far, last first. -/
  | items (before : List Json)
  /-- An object with the members so far and the name of the next one. -/
  | members (before : List (String × Json)) (name : String)

/-- What the next token has to be. -/
inductive Expecting where
  /-- A value. -/
  | value
  /-- A value or the end of the array that has just been opened. -/
  | firstItem
  /-- A name or the end of the object that has just been opened. -/
  | firstName
  /-- A name. -/
  | name
  /-- The colon after a name. -/
  | colon
  /-- A comma or the end of what is open. -/
  | comma

/-- The state between two tokens. -/
inductive State where
  /-- Inside the text, innermost open piece first. -/
  | inside (stack : List Frame) (expecting : Expecting)
  /-- After the value. -/
  | finished (value : Json)

/-- How deep arrays and objects may nest. -/
def maxDepth : Nat := 127

/-- Hands a complete value to the innermost open piece. -/
def place (value : Json) : List Frame → State
  | [] => .finished value
  | .items before :: stack => .inside (.items (value :: before) :: stack) .comma
  | .members before name :: stack =>
    .inside (.members (insertMember name value before) name :: stack) .comma

/-- The value that a word denotes. -/
def wordValue (cs : List Char) : Except ReadError Json :=
  if cs = ['n', 'u', 'l', 'l'] then .ok .null
  else if cs = ['t', 'r', 'u', 'e'] then .ok (.bool true)
  else if cs = ['f', 'a', 'l', 's', 'e'] then .ok (.bool false)
  else (numberOf cs).map .number

/-- A token in front of which a value may start. -/
def startValue (stack : List Frame) : Token → Except ReadError State
  | .text s => .ok (place (.string s) stack)
  | .word cs => (wordValue cs).map fun value => place value stack
  | .mark c =>
    if c = '[' then
      if stack.length < maxDepth then .ok (.inside (.items [] :: stack) .firstItem)
      else .error .tooDeep
    else if c = '\x7b' then
      if stack.length < maxDepth then .ok (.inside (.members [] "" :: stack) .firstName)
      else .error .tooDeep
    else .error (.unexpected (String.ofList [c]))

/-- A token where a name has to stand. -/
def startName (stack : List Frame) : Token → Except ReadError State
  | .text s =>
    match stack with
    | .members before _ :: rest => .ok (.inside (.members before s :: rest) .colon)
    | _ => .error (.unexpected s)
  | .word cs => .error (.unexpected (String.ofList cs))
  | .mark c => .error (.unexpected (String.ofList [c]))

/-- Closes the innermost open piece with this mark. -/
def close (c : Char) (stack : List Frame) : Except ReadError State :=
  match stack with
  | .items before :: rest =>
    if c = ']' then .ok (place (.array before.reverse) rest)
    else .error (.unexpected (String.ofList [c]))
  | .members before _ :: rest =>
    if c = '\x7d' then .ok (place (.object before) rest)
    else .error (.unexpected (String.ofList [c]))
  | [] => .error (.unexpected (String.ofList [c]))

/-- Reads one token. -/
def step (state : State) (token : Token) : Except ReadError State :=
  match state with
  | .finished _ => .error (.unexpected "text after the value")
  | .inside stack .value => startValue stack token
  | .inside stack .firstItem =>
    match token with
    | .mark ']' => close ']' stack
    | _ => startValue stack token
  | .inside stack .firstName =>
    match token with
    | .mark '\x7d' => close '\x7d' stack
    | _ => startName stack token
  | .inside stack .name => startName stack token
  | .inside stack .colon =>
    match token with
    | .mark ':' => .ok (.inside stack .value)
    | _ => .error (.unexpected "token before a colon")
  | .inside stack .comma =>
    match token, stack with
    | .mark ',', .items _ :: _ => .ok (.inside stack .value)
    | .mark ',', .members _ _ :: _ => .ok (.inside stack .name)
    | .mark c, _ => close c stack
    | _, _ => .error (.unexpected "token before a comma")

/-- The value of a text. -/
def ofText (text : List Char) : Except ReadError Json := do
  match ← (← tokens text).foldlM step (.inside [] .value) with
  | .finished value => pure value
  | .inside _ _ => .error .incomplete

/-- The value of a text given as bytes. -/
def ofBytes (bytes : List UInt8) : Except ReadError Json :=
  match Text.decodeStrict bytes with
  | some text => ofText text
  | none => .error .notUtf8

end StorageArray.Json
