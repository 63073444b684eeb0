import StorageArray.Text.Numeral
/-!
# Quoted texts of a configuration

Between double quotes a backslash starts an escape: one of a few letters, or the number of
a character in four or in eight hexadecimal digits.  Controls other than the tab have to be
written as escapes.
-/

namespace StorageArray.Config

/-- A character that may stand for itself between quotes. -/
def isPlain (c : Char) : Bool := c == '\t' || (0x20 ≤ c.toNat && c.toNat != 0x7f)

/-- The characters before the quote that ends a text, and those after it.  A quote behind a
backslash does not end the text. -/
def untilQuote : List Char → Option (List Char × List Char)
  | [] => none
  | '"' :: rest => some ([], rest)
  | '\\' :: c :: rest => (untilQuote rest).map fun (raw, after) => ('\\' :: c :: raw, after)
  | c :: rest => (untilQuote rest).map fun (raw, after) => (c :: raw, after)

/-- The character with a number in hexadecimal digits. -/
def numbered (digits : List Char) : Option Char := do
  let n ← Text.numberIn 16 digits
  if n.isValidChar then some (Char.ofNat n) else none

/-- The character that a letter behind a backslash stands for. -/
def lettered : Char → Option Char
  | '"' => some '"'
  | '\\' => some '\\'
  | 'b' => some '\x08'
  | 'f' => some '\x0c'
  | 'n' => some '\n'
  | 'r' => some '\r'
  | 't' => some '\t'
  | _ => none

/-- The text that characters between quotes stand for. -/
def unescape : List Char → Option (List Char)
  | [] => some []
  | '\\' :: 'u' :: a :: b :: c :: d :: rest => do
    pure ((← numbered [a, b, c, d]) :: (← unescape rest))
  | '\\' :: 'U' :: a :: b :: c :: d :: e :: f :: g :: h :: rest => do
    pure ((← numbered [a, b, c, d, e, f, g, h]) :: (← unescape rest))
  | '\\' :: c :: rest => do pure ((← lettered c) :: (← unescape rest))
  | c :: rest => if isPlain c && c != '\\' then (unescape rest).map (c :: ·) else none

theorem unescape_of_plain {cs : List Char}
    (h : ∀ c ∈ cs, isPlain c = true ∧ c ≠ '\\') : unescape cs = some cs := by
  induction cs with
  | nil => simp [unescape]
  | cons c r ih =>
    have hc := h c (by simp)
    have hr := ih fun d hd => h d (by simp [hd])
    rw [unescape]
    · simp [hc.1, hc.2, hr]
    all_goals simp_all

end StorageArray.Config
