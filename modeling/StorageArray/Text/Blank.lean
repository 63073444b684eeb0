/-!
# White space and trimming

A blank is a character with the Unicode property White_Space.  `trim` removes blanks from
both ends of a text; `trim_trim` says that nothing is left to remove afterwards, and
`trim_eq_self_iff` characterises the texts that have none.
-/

namespace StorageArray.Text

/-- Characters with the Unicode property White_Space. -/
def isBlank (c : Char) : Bool :=
  let n := c.toNat
  (9 ≤ n && n ≤ 13) || n == 0x20 || n == 0x85 || n == 0xa0 || n == 0x1680
    || (0x2000 ≤ n && n ≤ 0x200a) || n == 0x2028 || n == 0x2029 || n == 0x202f
    || n == 0x205f || n == 0x3000

/-- A text without any character other than blanks. -/
def allBlank (s : String) : Bool := s.toList.all isBlank

/-- A list of characters without the blanks at either end. -/
def trimList (cs : List Char) : List Char :=
  ((cs.dropWhile isBlank).reverse.dropWhile isBlank).reverse

/-- A text without the blanks at either end. -/
def trim (s : String) : String := String.ofList (trimList s.toList)

/-- Neither the first nor the last character is a blank. -/
def Trimmed (cs : List Char) : Prop :=
  (∀ c, cs.head? = some c → isBlank c = false) ∧
    ∀ c, cs.getLast? = some c → isBlank c = false

@[simp] theorem toList_trim (s : String) : (trim s).toList = trimList s.toList := by
  simp [trim]

theorem head?_dropWhile (cs : List Char) (c : Char)
    (h : (cs.dropWhile isBlank).head? = some c) : isBlank c = false := by
  induction cs with
  | nil => simp at h
  | cons d r ih =>
    rw [List.dropWhile_cons] at h
    split at h
    · exact ih h
    · simp_all

theorem dropWhile_of_head? (cs : List Char)
    (h : ∀ c, cs.head? = some c → isBlank c = false) : cs.dropWhile isBlank = cs := by
  cases cs with
  | nil => rfl
  | cons d r => simp [h d rfl]

theorem dropWhile_eq_nil_iff {cs : List Char} :
    cs.dropWhile isBlank = [] ↔ ∀ c ∈ cs, isBlank c = true := by
  induction cs with
  | nil => simp
  | cons d r ih =>
    by_cases hd : isBlank d = true
    · simp [hd, ih]
    · simp [hd]

/-- The last character survives the removal of a beginning, unless nothing does. -/
theorem getLast?_dropWhile (cs : List Char) (h : cs.dropWhile isBlank ≠ []) :
    (cs.dropWhile isBlank).getLast? = cs.getLast? := by
  induction cs with
  | nil => simp
  | cons d r ih =>
    rw [List.dropWhile_cons] at h ⊢
    split
    · rename_i hd
      rw [if_pos hd] at h
      rw [ih h]
      cases r with
      | nil => simp at h
      | cons e r => simp [List.getLast?_cons_cons]
    · rfl

theorem trimmed_trimList (cs : List Char) : Trimmed (trimList cs) := by
  constructor
  · intro c h
    rw [trimList, List.head?_reverse] at h
    by_cases hne : (cs.dropWhile isBlank).reverse.dropWhile isBlank = []
    · simp [hne] at h
    · rw [getLast?_dropWhile _ hne, List.getLast?_reverse] at h
      exact head?_dropWhile _ _ h
  · intro c h
    rw [trimList, List.getLast?_reverse] at h
    exact head?_dropWhile _ _ h

theorem trimList_of_trimmed {cs : List Char} (h : Trimmed cs) : trimList cs = cs := by
  rw [trimList, dropWhile_of_head? cs h.1, dropWhile_of_head?, List.reverse_reverse]
  intro c hc
  rw [List.head?_reverse] at hc
  exact h.2 c hc

theorem trimList_eq_self_iff {cs : List Char} : trimList cs = cs ↔ Trimmed cs :=
  ⟨fun h => h ▸ trimmed_trimList cs, trimList_of_trimmed⟩

@[simp] theorem trimList_trimList (cs : List Char) : trimList (trimList cs) = trimList cs :=
  trimList_of_trimmed (trimmed_trimList cs)

@[simp] theorem trim_trim (s : String) : trim (trim s) = trim s := by
  simp [trim]

theorem trim_eq_self_iff {s : String} : trim s = s ↔ Trimmed s.toList := by
  rw [← trimList_eq_self_iff, ← toList_trim]
  exact ⟨fun h => by rw [h], fun h => String.toList_injective h⟩

/-- Trimming leaves nothing exactly of a text of blanks. -/
theorem trimList_eq_nil_iff {cs : List Char} : trimList cs = [] ↔ cs.all isBlank = true := by
  rw [trimList, List.reverse_eq_nil_iff, dropWhile_eq_nil_iff, List.all_eq_true]
  constructor
  · intro h
    cases hd : cs.dropWhile isBlank with
    | nil => exact dropWhile_eq_nil_iff.1 hd
    | cons c r =>
      have hc := head?_dropWhile cs c (by simp [hd])
      have := h c (by simp [hd])
      simp [hc] at this
  · intro h
    simp [dropWhile_eq_nil_iff.2 h]

/-- Trimming brings in no character. -/
theorem mem_of_mem_trimList {cs : List Char} {c : Char} (h : c ∈ trimList cs) : c ∈ cs := by
  rw [trimList, List.mem_reverse] at h
  exact (List.dropWhile_sublist _).mem (List.mem_reverse.1 ((List.dropWhile_sublist _).mem h))

theorem trim_eq_empty_iff {s : String} : trim s = "" ↔ allBlank s = true := by
  rw [← String.toList_eq_nil_iff, toList_trim, trimList_eq_nil_iff, allBlank]

end StorageArray.Text
