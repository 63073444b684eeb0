/-!
# Looking for one text inside another

`occursIn p s` decides whether `p` is a contiguous part of `s`; `occursIn_iff` states it
with the two remaining pieces.  `splitFirst` cuts a list at the first place where a
character stands, `split` at every place; `pieces_intercalate` says that the pieces are what was
joined.
-/

namespace StorageArray.Text

/-- The first list is a contiguous part of the second. -/
def occursIn (p : List Char) : List Char → Bool
  | [] => p.isEmpty
  | c :: r => p.isPrefixOf (c :: r) || occursIn p r

theorem occursIn_iff {p s : List Char} :
    occursIn p s = true ↔ ∃ before after, s = before ++ p ++ after := by
  induction s with
  | nil => simp [occursIn, List.isEmpty_iff]
  | cons c r ih =>
    rw [occursIn, Bool.or_eq_true, List.isPrefixOf_iff_prefix, ih]
    constructor
    · rintro (⟨t, ht⟩ | ⟨b, a, rfl⟩)
      · exact ⟨[], t, by simp [ht]⟩
      · exact ⟨c :: b, a, by simp⟩
    · rintro ⟨b, a, h⟩
      cases b with
      | nil => exact .inl ⟨a, by simpa using h.symm⟩
      | cons d b =>
        simp only [List.cons_append, List.cons.injEq] at h
        exact .inr ⟨b, a, h.2⟩

/-- The text `part` is a contiguous part of `whole`. -/
def contains (whole part : String) : Bool := occursIn part.toList whole.toList

/-- The parts of a list before and after the first `sep`, when there is one. -/
def splitFirst (sep : Char) : List Char → Option (List Char × List Char)
  | [] => none
  | c :: r =>
    if c = sep then some ([], r) else (splitFirst sep r).map fun (a, b) => (c :: a, b)

theorem splitFirst_eq_some_iff {sep : Char} {cs a b : List Char} :
    splitFirst sep cs = some (a, b) ↔ cs = a ++ sep :: b ∧ sep ∉ a := by
  induction cs generalizing a b with
  | nil => simp [splitFirst]
  | cons c r ih =>
    rw [splitFirst]
    split
    · rename_i h
      subst h
      cases a with
      | nil => simp
      | cons d a => simp +contextual [eq_comm]
    · rename_i h
      cases a with
      | nil =>
        simp only [Option.map_eq_some_iff, Prod.exists, List.nil_append, List.cons.injEq,
          h, false_and, iff_false]
        rintro ⟨x, y, -, hxy⟩
        simp at hxy
      | cons d a =>
        simp only [Option.map_eq_some_iff, Prod.exists, ih, Prod.mk.injEq, List.cons.injEq,
          List.cons_append, List.mem_cons, not_or]
        constructor
        · rintro ⟨x, y, ⟨rfl, hx⟩, ⟨rfl, rfl⟩, rfl⟩
          exact ⟨⟨rfl, rfl⟩, Ne.symm h, hx⟩
        · rintro ⟨⟨rfl, rfl⟩, -, ha⟩
          exact ⟨a, b, ⟨rfl, ha⟩, ⟨rfl, rfl⟩, rfl⟩

/-- The pieces of a list between the places where `sep` stands. -/
def split (sep : Char) : List Char → List (List Char)
  | [] => [[]]
  | c :: r =>
    if c = sep then [] :: split sep r
    else match split sep r with
      | [] => [[c]]
      | piece :: rest => (c :: piece) :: rest

theorem split_ne_nil (sep : Char) (cs : List Char) : split sep cs ≠ [] := by
  cases cs with
  | nil => simp [split]
  | cons c r =>
    rw [split]
    split
    · simp
    · split <;> simp

theorem split_of_not_mem {sep : Char} {cs : List Char} (h : sep ∉ cs) : split sep cs = [cs] := by
  induction cs with
  | nil => rfl
  | cons c r ih =>
    rw [List.mem_cons, not_or] at h
    rw [split, if_neg (Ne.symm h.1), ih h.2]

/-- What stands before the first place of `sep` is the first piece. -/
theorem split_append_cons {sep : Char} {a b : List Char} (h : sep ∉ a) :
    split sep (a ++ sep :: b) = a :: split sep b := by
  induction a with
  | nil => simp [split]
  | cons c a ih =>
    rw [List.mem_cons, not_or] at h
    rw [List.cons_append, split, if_neg (Ne.symm h.1), ih h.2]

/-- The pieces of a text between the places where `sep` stands. -/
def pieces (sep : Char) (s : String) : List String :=
  (split sep s.toList).map String.ofList

/-- Texts without `sep` are the pieces of what is made of them by writing `sep` between them. -/
theorem pieces_intercalate {sep : Char} {texts : List String} (hne : texts ≠ [])
    (h : ∀ text ∈ texts, sep ∉ text.toList) :
    pieces sep ((String.singleton sep).intercalate texts) = texts := by
  induction texts with
  | nil => exact absurd rfl hne
  | cons text rest ih =>
    have htext : sep ∉ text.toList := h text List.mem_cons_self
    cases rest with
    | nil => simp [pieces, split_of_not_mem htext]
    | cons next rest =>
      have hrest := ih (List.cons_ne_nil _ _) fun t ht => h t (List.mem_cons_of_mem _ ht)
      rw [pieces] at hrest ⊢
      rw [String.intercalate_cons_cons, String.toList_append, String.toList_append,
        String.toList_singleton, List.append_assoc, List.singleton_append, split_append_cons htext,
        List.map_cons, String.ofList_toList, hrest]

end StorageArray.Text
