import Mathlib.Tactic.Common
import StorageArray.Text.Lowercase
import StorageArray.Text.Search
/-!
# Lower case and contained texts

To find a text in another one whatever the case of its letters, one looks for it in the other one
in lower case.  Here this is compared with what it stands for: `ContainsInAnyCase` says that there
is a part that differs from the text in the case of ASCII letters only.

Lower-casing takes ASCII characters to ASCII characters, wherever they stand, so such a part is
found (`contains_lowercase_of_anyCase`).  Conversely only two characters outside ASCII have ASCII
characters in their lower-case forms: the Kelvin sign, which becomes a k, and İ, which becomes an i
with a combining dot.  A text without a k that does not end in an i is therefore found only where it
is (`contains_lowercase_iff`).

When the text that is looked for is put into lower case as well, it can be any text.  One character
is then written by what stands around it, the capital sigma, and it alone can keep a part of a text
from being found: `lowerList_prefix_drop_iff` says that the part is found at its place exactly when
its sigmas end words there as they do in the part alone.  Which case the ASCII letters around them
have makes no difference (`lowercase_of_eqIgnoringAsciiCase`).
-/

namespace StorageArray.Text

/-- The text has the part in it, whatever the case of its ASCII letters. -/
def ContainsInAnyCase (whole part : String) : Prop :=
  ∃ spelling, contains whole spelling = true ∧ eqIgnoringAsciiCase spelling part = true

/-- An ASCII character that is not a capital letter. -/
def IsPlain (c : Char) : Prop := c.toNat < 0x80 ∧ ¬ ('A' ≤ c ∧ c ≤ 'Z')

instance (c : Char) : Decidable (IsPlain c) :=
  inferInstanceAs (Decidable (c.toNat < 0x80 ∧ ¬ ('A' ≤ c ∧ c ≤ 'Z')))

/-! ### Parts of a text in lower case -/

section Part

variable {before part after : List Char}

/-- A capital sigma between these characters is at the end of a word; `before` is what precedes it,
nearest character first. -/
def endsWord (before after : List Char) : Bool := startsWithCased before && !startsWithCased after

/-- The lower-case form of a character between others. -/
def lowerBetween (before : List Char) (c : Char) (after : List Char) : List Char :=
  if c = 'Σ' then [if endsWord before after then 'ς' else 'σ'] else lowerChar c

/-- The lower-case form of a part of a text, of which `before` precedes it, nearest character first,
and `after` follows it. -/
def lowerPart (before after : List Char) : List Char → List Char
  | [] => []
  | c :: part => lowerBetween before c (part ++ after) ++ lowerPart (c :: before) after part

lemma lowerFrom_append (before part after : List Char) :
    lowerFrom before (part ++ after) =
      lowerPart before after part ++ lowerFrom (part.reverse ++ before) after := by
  induction part generalizing before with
  | nil => rfl
  | cons c part ih =>
      have hstep : lowerFrom before (c :: (part ++ after)) =
          lowerBetween before c (part ++ after) ++ lowerFrom (c :: before) (part ++ after) := rfl
      rw [List.cons_append, hstep, ih, lowerPart, List.append_assoc, List.reverse_cons,
        List.append_assoc, List.singleton_append]

lemma lowerFrom_eq_lowerPart (before part : List Char) :
    lowerFrom before part = lowerPart before [] part := by
  have happend := lowerFrom_append before part []
  rwa [List.append_nil, lowerFrom, List.append_nil] at happend

/-- How long the lower-case form of a part is does not depend on what stands around it. -/
lemma length_lowerBetween (before before' : List Char) (c : Char) (after after' : List Char) :
    (lowerBetween before c after).length = (lowerBetween before' c after').length := by
  unfold lowerBetween
  split <;> rfl

lemma length_lowerPart (before before' after after' part : List Char) :
    (lowerPart before after part).length = (lowerPart before' after' part).length := by
  induction part generalizing before before' with
  | nil => rfl
  | cons c part ih =>
      simp only [lowerPart, List.length_append, ih (c :: before) (c :: before')]
      rw [length_lowerBetween]

/-- Every capital sigma of the part is at the end of a word in the text exactly when it is at the
end of a word in the part alone. -/
def KeepsWordEnds (before part after : List Char) : Prop :=
  ∀ left right, part = left ++ 'Σ' :: right →
    endsWord (left.reverse ++ before.reverse) (right ++ after) = endsWord left.reverse right

lemma lowerBetween_eq_iff {before before' after after' : List Char} {c : Char} :
    lowerBetween before c after = lowerBetween before' c after' ↔
      (c = 'Σ' → endsWord before after = endsWord before' after') := by
  unfold lowerBetween
  by_cases hc : c = 'Σ'
  · cases endsWord before after <;> cases endsWord before' after' <;> simp [hc]
  · simp [hc]

/-- A part is written as it is alone exactly when this is so of each of its sigmas. -/
lemma lowerPart_eq_iff {inner outer : List Char} :
    lowerPart (inner ++ outer) after part = lowerPart inner [] part ↔
      ∀ left right, part = left ++ 'Σ' :: right →
        endsWord (left.reverse ++ (inner ++ outer)) (right ++ after) =
          endsWord (left.reverse ++ inner) right := by
  induction part generalizing inner with
  | nil => simp [lowerPart]
  | cons c part ih =>
      -- The first character is as long in both forms, so that they are equal piece by piece.
      have hcut : lowerPart (inner ++ outer) after (c :: part) = lowerPart inner [] (c :: part) ↔
          lowerBetween (inner ++ outer) c (part ++ after) = lowerBetween inner c part ∧
            lowerPart (c :: inner ++ outer) after part = lowerPart (c :: inner) [] part := by
        simp only [lowerPart, List.append_nil, List.cons_append]
        refine ⟨fun h => List.append_inj h (length_lowerBetween ..), ?_⟩
        rintro ⟨hfirst, hrest⟩
        rw [hfirst, hrest]
      rw [hcut, lowerBetween_eq_iff, ih]
      constructor
      · rintro ⟨hfirst, hrest⟩ left right hpart
        cases left with
        | nil =>
            obtain ⟨rfl, rfl⟩ := List.cons.inj hpart
            exact hfirst rfl
        | cons d left =>
            obtain ⟨rfl, rfl⟩ := List.cons.inj hpart
            simpa using hrest left right rfl
      · intro h
        refine ⟨?_, fun left right hpart => ?_⟩
        · rintro rfl
          exact h [] part rfl
        · simpa using h (c :: left) right (congrArg (c :: ·) hpart)

lemma lowerPart_eq_lowerList_iff :
    lowerPart before.reverse after part = lowerList part ↔ KeepsWordEnds before part after := by
  have hpart : lowerPart ([] ++ before.reverse) after part = lowerPart [] [] part ↔ _ :=
    lowerPart_eq_iff
  rw [lowerList, lowerFrom_eq_lowerPart]
  simpa [KeepsWordEnds] using hpart

instance : Decidable (KeepsWordEnds before part after) :=
  decidable_of_iff _ lowerPart_eq_lowerList_iff

lemma keepsWordEnds_of_not_mem (h : 'Σ' ∉ part) : KeepsWordEnds before part after := by
  rintro left right rfl
  exact absurd (by simp) h

/-- In the text in lower case, the part in lower case stands at the place of the part exactly when
the ends of words are kept. -/
lemma lowerList_prefix_drop_iff :
    lowerList part <+: (lowerList (before ++ part ++ after)).drop (lowerList before).length ↔
      KeepsWordEnds before part after := by
  have htext : lowerList (before ++ part ++ after) =
      lowerPart [] (part ++ after) before ++ (lowerPart before.reverse after part ++
        lowerFrom (part.reverse ++ before.reverse) after) := by
    rw [lowerList, List.append_assoc, lowerFrom_append, lowerFrom_append, List.append_nil]
  have hbefore : (lowerList before).length = (lowerPart [] (part ++ after) before).length := by
    rw [lowerList, lowerFrom_eq_lowerPart]
    exact length_lowerPart ..
  have hpart : (lowerList part).length = (lowerPart before.reverse after part).length := by
    rw [lowerList, lowerFrom_eq_lowerPart]
    exact length_lowerPart ..
  rw [htext, hbefore, List.drop_left, ← lowerPart_eq_lowerList_iff]
  constructor
  · rintro ⟨rest, h⟩
    exact (List.append_inj h hpart).1.symm
  · intro h
    rw [h]
    exact List.prefix_append _ _

end Part

/-! ### ASCII characters -/

lemma lowerChar_of_ascii {c : Char} (h : c.toNat < 0x80) : lowerChar c = [lowerAscii c] := by
  rw [lowerChar, if_pos h, lowerAscii]

lemma lowerAscii_of_isPlain {c : Char} (h : IsPlain c) : lowerAscii c = c := if_neg h.2

lemma map_lowerAscii_of_isPlain {part : List Char} (h : ∀ c ∈ part, IsPlain c) :
    part.map lowerAscii = part := by
  conv_rhs => rw [← List.map_id part]
  exact List.map_congr_left fun c hc => lowerAscii_of_isPlain (h c hc)

/-- Only ASCII characters are taken to plain ones. -/
lemma ascii_of_isPlain_lowerAscii {c : Char} (h : IsPlain (lowerAscii c)) : c.toNat < 0x80 := by
  unfold lowerAscii at h
  split at h
  · rename_i hcapital
    have hle : c.toNat ≤ 'Z'.toNat := hcapital.2
    exact Nat.lt_of_le_of_lt hle (by decide)
  · exact h.1

lemma lowerFrom_append_of_ascii {part : List Char} (h : ∀ c ∈ part, c.toNat < 0x80)
    (before rest : List Char) :
    lowerFrom before (part ++ rest) =
      part.map lowerAscii ++ lowerFrom (part.reverse ++ before) rest := by
  induction part generalizing before with
  | nil => rfl
  | cons c part ih =>
      have hc : c.toNat < 0x80 := h c List.mem_cons_self
      have hsigma : c ≠ 'Σ' := by
        rintro rfl
        exact absurd hc (by decide)
      have hpart := ih (fun d hd => h d (List.mem_cons_of_mem c hd)) (c :: before)
      rw [List.cons_append, lowerFrom, if_neg hsigma, lowerChar_of_ascii hc, hpart]
      simp

/-- A part in letters of either case is a part of the text in lower case. -/
lemma contains_lowercase_of_anyCase {whole part : String} (hpart : ∀ c ∈ part.toList, IsPlain c)
    (h : ContainsInAnyCase whole part) : contains (lowercase whole) part = true := by
  obtain ⟨spelling, hwhole, hspelling⟩ := h
  rw [contains, occursIn_iff] at hwhole ⊢
  obtain ⟨before, after, hwhole⟩ := hwhole
  have hlower : spelling.toList.map lowerAscii = part.toList := by
    simpa [eqIgnoringAsciiCase, map_lowerAscii_of_isPlain hpart] using hspelling
  have hascii : ∀ c ∈ spelling.toList, c.toNat < 0x80 := by
    intro c hc
    refine ascii_of_isPlain_lowerAscii (hpart _ ?_)
    rw [← hlower]
    exact List.mem_map_of_mem hc
  rw [toList_lowercase, lowerList, hwhole, List.append_assoc, lowerFrom_append,
    lowerFrom_append_of_ascii hascii, hlower, ← List.append_assoc]
  exact ⟨_, _, rfl⟩

/-- A plain part of a text is a part of the text in lower case. -/
lemma contains_lowercase {whole part : String} (hpart : ∀ c ∈ part.toList, IsPlain c)
    (h : contains whole part = true) : contains (lowercase whole) part = true :=
  contains_lowercase_of_anyCase hpart ⟨part, h, by simp [eqIgnoringAsciiCase]⟩

/-! ### Letters of either case -/

/-- A capital letter and its small letter, by their numbers. -/
lemma toNat_of_capital {c : Char} (h : 'A' ≤ c ∧ c ≤ 'Z') :
    0x41 ≤ c.toNat ∧ c.toNat ≤ 0x5a ∧ (lowerAscii c).toNat = c.toNat + 32 := by
  have hfirst : 0x41 ≤ c.toNat := h.1
  have hlast : c.toNat ≤ 0x5a := h.2
  have hvalid : (c.toNat + 32).isValidChar := .inl (by omega)
  refine ⟨hfirst, hlast, ?_⟩
  rw [lowerAscii, if_pos h, Char.ofNat, dif_pos hvalid]
  rfl

/-- No ASCII letter is left out of account where words end. -/
lemma letters_not_mem_caseIgnorableRanges : ∀ range ∈ caseIgnorableRanges,
    range.2 < 0x41 ∨ (0x5a < range.1 ∧ range.2 < 0x61) ∨ 0x7a < range.1 := by
  decide +kernel

lemma isCaseIgnorable_lowerAscii (c : Char) :
    isCaseIgnorable (lowerAscii c) = isCaseIgnorable c := by
  by_cases h : 'A' ≤ c ∧ c ≤ 'Z'
  · obtain ⟨hfirst, hlast, hlower⟩ := toNat_of_capital h
    have hletter {d : Char}
        (hd : (0x41 ≤ d.toNat ∧ d.toNat ≤ 0x5a) ∨ (0x61 ≤ d.toNat ∧ d.toNat ≤ 0x7a)) :
        isCaseIgnorable d = false := by
      refine List.any_eq_false.2 fun range hrange => ?_
      have houtside := letters_not_mem_caseIgnorableRanges range hrange
      simp only [Bool.and_eq_true, decide_eq_true_eq]
      omega
    rw [hletter (.inl ⟨hfirst, hlast⟩), hletter (.inr (by omega))]
  · rw [lowerAscii, if_neg h]

lemma isCased_lowerAscii (c : Char) :
    inRanges casedRanges (lowerAscii c) = inRanges casedRanges c := by
  by_cases h : 'A' ≤ c ∧ c ≤ 'Z'
  · obtain ⟨hfirst, hlast, hlower⟩ := toNat_of_capital h
    have hcapital : inRanges casedRanges c = true :=
      List.any_eq_true.2 ⟨(0x41, 0x5a), by decide +kernel, by simp [hfirst, hlast]⟩
    have hsmall : inRanges casedRanges (lowerAscii c) = true :=
      List.any_eq_true.2 ⟨(0x61, 0x7a), by decide +kernel, by simp [hlower]; omega⟩
    rw [hcapital, hsmall]
  · rw [lowerAscii, if_neg h]

lemma startsWithCased_map_lowerAscii (cs : List Char) :
    startsWithCased (cs.map lowerAscii) = startsWithCased cs := by
  have hignored : isCaseIgnorable ∘ lowerAscii = isCaseIgnorable :=
    funext isCaseIgnorable_lowerAscii
  unfold startsWithCased
  rw [List.dropWhile_map, hignored]
  cases cs.dropWhile isCaseIgnorable with
  | nil => rfl
  | cons c _ => exact isCased_lowerAscii c

lemma lowerChar_lowerAscii (c : Char) : lowerChar (lowerAscii c) = lowerChar c := by
  by_cases h : 'A' ≤ c ∧ c ≤ 'Z'
  · obtain ⟨hfirst, hlast, hlower⟩ := toNat_of_capital h
    have hsmall : ¬ ('A' ≤ lowerAscii c ∧ lowerAscii c ≤ 'Z') := by
      rintro ⟨-, hle⟩
      have hle : (lowerAscii c).toNat ≤ 0x5a := hle
      omega
    rw [lowerChar_of_ascii (by omega), lowerChar_of_ascii (by omega), lowerAscii, if_neg hsmall]
  · rw [lowerAscii, if_neg h]

lemma lowerAscii_eq_sigma_iff {c : Char} : lowerAscii c = 'Σ' ↔ c = 'Σ' := by
  by_cases h : 'A' ≤ c ∧ c ≤ 'Z'
  · obtain ⟨hfirst, hlast, hlower⟩ := toNat_of_capital h
    have hnumber : 'Σ'.toNat = 0x3a3 := rfl
    constructor
    · intro hsigma
      rw [hsigma] at hlower
      omega
    · rintro rfl
      omega
  · rw [lowerAscii, if_neg h]

/-- The case of ASCII letters is lost in lower case, and it has no influence on the other
characters. -/
lemma lowerFrom_map_lowerAscii (before text : List Char) :
    lowerFrom (before.map lowerAscii) (text.map lowerAscii) = lowerFrom before text := by
  induction text generalizing before with
  | nil => rfl
  | cons c text ih =>
      have hrest : lowerFrom (lowerAscii c :: before.map lowerAscii) (text.map lowerAscii) =
          lowerFrom (c :: before) text := ih (c :: before)
      simp only [List.map_cons, lowerFrom, hrest, lowerAscii_eq_sigma_iff, lowerChar_lowerAscii,
        startsWithCased_map_lowerAscii]

lemma lowercase_of_eqIgnoringAsciiCase {s t : String} (h : eqIgnoringAsciiCase s t = true) :
    lowercase s = lowercase t := by
  have hmap : s.toList.map lowerAscii = t.toList.map lowerAscii := by
    simpa [eqIgnoringAsciiCase] using h
  have hlower (cs : List Char) : lowerList (cs.map lowerAscii) = lowerList cs :=
    lowerFrom_map_lowerAscii [] cs
  rw [lowercase, lowercase, ← hlower s.toList, ← hlower t.toList, hmap]

/-! ### Characters outside ASCII -/

/-- Every run of characters outside ASCII leads to characters outside ASCII again, but for the
Kelvin sign. -/
lemma outside_of_mem_lowercaseRuns : ∀ run ∈ lowercaseRuns,
    run.2.1 < 0x80 ∨ run = (0x212a, 0x212a, 1, -8383) ∨
      0x80 ≤ run.1 + run.2.2.2 ∧
        (run.2.1 + run.2.2.2 < 0xd800 ∨
          0xe000 ≤ run.1 + run.2.2.2 ∧ run.2.1 + run.2.2.2 < 0x110000) := by
  decide +kernel

/-- A character outside ASCII other than İ has one character as its lower-case form, and of the
ASCII characters this can be the k only. -/
lemma lowerChar_of_outside {c : Char} (h : 0x80 ≤ c.toNat) (hdot : c ≠ 'İ') :
    ∃ d, lowerChar c = [d] ∧ (d = 'k' ∨ 0x80 ≤ d.toNat) := by
  rw [lowerChar, if_neg (Nat.not_lt.2 h), if_neg hdot]
  split
  · rename_i first last step shift hfind
    refine ⟨_, rfl, ?_⟩
    have hrun := outside_of_mem_lowercaseRuns _ (List.mem_of_find?_eq_some hfind)
    have hrange := List.find?_some hfind
    simp only [Bool.and_eq_true, decide_eq_true_eq, beq_iff_eq] at hrun hrange
    rcases hrun with hascii | hkelvin | ⟨hlow, hvalid⟩
    · omega
    · left
      simp only [Prod.mk.injEq] at hkelvin
      obtain ⟨rfl, rfl, -, rfl⟩ := hkelvin
      have hc : c.toNat = 0x212a := by omega
      rw [hc]
      rfl
    · right
      have hchar : (c.toNat + shift).toNat.isValidChar := by
        unfold Nat.isValidChar
        omega
      have hvalue : (Char.ofNat (c.toNat + shift).toNat).toNat = (c.toNat + shift).toNat := by
        rw [Char.ofNat, dif_pos hchar]
        rfl
      omega
  · exact ⟨c, rfl, .inr h⟩

lemma lowerChar_dotted : lowerChar 'İ' = ['i', Char.ofNat 0x307] := by
  rw [lowerChar, if_neg (by decide), if_pos rfl]

/-- A character is replaced by one character, or this character is İ. -/
lemma exists_lowerFrom_cons (before : List Char) (c : Char) (text : List Char) :
    ∃ d, lowerFrom before (c :: text) = d :: lowerFrom (c :: before) text ∨
      lowerFrom before (c :: text) = d :: Char.ofNat 0x307 :: lowerFrom (c :: before) text := by
  rw [lowerFrom]
  by_cases hsigma : c = 'Σ'
  · rw [if_pos hsigma]
    exact ⟨_, .inl rfl⟩
  rw [if_neg hsigma]
  by_cases hascii : c.toNat < 0x80
  · rw [lowerChar_of_ascii hascii]
    exact ⟨_, .inl rfl⟩
  by_cases hdot : c = 'İ'
  · rw [hdot, lowerChar_dotted]
    exact ⟨_, .inr rfl⟩
  · obtain ⟨d, hlow, -⟩ := lowerChar_of_outside (Nat.not_lt.1 hascii) hdot
    rw [hlow]
    exact ⟨d, .inl rfl⟩

lemma lowerList_eq_nil_iff {text : List Char} : lowerList text = [] ↔ text = [] := by
  cases text with
  | nil => simp [lowerList, lowerFrom]
  | cons c rest =>
      obtain ⟨d, hlow | hlow⟩ := exists_lowerFrom_cons [] c rest
      · simp [lowerList, hlow]
      · simp [lowerList, hlow]

/-! ### Where a part in lower case comes from -/

section Spelling

variable {part before text : List Char}

/-- A part with which a text in lower case begins is the lower-case form of a part with which the
text begins. -/
lemma exists_prefix_of_lowerFrom (hpart : ∀ c ∈ part, IsPlain c ∧ c ≠ 'k')
    (hlast : part.getLast? ≠ some 'i') (h : part <+: lowerFrom before text) :
    ∃ spelling, spelling <+: text ∧ spelling.map lowerAscii = part := by
  induction part generalizing before text with
  | nil => exact ⟨[], List.nil_prefix, rfl⟩
  | cons d part ih =>
      obtain ⟨hplain, hk⟩ := hpart d List.mem_cons_self
      cases text with
      | nil => simp [lowerFrom] at h
      | cons c text =>
          have hrest (hrest : part <+: lowerFrom (c :: before) text) :
              ∃ spelling, spelling <+: text ∧ spelling.map lowerAscii = part := by
            refine ih (fun e he => hpart e (List.mem_cons_of_mem d he)) ?_ hrest
            intro hi
            apply hlast
            rw [List.getLast?_cons, hi]
            rfl
          rw [lowerFrom] at h
          by_cases hsigma : c = 'Σ'
          · -- A sigma is written as one of two letters outside ASCII.
            rw [if_pos hsigma, List.singleton_append, List.cons_prefix_cons] at h
            have houtside := hplain.1
            rw [h.1] at houtside
            split at houtside
            · exact absurd houtside (by decide)
            · exact absurd houtside (by decide)
          rw [if_neg hsigma] at h
          by_cases hascii : c.toNat < 0x80
          · rw [lowerChar_of_ascii hascii, List.singleton_append, List.cons_prefix_cons] at h
            obtain ⟨spelling, hprefix, hspelling⟩ := hrest h.2
            refine ⟨c :: spelling, List.cons_prefix_cons.2 ⟨rfl, hprefix⟩, ?_⟩
            rw [List.map_cons, hspelling, h.1]
          exfalso
          by_cases hdot : c = 'İ'
          · -- The i has a combining dot behind it, and the part has another character or none.
            rw [hdot, lowerChar_dotted, List.cons_append, List.cons_prefix_cons] at h
            obtain ⟨rfl, h⟩ := h
            cases part with
            | nil => exact hlast rfl
            | cons e part =>
                rw [List.singleton_append, List.cons_prefix_cons] at h
                have he := (hpart e (by simp)).1.1
                rw [h.1] at he
                exact absurd he (by decide)
          · obtain ⟨e, hlow, he⟩ := lowerChar_of_outside (Nat.not_lt.1 hascii) hdot
            rw [hlow, List.singleton_append, List.cons_prefix_cons] at h
            obtain ⟨rfl, -⟩ := h
            have hd := hplain.1
            rcases he with rfl | he
            · exact hk rfl
            · omega

/-- A part of a text in lower case is the lower-case form of a part of the text. -/
lemma exists_infix_of_lowerFrom (hne : part ≠ []) (hpart : ∀ c ∈ part, IsPlain c ∧ c ≠ 'k')
    (hlast : part.getLast? ≠ some 'i') (h : part <:+: lowerFrom before text) :
    ∃ spelling, spelling <:+: text ∧ spelling.map lowerAscii = part := by
  induction text generalizing before with
  | nil => exact absurd (List.infix_nil.1 h) hne
  | cons c text ih =>
      have hhere (h : part <+: lowerFrom before (c :: text)) :
          ∃ spelling, spelling <:+: c :: text ∧ spelling.map lowerAscii = part := by
        obtain ⟨spelling, hprefix, hspelling⟩ := exists_prefix_of_lowerFrom hpart hlast h
        exact ⟨spelling, hprefix.isInfix, hspelling⟩
      have hlater (h : part <:+: lowerFrom (c :: before) text) :
          ∃ spelling, spelling <:+: c :: text ∧ spelling.map lowerAscii = part := by
        obtain ⟨spelling, hinfix, hspelling⟩ := ih h
        exact ⟨spelling, List.infix_cons hinfix, hspelling⟩
      obtain ⟨d, hlow | hlow⟩ := exists_lowerFrom_cons before c text
      · rw [hlow, List.infix_cons_iff] at h
        rcases h with h | h
        · exact hhere (hlow ▸ h)
        · exact hlater h
      · rw [hlow, List.infix_cons_iff, List.infix_cons_iff] at h
        rcases h with h | h | h
        · exact hhere (hlow ▸ h)
        · -- The part does not begin with a combining dot.
          obtain ⟨e, part, rfl⟩ := List.exists_cons_of_ne_nil hne
          obtain ⟨rfl, -⟩ := List.cons_prefix_cons.1 h
          exact absurd (hpart _ List.mem_cons_self).1.1 (by decide)
        · exact hlater h

end Spelling

/-- A part without a k that does not end in an i is found in the text in lower case exactly when the
text has it in letters of either case. -/
lemma contains_lowercase_iff {whole part : String} (hne : part.toList ≠ [])
    (hpart : ∀ c ∈ part.toList, IsPlain c ∧ c ≠ 'k') (hlast : part.toList.getLast? ≠ some 'i') :
    contains (lowercase whole) part = true ↔ ContainsInAnyCase whole part := by
  have hplain : ∀ c ∈ part.toList, IsPlain c := fun c hc => (hpart c hc).1
  refine ⟨fun h => ?_, contains_lowercase_of_anyCase hplain⟩
  rw [contains, occursIn_iff, toList_lowercase, lowerList] at h
  obtain ⟨before, after, h⟩ := h
  obtain ⟨spelling, ⟨left, right, hwhole⟩, hspelling⟩ :=
    exists_infix_of_lowerFrom hne hpart hlast ⟨before, after, h.symm⟩
  refine ⟨String.ofList spelling, ?_, ?_⟩
  · rw [contains, occursIn_iff, String.toList_ofList]
    exact ⟨left, right, hwhole.symm⟩
  · simp [eqIgnoringAsciiCase, hspelling, map_lowerAscii_of_isPlain hplain]

end StorageArray.Text
