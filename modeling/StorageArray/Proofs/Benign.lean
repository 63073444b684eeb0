import Mathlib.Tactic.Common
import StorageArray.Config.Basic
import StorageArray.Proofs.Text.Lowercase
/-!
# Which texts are benign

A text is benign when a pattern occurs in it, both in lower case
(`BenignFailures.isMatch_ofList_iff`).  A text in which the pattern stands as it was given, up to
the case of ASCII letters, is benign by this as long as the pattern ends words where it ends them
alone: a capital sigma is written in lower case by what stands around it (`Text.KeepsWordEnds`).

A configuration gives the patterns as one text with commas between them, which comes to the same
list.
-/

namespace StorageArray

open Text (KeepsWordEnds)

namespace BenignFailures

variable {texts more : List String} {text : String}

/-! ### Patterns -/

/-- A blank text leaves no pattern. -/
lemma isEmpty_lowercase_trim (p : String) :
    (Text.lowercase (Text.trim p)).toList.isEmpty = Text.allBlank p := by
  rw [Bool.eq_iff_iff, List.isEmpty_iff, Text.toList_lowercase, Text.lowerList_eq_nil_iff,
    String.toList_eq_nil_iff, Text.trim_eq_empty_iff]

lemma mem_patterns_ofList_iff {pattern : String} :
    pattern ∈ (ofList texts).patterns ↔
      ∃ p ∈ texts, Text.allBlank p = false ∧ Text.lowercase (Text.trim p) = pattern := by
  simp only [ofList, List.mem_filter, List.mem_map, Bool.not_eq_true']
  constructor
  · rintro ⟨⟨p, hmem, rfl⟩, hne⟩
    exact ⟨p, hmem, (isEmpty_lowercase_trim p).symm.trans hne, rfl⟩
  · rintro ⟨p, hmem, hblank, rfl⟩
    exact ⟨⟨p, hmem, rfl⟩, (isEmpty_lowercase_trim p).trans hblank⟩

/-- A text is benign when one of the patterns that are not blank occurs in it, both in lower
case. -/
lemma isMatch_ofList_iff :
    (ofList texts).isMatch text = true ↔ ∃ p ∈ texts, Text.allBlank p = false ∧
      Text.contains (Text.lowercase text) (Text.lowercase (Text.trim p)) = true := by
  simp only [isMatch, List.any_eq_true, mem_patterns_ofList_iff]
  constructor
  · rintro ⟨_, ⟨p, hmem, hblank, rfl⟩, hoccurs⟩
    exact ⟨p, hmem, hblank, hoccurs⟩
  · rintro ⟨p, hmem, hblank, hoccurs⟩
    exact ⟨_, ⟨p, hmem, hblank, rfl⟩, hoccurs⟩

lemma isMatch_mono (h : texts ⊆ more) (hmatch : (ofList texts).isMatch text = true) :
    (ofList more).isMatch text = true := by
  obtain ⟨p, hmem, hp⟩ := isMatch_ofList_iff.1 hmatch
  exact isMatch_ofList_iff.2 ⟨p, h hmem, hp⟩

lemma isMatch_of_blank (h : ∀ p ∈ texts, Text.allBlank p = true) :
    (ofList texts).isMatch text = false := by
  refine Bool.eq_false_iff.2 fun hmatch => ?_
  obtain ⟨p, hmem, hblank, -⟩ := isMatch_ofList_iff.1 hmatch
  rw [h p hmem] at hblank
  cases hblank

/-- A failure without a text is not benign, since no pattern is empty. -/
lemma isMatch_empty (benign : BenignFailures) : benign.isMatch "" = false := by
  refine Bool.eq_false_iff.2 fun hmatch => ?_
  obtain ⟨pattern, hmem, hoccurs⟩ := List.any_eq_true.1 hmatch
  obtain ⟨before, after, hempty⟩ := Text.occursIn_iff.1 hoccurs
  have hall : before ++ pattern.toList ++ after = [] := hempty.symm
  obtain ⟨hfront, -⟩ := List.append_eq_nil_iff.1 hall
  obtain ⟨-, hnil⟩ := List.append_eq_nil_iff.1 hfront
  exact benign.nonempty pattern hmem (String.toList_eq_nil_iff.1 hnil)

/-- A part is found in lower case when its sigmas end words as they do in the part alone. -/
lemma contains_lowercase_of_keepsWordEnds {before part after : String}
    (h : KeepsWordEnds before.toList part.toList after.toList) :
    Text.contains (Text.lowercase (before ++ part ++ after)) (Text.lowercase part) = true := by
  obtain ⟨rest, hplace⟩ := Text.lowerList_prefix_drop_iff.2 h
  rw [Text.contains, Text.occursIn_iff]
  refine ⟨(Text.lowerList (before ++ part ++ after).toList).take
    (Text.lowerList before.toList).length, rest, ?_⟩
  rw [Text.toList_lowercase, Text.toList_lowercase, List.append_assoc, hplace, String.toList_append,
    String.toList_append, List.take_append_drop]

/-! ### Configured patterns -/

/-- Trimming the texts of a list and leaving out the blank ones comes to the same patterns. -/
lemma ofList_trimmed (texts : List String) :
    ofList ((texts.map Text.trim).filter fun text => !text.toList.isEmpty) = ofList texts := by
  have hkept (p : String) : (Text.trim p).toList.isEmpty = Text.allBlank p := by
    rw [Bool.eq_iff_iff, List.isEmpty_iff, String.toList_eq_nil_iff, Text.trim_eq_empty_iff]
  induction texts with
  | nil => rfl
  | cons p texts ih =>
      simp only [ofList, BenignFailures.mk.injEq, List.map_cons, List.filter_cons, hkept,
        isEmpty_lowercase_trim] at ih ⊢
      cases hblank : Text.allBlank p with
      | true => exact ih
      | false =>
          simp only [Bool.not_false, if_true, List.map_cons, List.filter_cons, Text.trim_trim,
            isEmpty_lowercase_trim, hblank, ih]

/-- A configuration with the texts and commas between them gives the patterns of the texts. -/
lemma settings_benign {c : Config} (hraw : c.benignMessages = some (",".intercalate texts))
    (hcomma : ∀ p ∈ texts, ',' ∉ p.toList) : c.settings.benign = ofList texts := by
  have hbenign : c.settings.benign =
      ofList (((Text.pieces ',' (",".intercalate texts)).map Text.trim).filter
        fun text => !text.toList.isEmpty) := by
    simp only [Config.settings, Config.benignTexts, hraw, Option.map_some]
  rw [hbenign, ofList_trimmed]
  by_cases hne : texts = []
  · subst hne
    rfl
  · exact congrArg ofList (Text.pieces_intercalate hne hcomma)

/-- **A benign text is found in letters of either case.**  The patterns are given by a list of
texts, or by a configuration with commas between them.  A text is benign exactly when a pattern that
is not blank occurs in it, both in lower case.  So it is when the pattern stands in it as it was
given, without the white space at its ends and with ASCII letters of either case, as long as the
sigmas of the pattern end words as they do alone; and exactly then the pattern is found at this
place.  A pattern without a capital sigma is of this kind wherever it stands.  Blank patterns find
nothing, and with more patterns no less is found. -/
theorem benign_in_any_case (texts : List String) (benign : BenignFailures)
    (hbenign : benign = ofList texts ∨ ∃ c : Config,
      c.benignMessages = some (",".intercalate texts) ∧ (∀ p ∈ texts, ',' ∉ p.toList) ∧
        benign = c.settings.benign) :
    (∀ text, benign.isMatch text = true ↔ ∃ p ∈ texts, Text.allBlank p = false ∧
        Text.contains (Text.lowercase text) (Text.lowercase (Text.trim p)) = true) ∧
      (∀ p ∈ texts, Text.allBlank p = false → ∀ before after text,
        Text.eqIgnoringAsciiCase text (before ++ Text.trim p ++ after) = true →
        (KeepsWordEnds before.toList (Text.trim p).toList after.toList →
          benign.isMatch text = true) ∧
        (KeepsWordEnds before.toList (Text.trim p).toList after.toList ↔
          (Text.lowercase (Text.trim p)).toList <+:
            (Text.lowercase text).toList.drop (Text.lowercase before).toList.length) ∧
        ('Σ' ∉ p.toList → KeepsWordEnds before.toList (Text.trim p).toList after.toList)) ∧
      ((∀ p ∈ texts, Text.allBlank p = true) → ∀ text, benign.isMatch text = false) ∧
      ∀ more, texts ⊆ more → ∀ text, benign.isMatch text = true →
        (ofList more).isMatch text = true := by
  obtain rfl : benign = ofList texts := by
    rcases hbenign with rfl | ⟨c, hraw, hcomma, rfl⟩
    · rfl
    · exact settings_benign hraw hcomma
  refine ⟨fun text => isMatch_ofList_iff, ?_, fun hblank text => isMatch_of_blank hblank,
    fun more hsub text => isMatch_mono hsub⟩
  intro p hmem hblank before after text hcase
  have htext : Text.lowercase text = Text.lowercase (before ++ Text.trim p ++ after) :=
    Text.lowercase_of_eqIgnoringAsciiCase hcase
  rw [htext]
  refine ⟨fun hends => ?_, ?_, fun hsigma => Text.keepsWordEnds_of_not_mem fun hmem' => ?_⟩
  · rw [isMatch_ofList_iff, htext]
    exact ⟨p, hmem, hblank, contains_lowercase_of_keepsWordEnds hends⟩
  · rw [← Text.lowerList_prefix_drop_iff]
    simp only [Text.toList_lowercase, String.toList_append]
  · rw [Text.toList_trim] at hmem'
    exact hsigma (Text.mem_of_mem_trimList hmem')

/-- A configured pattern with a sigma at the end of a word: the array has written the Latin word in
other letters and has put a full stop behind the Greek one, where the word ends as well. -/
theorem benign_in_any_case_at_end_of_word :
    let texts := ["  ", " Error ΣΦΑΛΜΑΤΟΣ "]
    let c : Config := ⟨"http://array.example", "smc", "s3cret", "000197600123", none, "100", true,
      120, 3, 300, 3, 3, some (",".intercalate texts)⟩
    c.settings.benign.isMatch "job 7: eRRoR ΣΦΑΛΜΑΤΟΣ." = true ∧
      (ofList ["no-op", "  ", " Error ΣΦΑΛΜΑΤΟΣ "]).isMatch "job 7: eRRoR ΣΦΑΛΜΑΤΟΣ." = true ∧
      (ofList ["", "  "]).isMatch "job 7: eRRoR ΣΦΑΛΜΑΤΟΣ." = false := by
  intro texts c
  obtain ⟨-, hfound, -, hmore⟩ := benign_in_any_case texts c.settings.benign
    (.inr ⟨c, rfl, by decide, rfl⟩)
  have hmatch : c.settings.benign.isMatch "job 7: eRRoR ΣΦΑΛΜΑΤΟΣ." = true :=
    (hfound " Error ΣΦΑΛΜΑΤΟΣ " (by decide) (by decide) "job 7: " "." "job 7: eRRoR ΣΦΑΛΜΑΤΟΣ."
      (by decide +kernel)).1 (by decide +kernel)
  obtain ⟨-, -, hblank, -⟩ := benign_in_any_case ["", "  "] _ (.inl rfl)
  exact ⟨hmatch, hmore _ (by decide) _ hmatch, hblank (by decide) _⟩

/-- A pattern that ends in a sigma is not found in a text where a letter follows it, although it
stands there as it was given. -/
theorem not_isMatch_of_letter_behind_sigma :
    Text.contains "ΑΣΑ" (Text.trim "ΑΣ") = true ∧ Text.allBlank "ΑΣ" = false ∧
      (ofList ["ΑΣ"]).isMatch "ΑΣΑ" = false ∧
      ¬ KeepsWordEnds [] (Text.trim "ΑΣ").toList ['Α'] := by
  decide +kernel

end BenignFailures

end StorageArray
