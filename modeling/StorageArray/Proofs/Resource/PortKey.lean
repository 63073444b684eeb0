import Mathlib.Tactic.Common
import StorageArray.Resource.PortGroup
/-!
# Ports in their normal form

A port is written as its director and its port number around a colon.  `PortKey.IsNormal` says of
the two parts what reading establishes: the white space at their ends is gone, something is left of
each, and only the second can have a colon in it.

Such a key is read back from its text (`PortKey.ofText_text`): the director ends at the first colon,
and there is nothing more to trim.  So the normal keys are those that can be read at all.
-/

namespace StorageArray.PortKey

variable {s : String} {k : PortKey}

/-- Neither part is empty or has white space at its ends, and there is no colon in the director. -/
structure IsNormal (k : PortKey) : Prop where
  /-- The first colon of the text stands behind the director. -/
  colon_not_mem : ':' ∉ k.director.toList
  /-- There is a director. -/
  director_ne : k.director ≠ ""
  /-- There is a port. -/
  port_ne : k.port ≠ ""
  /-- Nothing is left to trim of the director. -/
  director_trimmed : Text.Trimmed k.director.toList
  /-- Nothing is left to trim of the port. -/
  port_trimmed : Text.Trimmed k.port.toList

/-- The text is a director and a port around its first colon, and neither of them is blank. -/
def Divides (s director port : String) : Prop :=
  s = director ++ ":" ++ port ∧ ':' ∉ director.toList ∧ Text.allBlank director = false ∧
    Text.allBlank port = false

/-- What is read is made of the parts of the text, without the white space around them. -/
lemma ofText_eq_ok_iff :
    ofText s = .ok k ↔
      ∃ director port, Divides s director port ∧ k = ⟨Text.trim director, Text.trim port⟩ := by
  unfold ofText Divides
  constructor
  · intro h
    split at h
    · rename_i director port hsplit
      obtain ⟨htext, hcolon⟩ := Text.splitFirst_eq_some_iff.1 hsplit
      split at h
      · cases h
      · rename_i hblank
        obtain ⟨hdirector, hport⟩ := Bool.or_eq_false_iff.1 (Bool.eq_false_iff.2 hblank)
        refine ⟨String.ofList director, String.ofList port, ⟨?_, ?_, ?_, ?_⟩, ?_⟩
        · apply String.toList_injective
          simp [htext]
        · simpa using hcolon
        · simpa [Text.allBlank] using hdirector
        · simpa [Text.allBlank] using hport
        · simpa [Text.trim] using (Except.ok.inj h).symm
    · cases h
  · rintro ⟨director, port, ⟨rfl, hcolon, hdirector, hport⟩, rfl⟩
    -- Without a colon in the director, the one behind it is the first.
    have hsplit : Text.splitFirst ':' (director ++ ":" ++ port).toList =
        some (director.toList, port.toList) :=
      Text.splitFirst_eq_some_iff.2 ⟨by simp, hcolon⟩
    unfold Text.allBlank at hdirector hport
    simp only [hsplit, hdirector, hport, Bool.or_self, Bool.false_eq_true, if_false]
    rfl

/-- A text that is not divided so is refused. -/
lemma ofText_of_not_divides (h : ¬ ∃ director port, Divides s director port) :
    ofText s = .error (.validation ("port key " ++ Text.quoted s ++ " is not director:port")) := by
  cases hread : ofText s with
  | ok k =>
      obtain ⟨director, port, hdivides, -⟩ := ofText_eq_ok_iff.1 hread
      exact absurd ⟨director, port, hdivides⟩ h
  | error e =>
      unfold ofText at hread
      split at hread
      · split at hread
        · exact hread.symm
        · cases hread
      · exact hread.symm

/-- What has been read is in normal form. -/
lemma isNormal_of_ofText (h : ofText s = .ok k) : k.IsNormal := by
  obtain ⟨director, port, ⟨-, hcolon, hdirector, hport⟩, rfl⟩ := ofText_eq_ok_iff.1 h
  refine ⟨?_, ?_, ?_, ?_, ?_⟩
  · intro hmem
    rw [Text.toList_trim] at hmem
    exact hcolon (Text.mem_of_mem_trimList hmem)
  · simp [Text.trim_eq_empty_iff, hdirector]
  · simp [Text.trim_eq_empty_iff, hport]
  · rw [Text.toList_trim]
    exact Text.trimmed_trimList _
  · rw [Text.toList_trim]
    exact Text.trimmed_trimList _

/-- A normal key is read back from its text. -/
lemma ofText_text (h : k.IsNormal) : ofText k.text = .ok k := by
  have hdirector : Text.trim k.director = k.director := Text.trim_eq_self_iff.2 h.director_trimmed
  have hport : Text.trim k.port = k.port := Text.trim_eq_self_iff.2 h.port_trimmed
  have hnotBlank {part : String} (htrim : Text.trim part = part) (hne : part ≠ "") :
      Text.allBlank part = false := by
    rw [Bool.eq_false_iff, ne_eq, ← Text.trim_eq_empty_iff, htrim]
    exact hne
  refine ofText_eq_ok_iff.2 ⟨k.director, k.port, ⟨rfl, h.colon_not_mem, ?_, ?_⟩, ?_⟩
  · exact hnotBlank hdirector h.director_ne
  · exact hnotBlank hport h.port_ne
  · rw [hdirector, hport]

lemma isNormal_iff : k.IsNormal ↔ ∃ s, ofText s = .ok k :=
  ⟨fun h => ⟨k.text, ofText_text h⟩, fun ⟨_, h⟩ => isNormal_of_ofText h⟩

/-- **Reading and printing a port are inverse on normal keys.**  A text is read exactly when it has
parts that are not blank before and behind its first colon; every other text is refused, and the
error quotes it.  What is read is in normal form.  The keys in normal form are those that are read
from some text, and each of them is read from its own; so two of them with one text are the same. -/
theorem ofText_reads_normal_keys (s : String) (k : PortKey) :
    (ofText s = .ok k ↔ ∃ director port, Divides s director port ∧
        k = ⟨Text.trim director, Text.trim port⟩) ∧
      ((¬ ∃ director port, Divides s director port) ↔ ofText s =
        .error (.validation ("port key " ++ Text.quoted s ++ " is not director:port"))) ∧
      (k.IsNormal ↔ ∃ t, ofText t = .ok k) ∧
      (k.IsNormal ↔ ofText k.text = .ok k) ∧
      (k.IsNormal → ∀ l : PortKey, l.IsNormal → k.text = l.text → k = l) := by
  refine ⟨ofText_eq_ok_iff, ⟨ofText_of_not_divides, ?_⟩, isNormal_iff,
    ⟨ofText_text, isNormal_of_ofText⟩, ?_⟩
  · rintro herror ⟨director, port, hdivides⟩
    have hok := ofText_eq_ok_iff.2 ⟨director, port, hdivides, rfl⟩
    rw [herror] at hok
    cases hok
  · intro hk l hl htext
    have hread := ofText_text hk
    rw [htext, ofText_text hl] at hread
    exact (Except.ok.inj hread).symm

/-- White space around both parts and a colon in the port: the key is read back from its own text,
and it is the one that is read from the text without the white space. -/
theorem ofText_reads_normal_keys_around_first_colon :
    let k : PortKey := ⟨"FA-1D", "4:5"⟩
    let l : PortKey := ⟨Text.trim "FA-1D", Text.trim "4:5"⟩
    ofText "FA-1D\t: 4:5 " = .ok k ∧ ofText "FA-1D:4:5" = .ok l ∧ k.IsNormal ∧ l.IsNormal ∧
      ofText k.text = .ok k ∧ k.text = l.text ∧ k = l := by
  intro k l
  obtain ⟨hread, -, hnormal, hback, hinj⟩ := ofText_reads_normal_keys "FA-1D\t: 4:5 " k
  obtain ⟨hread', -, hnormal', -, -⟩ := ofText_reads_normal_keys "FA-1D:4:5" l
  have hk : ofText "FA-1D\t: 4:5 " = .ok k :=
    hread.2 ⟨"FA-1D\t", " 4:5 ", ⟨by decide, by decide, by decide, by decide⟩, by decide⟩
  have hl : ofText "FA-1D:4:5" = .ok l :=
    hread'.2 ⟨"FA-1D", "4:5", ⟨by decide, by decide, by decide, by decide⟩, rfl⟩
  have htext : k.text = l.text := by decide
  exact ⟨hk, hl, hnormal.2 ⟨_, hk⟩, hnormal'.2 ⟨_, hl⟩, hback.1 (hnormal.2 ⟨_, hk⟩), htext,
    hinj (hnormal.2 ⟨_, hk⟩) l (hnormal'.2 ⟨_, hl⟩) htext⟩

end StorageArray.PortKey
