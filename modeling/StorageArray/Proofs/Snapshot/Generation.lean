import Mathlib.Data.List.Sort
import Mathlib.Tactic.Common
import StorageArray.Proofs.Listing.Request
import StorageArray.Proofs.Listing.Shape
import StorageArray.Proofs.Source
import StorageArray.Snapshot.Basic
/-!
# The generations of a snapshot

A listing of generations is read text by text, and each text has to denote a number
(`Generation.Denotes`).  The numbers are then sorted and repetitions dropped.  An ascending list is
determined by its members, so what a listing gives depends on the set of the numbers that it denotes
and on nothing else.
-/

namespace StorageArray

namespace Generation

/-! ### Numerals -/

/-- The text denotes the number: decimal digits, perhaps after a plus sign. -/
def Denotes (s : String) (g : UInt32) : Prop :=
  ∃ digits : List Char, digits ≠ [] ∧ (∀ d ∈ digits, d.isDigit = true) ∧
    (s.toList = digits ∨ s.toList = '+' :: digits) ∧ Nat.ofDigitChars 10 digits 0 = g.toNat

/-- The text denotes a number. -/
def IsNumeral (s : String) : Prop := ∃ g, Denotes s g

variable {s : String} {g : UInt32} {cs : List Char} {k n : Nat}

lemma le_ofDigitChars (k : Nat) (cs : List Char) : k ≤ Nat.ofDigitChars 10 cs k := by
  rw [Nat.ofDigitChars_eq_ofDigitChars_zero]
  exact (Nat.le_mul_of_pos_left k (Nat.pow_pos (by decide))).trans (Nat.le_add_right _ _)

/-- A number is continued as long as there are digits and it stays in its range; a number that has
left the range does not come back. -/
lemma readDigits_eq_ok_iff (hk : k < 4294967296) :
    readDigits k cs = .ok n ↔ (∀ d ∈ cs, d.isDigit = true) ∧ Nat.ofDigitChars 10 cs k = n ∧
      n < 4294967296 := by
  induction cs generalizing k with
  | nil =>
      simp only [readDigits, Except.ok.injEq, Nat.ofDigitChars_nil]
      constructor
      · rintro rfl
        exact ⟨nofun, rfl, hk⟩
      · exact fun h => h.2.1
  | cons d cs ih =>
      have hnext : 10 * k + (d.toNat - '0'.toNat) = k * 10 + (d.toNat - '0'.toNat) := by
        rw [Nat.mul_comm]
      rw [readDigits, Nat.ofDigitChars_cons, hnext, List.forall_mem_cons]
      split
      · rename_i hd
        simp only [hd, true_and]
        split
        · rename_i hlt
          exact ih hlt
        · -- The number has left its range, and no digit makes it smaller.
          rename_i hge
          refine iff_of_false nofun ?_
          rintro ⟨-, rfl, hlt⟩
          exact hge ((le_ofDigitChars _ cs).trans_lt hlt)
      · rename_i hd
        exact iff_of_false nofun fun h => hd h.1.1

lemma readDigits_plus (k : Nat) (cs : List Char) : readDigits k ('+' :: cs) = .error .notADigit :=
  rfl

/-- A plus sign is no digit, so at most one way of reading succeeds. -/
lemma read_eq_ok_iff :
    read cs = .ok n ↔ ∃ digits, digits ≠ [] ∧ (cs = digits ∨ cs = '+' :: digits) ∧
      readDigits 0 digits = .ok n := by
  unfold read
  split
  · refine iff_of_false nofun ?_
    rintro ⟨digits, hne, rfl | h, -⟩
    · exact hne rfl
    · cases h
  · refine iff_of_false nofun ?_
    rintro ⟨digits, hne, rfl | h, hread⟩
    · cases hread
    · exact hne (List.cons.inj h).2.symm
  · rename_i digits hne
    constructor
    · exact fun h => ⟨digits, hne, .inr rfl, h⟩
    · rintro ⟨digits', -, rfl | h, hread⟩
      · rw [readDigits_plus] at hread
        cases hread
      · obtain rfl := (List.cons.inj h).2
        exact hread
  · rename_i hempty hplus hsigned
    constructor
    · exact fun h => ⟨cs, hempty, .inl rfl, h⟩
    · rintro ⟨digits, -, rfl | h, hread⟩
      · exact hread
      · exact absurd h (hsigned digits)

/-- Exactly the texts that denote a number are read. -/
lemma ofText_eq_ok_iff : ofText s = .ok g ↔ Denotes s g := by
  have hmap : ofText s = .ok g ↔ ∃ n, read s.toList = .ok n ∧ UInt32.ofNat n = g := by
    unfold ofText
    cases read s.toList <;> simp [Except.map]
  rw [hmap]
  simp only [read_eq_ok_iff, readDigits_eq_ok_iff (k := 0) (by decide)]
  constructor
  · rintro ⟨n, ⟨digits, hne, hs, hdigits, rfl, hlt⟩, rfl⟩
    exact ⟨digits, hne, hdigits, hs, (UInt32.toNat_ofNat_of_lt hlt).symm⟩
  · rintro ⟨digits, hne, hdigits, hs, hvalue⟩
    exact ⟨g.toNat, ⟨digits, hne, hs, hdigits, hvalue, g.toNat_lt⟩, UInt32.ofNat_toNat⟩

lemma Denotes.unique {g' : UInt32} (h : Denotes s g) (h' : Denotes s g') : g = g' := by
  rw [← ofText_eq_ok_iff] at h h'
  rw [h] at h'
  exact Except.ok.inj h'

/-- The decimal digits of a number denote it. -/
lemma denotes_repr (g : UInt32) : Denotes (toString g.toNat) g :=
  ⟨Nat.toDigits 10 g.toNat, Nat.toDigits_ne_nil,
    fun _ hd => Nat.isDigit_of_mem_toDigits (by decide) (by decide) hd, .inl Nat.toList_repr,
    Nat.ofDigitChars_ten_toDigits⟩

/-! ### Ascending lists -/

section Runs

variable {a x : UInt32} {as acc : List UInt32}

lemma mem_eraseReps_loop :
    x ∈ List.eraseRepsBy.loop (· == ·) a as acc ↔ x ∈ acc ∨ x = a ∨ x ∈ as := by
  induction as generalizing a acc with
  | nil =>
      rw [List.eraseRepsBy.loop, List.mem_reverse, List.mem_cons]
      exact ⟨fun h => h.symm.imp_right .inl, fun h => (h.imp_right (·.resolve_right nofun)).symm⟩
  | cons b as ih =>
      rw [List.eraseRepsBy.loop, List.mem_cons]
      split
      · rename_i hab
        obtain rfl : a = b := beq_iff_eq.1 hab
        rw [ih]
        tauto
      · rw [ih, List.mem_cons]
        tauto

/-- When the first item of each run has been kept in order so far, this goes on. -/
lemma pairwise_eraseReps_loop (hsorted : (a :: as).Pairwise (· ≤ ·))
    (hacc : (acc.reverse ++ [a]).Pairwise (· < ·)) :
    (List.eraseRepsBy.loop (· == ·) a as acc).Pairwise (· < ·) := by
  induction as generalizing a acc with
  | nil =>
      rw [List.eraseRepsBy.loop, List.reverse_cons]
      exact hacc
  | cons b as ih =>
      obtain ⟨hle, hrest⟩ := List.pairwise_cons.1 hsorted
      rw [List.eraseRepsBy.loop]
      split
      · rename_i hab
        obtain rfl : a = b := beq_iff_eq.1 hab
        exact ih hrest hacc
      · -- The run of `a` ends here, so `a` is kept and stands before `b`.
        rename_i hab
        have hlt : a < b := UInt32.lt_of_le_of_ne (hle b List.mem_cons_self) (ne_of_beq_false hab)
        refine ih hrest ?_
        rw [List.reverse_cons]
        refine List.pairwise_append.2 ⟨hacc, List.pairwise_singleton _ _, fun x hx y hy => ?_⟩
        obtain rfl := List.mem_singleton.1 hy
        obtain hx | hx := List.mem_append.1 hx
        · exact UInt32.lt_trans ((List.pairwise_append.1 hacc).2.2 x hx a List.mem_cons_self) hlt
        · obtain rfl := List.mem_singleton.1 hx
          exact hlt

end Runs

variable {numbers : List UInt32}

lemma mem_canonical : g ∈ canonical numbers ↔ g ∈ numbers := by
  have hmem : g ∈ numbers.mergeSort ↔ g ∈ numbers := List.mem_mergeSort
  rw [← hmem, canonical, List.eraseReps]
  cases numbers.mergeSort with
  | nil => rfl
  | cons a as =>
      refine mem_eraseReps_loop.trans ?_
      rw [List.mem_cons]
      exact or_iff_right List.not_mem_nil

/-- The numbers ascend strictly. -/
lemma pairwise_canonical (numbers : List UInt32) : (canonical numbers).Pairwise (· < ·) := by
  have hsorted : numbers.mergeSort.Pairwise (· ≤ ·) := by
    have htrans (a b c : UInt32) (hab : decide (a ≤ b) = true) (hbc : decide (b ≤ c) = true) :
        decide (a ≤ c) = true :=
      decide_eq_true (UInt32.le_trans (of_decide_eq_true hab) (of_decide_eq_true hbc))
    have htotal (a b : UInt32) : (decide (a ≤ b) || decide (b ≤ a)) = true := by
      simpa using UInt32.le_total a b
    exact (List.pairwise_mergeSort htrans htotal numbers).imp of_decide_eq_true
  unfold canonical List.eraseReps
  cases hnumbers : numbers.mergeSort with
  | nil => exact .nil
  | cons a as =>
      rw [hnumbers] at hsorted
      exact pairwise_eraseReps_loop hsorted (List.pairwise_singleton _ _)

/-! ### Listings -/

variable {texts : List String}

lemma generationOf_eq_ok_iff : Snapshot.generationOf s = .ok g ↔ Denotes s g := by
  rw [← ofText_eq_ok_iff, Snapshot.generationOf]
  cases ofText s <;> simp [Except.mapError]

lemma generationOf_eq_error_iff {e : ArrayError} :
    Snapshot.generationOf s = .error e ↔ ∃ cause, ofText s = .error cause ∧
      e = .unexpectedResponse "snapshot generations" (Text.quoted s ++ ": " ++ cause.message) := by
  rw [Snapshot.generationOf]
  cases ofText s <;> simp [Except.mapError, eq_comm]

lemma mapM_generationOf_eq_ok_iff :
    texts.mapM Snapshot.generationOf = .ok numbers ↔ List.Forall₂ Denotes texts numbers := by
  rw [mapM_eq_ok_iff]
  simp only [generationOf_eq_ok_iff]

/-- The numbers that are read are those that the texts denote. -/
lemma mem_iff_of_forall₂ (h : List.Forall₂ Denotes texts numbers) :
    g ∈ numbers ↔ ∃ s ∈ texts, Denotes s g := by
  induction h with
  | nil => simp
  | @cons s n texts numbers hs _ ih =>
      have hhead : g = n ↔ Denotes s g := by
        constructor
        · rintro rfl
          exact hs
        · exact fun h => h.unique hs
      rw [List.mem_cons, List.exists_mem_cons_iff, hhead, ih]

/-- All texts are read exactly when all of them denote numbers. -/
lemma exists_forall₂_iff :
    (∃ numbers, List.Forall₂ Denotes texts numbers) ↔ ∀ s ∈ texts, IsNumeral s := by
  induction texts with
  | nil => simp
  | cons s texts ih =>
      rw [List.forall_mem_cons, ← ih]
      constructor
      · rintro ⟨_, _ | ⟨hs, h⟩⟩
        exact ⟨⟨_, hs⟩, _, h⟩
      · rintro ⟨⟨g, hs⟩, numbers, h⟩
        exact ⟨g :: numbers, .cons hs h⟩

/-- The value is a number, as a numeral or as a text that denotes it. -/
inductive Spells : Json → UInt32 → Prop
  | number (g : UInt32) : Spells (.nat g.toNat) g
  | text {s : String} {g : UInt32} (h : Denotes s g) : Spells (.string s) g

/-- A value that is a number is listed as a text that denotes it. -/
lemma Spells.exists_renders {value : Json} (h : Spells value g) :
    ∃ s, Listing.Renders value s ∧ Denotes s g := by
  cases h with
  | number => exact ⟨toString g.toNat, .number _, denotes_repr g⟩
  | text h => exact ⟨_, .text _, h⟩

lemma exists_texts_of_spells {values : List Json} (h : List.Forall₂ Spells values numbers) :
    ∃ texts, List.Forall₂ Listing.Renders values texts ∧ List.Forall₂ Denotes texts numbers := by
  induction h with
  | nil => exact ⟨[], .nil, .nil⟩
  | cons hvalue _ ih =>
      obtain ⟨s, hrenders, hdenotes⟩ := hvalue.exists_renders
      obtain ⟨texts, htexts, hnumbers⟩ := ih
      exact ⟨s :: texts, .cons hrenders htexts, .cons hdenotes hnumbers⟩

end Generation

namespace Client

open Generation (Denotes IsNumeral Spells)

variable {c : Client} {name : String} {source : VolumeId} {answer : Answer} {texts : List String}
  {t : Transcript} {r : Except ArrayError (List UInt32)}

/-- The request for the generations of a snapshot of a volume. -/
def generationsRequest (c : Client) (name : String) (source : VolumeId) : Request :=
  .get (c.sourcePath source ++ "/" ++ name ++ "/generation")

/-- The generations in an answer. -/
def generationsIn (c : Client) (name : String) (source : VolumeId) (answer : Answer) :
    Except ArrayError (List UInt32) :=
  (textsIn (c.generationsRequest name source) ⟨"snapshot", name⟩ "generation" answer).bind
    fun texts => (texts.mapM Snapshot.generationOf).map Generation.canonical

lemma yields_listGenerations_iff :
    (c.listGenerations name source).Yields t r ↔
      ∃ answer, t = [⟨c.site, c.generationsRequest name source, answer⟩] ∧
        r = c.generationsIn name source answer := by
  refine yields_fetch_listed_iff fun texts => ?_
  cases texts.mapM Snapshot.generationOf <;> rfl

lemma on_listGenerations :
    (c.listGenerations name source).on answer = c.generationsIn name source answer :=
  Operation.on_eq_of_yields (yields_listGenerations_iff.2 ⟨answer, rfl, rfl⟩)

lemma generationsIn_of_lists (h : answer.Lists "generation" texts) :
    c.generationsIn name source answer =
      (texts.mapM Snapshot.generationOf).map Generation.canonical := by
  rw [generationsIn, (textsIn_eq_ok_iff rfl).2 h]
  rfl

lemma generationsIn_eq_ok_iff (h : answer.Lists "generation" texts) {numbers : List UInt32} :
    c.generationsIn name source answer = .ok numbers ↔
      ∃ denoted, List.Forall₂ Denotes texts denoted ∧ numbers = Generation.canonical denoted := by
  rw [generationsIn_of_lists h]
  simp only [← Generation.mapM_generationOf_eq_ok_iff]
  cases texts.mapM Snapshot.generationOf <;> simp [Except.map, eq_comm]

lemma ascending_of_generationsIn (h : answer.Lists "generation" texts) {numbers : List UInt32}
    (hnumbers : c.generationsIn name source answer = .ok numbers) :
    numbers.Pairwise (· < ·) ∧ ∀ g, g ∈ numbers ↔ ∃ s ∈ texts, Denotes s g := by
  obtain ⟨denoted, hdenoted, rfl⟩ := (generationsIn_eq_ok_iff h).1 hnumbers
  refine ⟨Generation.pairwise_canonical denoted, fun g => ?_⟩
  rw [Generation.mem_canonical, Generation.mem_iff_of_forall₂ hdenoted]

lemma exists_generationsIn_iff (h : answer.Lists "generation" texts) :
    (∃ numbers, c.generationsIn name source answer = .ok numbers) ↔ ∀ s ∈ texts, IsNumeral s := by
  rw [← Generation.exists_forall₂_iff]
  simp only [generationsIn_eq_ok_iff h]
  constructor
  · rintro ⟨_, denoted, hdenoted, -⟩
    exact ⟨denoted, hdenoted⟩
  · rintro ⟨denoted, hdenoted⟩
    exact ⟨_, denoted, hdenoted, rfl⟩

/-- The first text that is no numeral is reported. -/
lemma generationsIn_of_not_isNumeral (h : answer.Lists "generation" texts)
    {before after : List String} {s : String} (htexts : texts = before ++ s :: after)
    (hbefore : ∀ s' ∈ before, IsNumeral s') (hs : ¬ IsNumeral s) :
    ∃ cause, Generation.ofText s = .error cause ∧ c.generationsIn name source answer =
      .error (.unexpectedResponse "snapshot generations"
        (Text.quoted s ++ ": " ++ cause.message)) := by
  cases hread : Generation.ofText s with
  | ok g => exact absurd ⟨g, Generation.ofText_eq_ok_iff.1 hread⟩ hs
  | error cause =>
      have herror : texts.mapM Snapshot.generationOf = .error (.unexpectedResponse
          "snapshot generations" (Text.quoted s ++ ": " ++ cause.message)) := by
        refine mapM_eq_error_iff.2 ⟨before, s, after, htexts, fun s' hs' => ?_, ?_⟩
        · obtain ⟨g, hg⟩ := hbefore s' hs'
          exact ⟨g, Generation.generationOf_eq_ok_iff.2 hg⟩
        · exact Generation.generationOf_eq_error_iff.2 ⟨cause, hread, rfl⟩
      refine ⟨cause, rfl, ?_⟩
      rw [generationsIn_of_lists h, herror]
      rfl

/-- Listings that denote the same numbers give the same. -/
lemma generationsIn_congr {answer' : Answer} {texts' : List String}
    (h : answer.Lists "generation" texts) (h' : answer'.Lists "generation" texts')
    (hall : ∀ s ∈ texts, IsNumeral s) (hall' : ∀ s ∈ texts', IsNumeral s)
    (hsame : ∀ g, (∃ s ∈ texts, Denotes s g) ↔ ∃ s ∈ texts', Denotes s g) :
    c.generationsIn name source answer = c.generationsIn name source answer' := by
  obtain ⟨numbers, hnumbers⟩ : ∃ numbers, c.generationsIn name source answer = .ok numbers :=
    (exists_generationsIn_iff h).2 hall
  obtain ⟨numbers', hnumbers'⟩ : ∃ numbers, c.generationsIn name source answer' = .ok numbers :=
    (exists_generationsIn_iff h').2 hall'
  obtain ⟨hascending, hmem⟩ := ascending_of_generationsIn h hnumbers
  obtain ⟨hascending', hmem'⟩ := ascending_of_generationsIn h' hnumbers'
  rw [hnumbers, hnumbers']
  -- An ascending list is determined by its members.
  refine congrArg _ (hascending.eq_of_mem_iff hascending' fun g => ?_)
  rw [hmem, hmem', hsame]

/-- Values that are numbers, in either shape and however they are written, give their numbers. -/
lemma generationsIn_of_spells {response : Response} {values : List Json} {numbers : List UInt32}
    (hsuccess : response.isSuccess = true)
    (hvalues : Listing.InEitherShape "generation" values response.body)
    (hnumbers : List.Forall₂ Spells values numbers) :
    c.generationsIn name source (.ok response) = .ok (Generation.canonical numbers) := by
  obtain ⟨texts, htexts, hdenotes⟩ := Generation.exists_texts_of_spells hnumbers
  have hlists : Answer.Lists (.ok response) "generation" texts :=
    ⟨response, rfl, hsuccess, hvalues.listed_eq_ok_iff.2 htexts⟩
  exact (generationsIn_eq_ok_iff hlists).2 ⟨numbers, hdenotes, rfl⟩

end Client

/-- **Generations are listed in a canonical form.**  A listing is one request, and when the answer
lists texts:

* the call succeeds exactly when all of them are numerals, digits that perhaps follow a plus sign
  and denote a number of 32 bits;
* the result then ascends strictly, and has a number exactly when one of the texts denotes it;
* otherwise the first text that is no numeral is reported.

So two listings that denote the same numbers give the same result; and so do two bodies that have
the same numbers as values, whatever their order, repetitions, shape and spelling. -/
theorem generations_listed_canonically (c : Client) (name : String) (source : VolumeId) :
    let request : Request := .get (c.sourcePath source ++ "/" ++ name ++ "/generation")
    let result := (c.listGenerations name source).on
    (∀ t r, (c.listGenerations name source).Yields t r ↔
      ∃ answer, t = [⟨c.site, request, answer⟩] ∧ r = result answer) ∧
    (∀ answer texts, Answer.Lists answer "generation" texts →
      ((∃ numbers, result answer = .ok numbers) ↔ ∀ s ∈ texts, Generation.IsNumeral s) ∧
      (∀ numbers, result answer = .ok numbers →
        numbers.Pairwise (· < ·) ∧ ∀ g, g ∈ numbers ↔ ∃ s ∈ texts, Generation.Denotes s g) ∧
      ∀ before s after, texts = before ++ s :: after →
        (∀ s' ∈ before, Generation.IsNumeral s') → ¬ Generation.IsNumeral s →
        ∃ cause, Generation.ofText s = .error cause ∧ result answer =
          .error (.unexpectedResponse "snapshot generations"
            (Text.quoted s ++ ": " ++ cause.message))) ∧
    (∀ answer answer' texts texts', Answer.Lists answer "generation" texts →
      Answer.Lists answer' "generation" texts' → (∀ s ∈ texts, Generation.IsNumeral s) →
      (∀ s ∈ texts', Generation.IsNumeral s) →
      (∀ g, (∃ s ∈ texts, Generation.Denotes s g) ↔ ∃ s ∈ texts', Generation.Denotes s g) →
      result answer = result answer') ∧
    ∀ (response response' : Response) values values' numbers numbers',
      response.isSuccess = true → response'.isSuccess = true →
      Listing.InEitherShape "generation" values response.body →
      Listing.InEitherShape "generation" values' response'.body →
      List.Forall₂ Generation.Spells values numbers →
      List.Forall₂ Generation.Spells values' numbers' → (∀ g, g ∈ numbers ↔ g ∈ numbers') →
      ∃ ascending, result (.ok response) = .ok ascending ∧ result (.ok response') = .ok ascending ∧
        ascending.Pairwise (· < ·) ∧ ∀ g, g ∈ ascending ↔ g ∈ numbers := by
  intro request result
  have hresult : result = c.generationsIn name source :=
    funext fun answer => Client.on_listGenerations
  rw [hresult]
  refine ⟨fun t r => Client.yields_listGenerations_iff, fun answer texts h => ?_,
    fun answer answer' texts texts' => Client.generationsIn_congr, ?_⟩
  · exact ⟨Client.exists_generationsIn_iff h, fun numbers => Client.ascending_of_generationsIn h,
      fun before s after => Client.generationsIn_of_not_isNumeral h⟩
  · intro response response' values values' numbers numbers' hsuccess hsuccess' hvalues hvalues'
      hnumbers hnumbers' hsame
    have hcanonical : Generation.canonical numbers' = Generation.canonical numbers := by
      refine (Generation.pairwise_canonical numbers').eq_of_mem_iff
        (Generation.pairwise_canonical numbers) fun g => ?_
      rw [Generation.mem_canonical, Generation.mem_canonical, hsame]
    refine ⟨Generation.canonical numbers, Client.generationsIn_of_spells hsuccess hvalues hnumbers,
      ?_, Generation.pairwise_canonical numbers, fun g => Generation.mem_canonical⟩
    rw [← hcanonical]
    exact Client.generationsIn_of_spells hsuccess' hvalues' hnumbers'

/-- Three generations in an array, one of them twice, and in an envelope in another order; and a
listing with two texts that are no numerals. -/
theorem generations_listed_canonically_in_both_shapes :
    let c : Client := ⟨.home, ⟨"000197600123"⟩, .default⟩
    let result := (c.listGenerations "daily" ⟨"0012A"⟩).on
    let values : List Json := [.string "007", .nat 0, .string "+7", .nat 12]
    let values' : List Json := [.nat 12, .nat 7, .string "0"]
    let flat : Response := ⟨200, .object [("generation", .array values)]⟩
    let enveloped : Response := ⟨200, Listing.envelopeOf "generation" values'⟩
    let unread : Response := ⟨200, .object [("generation", .strings ["3", "-1", "x"])]⟩
    result (.ok flat) = .ok [0, 7, 12] ∧ result (.ok enveloped) = .ok [0, 7, 12] ∧
      result (.ok unread) = .error (.unexpectedResponse "snapshot generations"
        (Text.quoted "-1" ++ ": " ++ Generation.ReadError.notADigit.message)) := by
  intro c result values values' flat enveloped unread
  obtain ⟨-, hlisting, -, hspelled⟩ := generations_listed_canonically c "daily" ⟨"0012A"⟩
  have hdenotes {s : String} {g : UInt32} (h : Generation.ofText s = .ok g) :
      Generation.Denotes s g := Generation.ofText_eq_ok_iff.1 h
  have hvalues : List.Forall₂ Generation.Spells values [7, 0, 7, 12] :=
    .cons (.text (hdenotes rfl)) <| .cons (.number 0) <| .cons (.text (hdenotes rfl)) <|
      .cons (.number 12) .nil
  have hvalues' : List.Forall₂ Generation.Spells values' [12, 7, 0] :=
    .cons (.number 12) <| .cons (.number 7) <| .cons (.text (hdenotes rfl)) .nil
  have hsame : ∀ g : UInt32, g ∈ [7, 0, 7, 12] ↔ g ∈ [12, 7, 0] := by
    intro g
    grind
  obtain ⟨ascending, hflat, henveloped, hascending, hmem⟩ := hspelled flat enveloped values values'
    [7, 0, 7, 12] [12, 7, 0] rfl rfl (.inl (Listing.plain_object _ _))
    (.inr (Listing.enveloped_envelopeOf _ _)) hvalues hvalues' hsame
  have hnumbers : ascending = [0, 7, 12] := by
    refine hascending.eq_of_mem_iff (by decide) fun g => (hmem g).trans ?_
    grind
  subst hnumbers
  have hlists : Answer.Lists (.ok unread) "generation" ["3", "-1", "x"] := ⟨unread, rfl, rfl, rfl⟩
  have hnot : ¬ Generation.IsNumeral "-1" := by
    rintro ⟨g, hg⟩
    cases Generation.ofText_eq_ok_iff.2 hg
  have hbefore : ∀ s ∈ ["3"], Generation.IsNumeral s := by
    intro s hs
    obtain rfl := List.mem_singleton.1 hs
    exact ⟨3, hdenotes rfl⟩
  obtain ⟨cause, hcause, herror⟩ :=
    (hlisting (.ok unread) _ hlists).2.2 ["3"] "-1" ["x"] rfl hbefore hnot
  cases hcause
  exact ⟨hflat, henveloped, herror⟩

end StorageArray
