import Mathlib.Tactic.Common
import StorageArray.Script
/-!
# Transcripts of programs

A run of a program leaves a transcript: the requests in the order in which they were sent,
each with its site and with the answer it got.  `p.Yields t a` says that `p`, given the
answers of `t`, sends exactly the requests of `t` and comes to the value `a`.  Nothing is
said about where the answers come from, so a statement about all transcripts is one about
all arrays and all scripts:

* `Program.yields_transcript`: a run against any source of answers leaves a transcript;
* `Program.Yields.unique`: the answers decide the value;
* `Program.Yields.transcript_of_offers`: scripts that hold the answers of a transcript make
  the program leave this transcript.

`yields_bind` cuts the transcript of a sequence into those of its parts; the proofs about
operations take a run apart with it.
-/

namespace StorageArray

/-- A request with its answer. -/
structure Exchange where
  /-- The site that got the request. -/
  site : Site
  /-- The request. -/
  request : Request
  /-- What came back. -/
  answer : Answer

/-- The exchanges of a run, in order. -/
abbrev Transcript := List Exchange

/-- The requests of a transcript, with their sites. -/
def Transcript.sent (t : Transcript) : List (Site × Request) :=
  t.map fun e => (e.site, e.request)

/-- The requests of a transcript that do more than read, with their sites. -/
def Transcript.changes (t : Transcript) : List (Site × Request) :=
  t.sent.filter fun x => x.2.method ≠ .get

/-- The exchanges with a site, in order. -/
def Transcript.exchangesAt (t : Transcript) (site : Site) : Transcript :=
  t.filter fun e => e.site = site

/-- The answers that a site gave, in order. -/
def Transcript.answersAt (t : Transcript) (site : Site) : List Answer :=
  (t.filter fun e => e.site = site).map (·.answer)

namespace Transcript

variable {t u : Transcript} {site : Site}

lemma changes_append (t u : Transcript) : (t ++ u).changes = t.changes ++ u.changes := by
  simp only [changes, sent, List.map_append, List.filter_append]

lemma changes_eq_nil_iff : t.changes = [] ↔ ∀ e ∈ t, e.request.method = .get := by
  simp [changes, sent, List.filter_eq_nil_iff]

lemma changes_flatMap {α : Type} (items : List α) (f : α → Transcript) :
    changes (items.flatMap f) = items.flatMap fun a => (f a).changes := by
  induction items with
  | nil => rfl
  | cons a items ih => rw [List.flatMap_cons, changes_append, ih, List.flatMap_cons]

end Transcript

namespace Program

variable {α β : Type}

/-- Given the answers of the transcript, the program sends its requests and comes to the
value. -/
inductive Yields : Program α → Transcript → α → Prop
  /-- A program that is done sends nothing. -/
  | done (a : α) : Yields (.done a) [] a
  /-- A program that sends a request goes on as the answer tells. -/
  | send {site : Site} {request : Request} {resume : Answer → Program α} (answer : Answer)
      {t : Transcript} {a : α} (rest : Yields (resume answer) t a) :
      Yields (.send site request resume) (⟨site, request, answer⟩ :: t) a

@[simp] lemma yields_done_iff {a b : α} {t : Transcript} :
    (done a).Yields t b ↔ t = [] ∧ b = a := by
  constructor
  · intro h
    cases h
    exact ⟨rfl, rfl⟩
  · rintro ⟨rfl, rfl⟩
    exact .done b

@[simp] lemma yields_send_iff {site : Site} {request : Request}
    {resume : Answer → Program α} {t : Transcript} {a : α} :
    (send site request resume).Yields t a ↔
      ∃ answer rest, t = ⟨site, request, answer⟩ :: rest ∧ (resume answer).Yields rest a := by
  constructor
  · intro h
    cases h with
    | send answer rest => exact ⟨answer, _, rfl, rest⟩
  · rintro ⟨answer, rest, rfl, h⟩
    exact .send answer h

/-- A program that is done after one answer leaves one exchange. -/
lemma yields_send_done_iff {site : Site} {request : Request} {f : Answer → α} {t : Transcript}
    {a : α} :
    (send site request fun answer => done (f answer)).Yields t a ↔
      ∃ answer, t = [⟨site, request, answer⟩] ∧ a = f answer := by
  rw [yields_send_iff]
  constructor
  · rintro ⟨answer, rest, rfl, h⟩
    obtain ⟨rfl, rfl⟩ := yields_done_iff.1 h
    exact ⟨answer, rfl, rfl⟩
  · rintro ⟨answer, rfl, rfl⟩
    exact ⟨answer, [], rfl, .done _⟩

/-- The transcript of a sequence is that of its first part, then that of its second. -/
lemma yields_bind {p : Program α} {f : α → Program β} {t : Transcript} {b : β} :
    (p.bind f).Yields t b ↔
      ∃ t₁ t₂ a, t = t₁ ++ t₂ ∧ p.Yields t₁ a ∧ (f a).Yields t₂ b := by
  induction p generalizing t with
  | done a =>
      constructor
      · intro h
        exact ⟨[], t, a, rfl, .done a, h⟩
      · rintro ⟨t₁, t₂, a', rfl, h₁, h₂⟩
        obtain ⟨rfl, rfl⟩ := yields_done_iff.1 h₁
        exact h₂
  | send site request resume ih =>
      rw [send_bind, yields_send_iff]
      constructor
      · rintro ⟨answer, rest, rfl, h⟩
        obtain ⟨t₁, t₂, a, rfl, h₁, h₂⟩ := (ih answer).1 h
        exact ⟨_ :: t₁, t₂, a, rfl, .send answer h₁, h₂⟩
      · rintro ⟨t₁, t₂, a, rfl, h₁, h₂⟩
        obtain ⟨answer, rest, rfl, h⟩ := yields_send_iff.1 h₁
        exact ⟨answer, rest ++ t₂, rfl, (ih answer).2 ⟨rest, t₂, a, rfl, h, h₂⟩⟩

/-- Two runs with the same answers, as far as both go, are the same run. -/
lemma Yields.eq_of_answers {p : Program α} {t t' : Transcript} {a a' : α}
    (h : p.Yields t a) (h' : p.Yields t' a')
    (heq : ∀ (i : Nat) (e e' : Exchange), t[i]? = some e → t'[i]? = some e' →
      e.answer = e'.answer) :
    t = t' ∧ a = a' := by
  induction h generalizing t' with
  | done a =>
      obtain ⟨rfl, rfl⟩ := yields_done_iff.1 h'
      exact ⟨rfl, rfl⟩
  | @send site request resume answer t a _ ih =>
      obtain ⟨answer', rest, rfl, hrest⟩ := yields_send_iff.1 h'
      have hanswer : answer = answer' := heq 0 _ _ rfl rfl
      subst hanswer
      obtain ⟨rfl, rfl⟩ := ih hrest fun i e e' he he' => heq (i + 1) e e' he he'
      exact ⟨rfl, rfl⟩

/-- The answers decide the value. -/
lemma Yields.unique {p : Program α} {t : Transcript} {a b : α} (ha : p.Yields t a)
    (hb : p.Yields t b) : a = b := by
  refine (ha.eq_of_answers hb fun i e e' he he' => ?_).2
  rw [he] at he'
  cases he'
  rfl

/-- A run that begins like another one is that run. -/
lemma Yields.eq_of_append_eq {p : Program α} {t t' u u' : Transcript} {a a' : α}
    (h : p.Yields t a) (h' : p.Yields t' a') (heq : t ++ u = t' ++ u') : t = t' ∧ a = a' := by
  refine h.eq_of_answers h' fun i e e' he he' => ?_
  have hleft : (t ++ u)[i]? = some e := by
    rw [List.getElem?_append_left (List.getElem?_eq_some_iff.1 he).1, he]
  have hright : (t' ++ u')[i]? = some e' := by
    rw [List.getElem?_append_left (List.getElem?_eq_some_iff.1 he').1, he']
  rw [heq, hright] at hleft
  cases hleft
  rfl

/-! ### Runs against a source of answers -/

section Source

variable {σ : Type} (answerer : Answerer σ)

/-- The transcript that a run against a source of answers leaves. -/
def transcript : Program α → σ → Transcript
  | .done _, _ => []
  | .send site request resume, s =>
    let (answer, s) := answerer site request s
    ⟨site, request, answer⟩ :: (resume answer).transcript s

/-- Every run leaves a transcript, and the transcript leads to its value. -/
lemma yields_transcript (p : Program α) (s : σ) :
    p.Yields (p.transcript answerer s) (p.run answerer s).1 := by
  induction p generalizing s with
  | done a => exact .done a
  | send site request resume ih => exact .send _ (ih _ _)

/-- The trace of a run is its value and the requests of its transcript. -/
lemma trace_eq (p : Program α) (s : σ) :
    p.trace answerer s =
      ((p.run answerer s).1, (p.transcript answerer s).sent, (p.run answerer s).2) := by
  induction p generalizing s with
  | done a => rfl
  | send site request resume ih => simp [trace, run, transcript, Transcript.sent, ih]

end Source

/-! ### Runs against a sequence of answers -/

/-- Answers in order, whatever the requests; the state counts the answers given. -/
def sequence (answers : Nat → Answer) : Answerer Nat := fun _ _ n => (answers n, n + 1)

/-- A transcript with answers of the sequence is the one that a run against it leaves. -/
lemma Yields.trace_sequence {p : Program α} {t : Transcript} {a : α} (h : p.Yields t a)
    {answers : Nat → Answer} {n : Nat}
    (heq : ∀ (i : Nat) (e : Exchange), t[i]? = some e → e.answer = answers (n + i)) :
    p.trace (sequence answers) n = (a, t.sent, n + t.length) := by
  induction h generalizing n with
  | done a => rfl
  | @send site request resume answer t a _ ih =>
      have hanswer : answer = answers n := heq 0 _ rfl
      have hrest := ih (n := n + 1) fun i e he => by
        rw [heq (i + 1) e he]
        congr 1
        omega
      subst hanswer
      have hnext : sequence answers site request n = (answers n, n + 1) := rfl
      simp only [trace, hnext, hrest, Transcript.sent, List.map_cons, List.length_cons,
        Prod.mk.injEq, true_and]
      omega

/-- What is left of a program after some answers. -/
def after : Program α → List Answer → Program α
  | p, [] => p
  | .done a, _ => .done a
  | .send _ _ resume, answer :: rest => (resume answer).after rest

@[simp] lemma after_nil (p : Program α) : p.after [] = p := by
  cases p <;> rfl

@[simp] lemma after_send_cons (site : Site) (request : Request) (resume : Answer → Program α)
    (answer : Answer) (rest : List Answer) :
    (send site request resume).after (answer :: rest) = (resume answer).after rest := rfl

lemma after_append (p : Program α) (answers rest : List Answer) :
    p.after (answers ++ rest) = (p.after answers).after rest := by
  induction answers generalizing p with
  | nil => simp
  | cons answer answers ih =>
      cases p with
      | done a => cases rest <;> rfl
      | send site request resume => exact ih _

end Program

namespace Stage

/-- The scripts begin with the answers of a transcript, each at its site. -/
def Offers (s : Stage) (t : Transcript) : Prop :=
  ∀ site, t.answersAt site <+: (s.script site).queued

lemma answer_fst (s : Stage) (site : Site) (request : Request) :
    (Stage.answer site request s).1 = ((s.script site).answer request).1 := rfl

lemma script_answer_snd (s : Stage) (site site' : Site) (request : Request) :
    (Stage.answer site request s).2.script site' =
      if site' = site then ((s.script site).answer request).2 else s.script site' := by
  cases site <;> cases site' <;> rfl

/-- A stage that offers an exchange answers its request so, and goes on to offer the rest. -/
lemma Offers.answer {s : Stage} {e : Exchange} {t : Transcript} (h : s.Offers (e :: t)) :
    (Stage.answer e.site e.request s).1 = e.answer ∧
      (Stage.answer e.site e.request s).2.Offers t := by
  obtain ⟨rest, hrest⟩ := h e.site
  have hqueue : (s.script e.site).queued = e.answer :: (t.answersAt e.site ++ rest) := by
    rw [← hrest]
    simp [Transcript.answersAt]
  have hanswer : (s.script e.site).answer e.request =
      (e.answer, { s.script e.site with queued := t.answersAt e.site ++ rest }) := by
    simp only [Script.answer, hqueue]
  refine ⟨by rw [answer_fst, hanswer], fun site => ?_⟩
  rw [script_answer_snd, hanswer]
  -- Only the script of the site that was asked is one answer shorter.
  by_cases hsite : site = e.site
  · subst hsite
    simp
  · rw [if_neg hsite]
    have hother := h site
    have hne : e.site ≠ site := fun heq => hsite heq.symm
    simpa [Transcript.answersAt, hne] using hother

end Stage

namespace Program

variable {α : Type}

/-- On scripts that hold the answers of a transcript, the program leaves this transcript and
comes to its value. -/
lemma Yields.transcript_of_offers {p : Program α} {t : Transcript} {a : α} {s : Stage}
    (h : p.Yields t a) (hs : s.Offers t) :
    p.transcript Stage.answer s = t ∧ (p.run Stage.answer s).1 = a := by
  induction h generalizing s with
  | done a => exact ⟨rfl, rfl⟩
  | @send site request resume answer t a _ ih =>
      obtain ⟨hanswer, hrest⟩ := hs.answer
      obtain ⟨ht, ha⟩ := ih hrest
      simp only at hanswer ht ha
      simp only [transcript, run, hanswer]
      exact ⟨by rw [ht], ha⟩

end Program

end StorageArray
