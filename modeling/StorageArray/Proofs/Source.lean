import Mathlib.Tactic.Common
import StorageArray.Proofs.Job.Settlement
/-!
# Transcripts with a source of answers

A transcript comes about with a source of answers when its answers are those that the source
gives, one after the other.  Between the source and the program answers can be lost:
`Program.Answered` leaves room for faults that arrive in place of an answer, whether or not the
request took effect.  Without faults this is `Program.Served`, and a program that is served comes to
the value of its run against the source (`Program.Served.run_eq`).

A change that is carried out without faults is settled by a transcript with the source:
`Client.SettledBy`.  Whatever becomes of a change, the state of the source after it is reached
through at most one request for the change and any number of polls
(`Program.Answered.invariant_of_execute`).
-/

namespace StorageArray

namespace Program

variable {σ α : Type}

/-- The answers of the transcript are those of the source, or faults in their place; the source goes
from the first state to the second. -/
inductive Answered (answerer : Answerer σ) (fault : Answer → Prop) : Transcript → σ → σ → Prop
  /-- Nothing is sent. -/
  | nil (s : σ) : Answered answerer fault [] s s
  /-- The answer of the source arrives. -/
  | served {site : Site} {request : Request} {t : Transcript} {s s' : σ}
      (rest : Answered answerer fault t (answerer site request s).2 s') :
    Answered answerer fault (⟨site, request, (answerer site request s).1⟩ :: t) s s'
  /-- The request is lost. -/
  | lost {site : Site} {request : Request} {answer : Answer} {t : Transcript} {s s' : σ}
      (hfault : fault answer) (rest : Answered answerer fault t s s') :
    Answered answerer fault (⟨site, request, answer⟩ :: t) s s'
  /-- The request takes effect, and the answer is lost. -/
  | replaced {site : Site} {request : Request} {answer : Answer} {t : Transcript} {s s' : σ}
      (hfault : fault answer) (rest : Answered answerer fault t (answerer site request s).2 s') :
    Answered answerer fault (⟨site, request, answer⟩ :: t) s s'

/-- All answers of the transcript are those of the source. -/
def Served (answerer : Answerer σ) : Transcript → σ → σ → Prop :=
  Answered answerer fun _ => False

variable {answerer : Answerer σ} {fault : Answer → Prop} {t u : Transcript} {s s' s'' : σ}

lemma Answered.append (ht : Answered answerer fault t s s')
    (hu : Answered answerer fault u s' s'') : Answered answerer fault (t ++ u) s s'' := by
  induction ht with
  | nil s => exact hu
  | served rest ih => exact .served (ih hu)
  | lost hfault rest ih => exact .lost hfault (ih hu)
  | replaced hfault rest ih => exact .replaced hfault (ih hu)

lemma Answered.of_serve {site : Site} {request : Request} {answer : Answer}
    (hserve : answerer site request s = (answer, s')) (rest : Answered answerer fault t s' s'') :
    Answered answerer fault (⟨site, request, answer⟩ :: t) s s'' := by
  have hanswer : (answerer site request s).1 = answer := congrArg Prod.fst hserve
  have hnext : (answerer site request s).2 = s' := congrArg Prod.snd hserve
  rw [← hanswer]
  rw [← hnext] at rest
  exact .served rest

/-- Between two parts of a transcript the source is in some state. -/
lemma Answered.of_append (h : Answered answerer fault (t ++ u) s s'') :
    ∃ s', Answered answerer fault t s s' ∧ Answered answerer fault u s' s'' := by
  induction t generalizing s with
  | nil => exact ⟨s, .nil s, h⟩
  | cons e t ih =>
      cases h with
      | served rest =>
          obtain ⟨s', h₁, h₂⟩ := ih rest
          exact ⟨s', .served h₁, h₂⟩
      | lost hfault rest =>
          obtain ⟨s', h₁, h₂⟩ := ih rest
          exact ⟨s', .lost hfault h₁, h₂⟩
      | replaced hfault rest =>
          obtain ⟨s', h₁, h₂⟩ := ih rest
          exact ⟨s', .replaced hfault h₁, h₂⟩

/-- What every request of the transcript preserves is true at its end. -/
lemma Answered.invariant (h : Answered answerer fault t s s') {P : σ → Prop} (hs : P s)
    (hstep : ∀ e ∈ t, ∀ s, P s → P (answerer e.site e.request s).2) : P s' := by
  induction h with
  | nil s => exact hs
  | served rest ih =>
      exact ih (hstep _ List.mem_cons_self _ hs) fun e he => hstep e (List.mem_cons_of_mem _ he)
  | lost hfault rest ih => exact ih hs fun e he => hstep e (List.mem_cons_of_mem _ he)
  | replaced hfault rest ih =>
      exact ih (hstep _ List.mem_cons_self _ hs) fun e he => hstep e (List.mem_cons_of_mem _ he)

/-- The first request of a transcript may take effect; those after it are sent to the state that is
then reached. -/
lemma Answered.invariant_of_cons {e : Exchange} (h : Answered answerer fault (e :: t) s s')
    {P : σ → Prop} (hkept : P s) (hdone : P (answerer e.site e.request s).2)
    (hstep : ∀ e ∈ t, ∀ s, P s → P (answerer e.site e.request s).2) : P s' := by
  cases h with
  | served rest => exact rest.invariant hdone hstep
  | lost hfault rest => exact rest.invariant hkept hstep
  | replaced hfault rest => exact rest.invariant hdone hstep

namespace Served

lemma cons {site : Site} {request : Request}
    (h : Served answerer t (answerer site request s).2 s') :
    Served answerer (⟨site, request, (answerer site request s).1⟩ :: t) s s' :=
  Answered.served h

/-- The first answer is the one that the source gives in its first state. -/
lemma of_cons {site : Site} {request : Request} {answer : Answer}
    (h : Served answerer (⟨site, request, answer⟩ :: t) s s') :
    answer = (answerer site request s).1 ∧ Served answerer t (answerer site request s).2 s' := by
  cases h with
  | served rest => exact ⟨rfl, rest⟩
  | lost hfault rest => exact hfault.elim
  | replaced hfault rest => exact hfault.elim

/-- A run against the source is served. -/
lemma of_run (p : Program α) (s : σ) :
    Served answerer (p.transcript answerer s) s (p.run answerer s).2 := by
  induction p generalizing s with
  | done a => exact .nil s
  | send site request resume ih => exact .cons (ih _ _)

/-- A program that is served is the program that runs against the source. -/
lemma run_eq {p : Program α} {a : α} (hp : p.Yields t a) (h : Served answerer t s s') :
    p.run answerer s = (a, s') := by
  induction hp generalizing s with
  | done a =>
      cases h with
      | nil s => rfl
  | send answer rest ih =>
      obtain ⟨rfl, hrest⟩ := h.of_cons
      exact ih hrest

lemma transcript_eq {p : Program α} {a : α} (hp : p.Yields t a) (h : Served answerer t s s') :
    p.transcript answerer s = t := by
  induction hp generalizing s with
  | done a => rfl
  | send answer rest ih =>
      obtain ⟨rfl, hrest⟩ := h.of_cons
      exact congrArg (_ :: ·) (ih hrest)

end Served

end Program

/-- What an operation makes of an answer is its result in a run with this answer only. -/
lemma Operation.on_eq_of_yields {α : Type} {op : Operation α} {site : Site} {request : Request}
    {answer : Answer} {r : Except ArrayError α} (h : op.Yields [⟨site, request, answer⟩] r) :
    op.on answer = r := by
  have hserved : Program.Served (fun _ _ _ => (answer, ())) [⟨site, request, answer⟩] () () :=
    .cons (.nil ())
  exact congrArg Prod.fst (hserved.run_eq h)

namespace Client

variable {σ : Type} {c : Client} {answerer : Program.Answerer σ} {request : Request} {s : σ}

/-- The source settles the change with this result, when no answer is lost: at once, by a job that
has ended, or by a job that ends before the deadline. -/
def SettledBy (c : Client) (answerer : Program.Answerer σ) (request : Request) (s : σ)
    (result : Except ArrayError Unit) : Prop :=
  ∃ t s', c.Settles request t result ∧ Program.Served answerer t s s'

/-- A change that is confirmed is settled. -/
lemma SettledBy.of_confirms {response : Response}
    (hanswer : (answerer c.site request s).1 = .ok response) (h : response.Confirms) :
    c.SettledBy answerer request s (.ok ()) := by
  have hserved : Program.Served answerer [⟨c.site, request, .ok response⟩] s
      (answerer c.site request s).2 := by
    rw [← hanswer]
    exact .cons (.nil _)
  exact ⟨_, _, .atOnce h, hserved⟩

/-- A change that is deferred to a job is settled when the first poll says that the job has
ended. -/
lemma SettledBy.of_first_poll {response : Response} {handle job : JobRecord}
    (hanswer : (answerer c.site request s).1 = .ok response) (hdefers : response.Defers handle)
    (hgoesOn : handle.status.isTerminal = false)
    (hpoll : (c.getJob handle.id).on
      (answerer c.site (c.pollRequest handle.id) (answerer c.site request s).2).1 = .ok job)
    (hended : job.status.isTerminal = true) : c.SettledBy answerer request s job.verdict := by
  let polled := (answerer c.site (c.pollRequest handle.id) (answerer c.site request s).2).1
  have hdecisive : Poll.Decisive c.settings.maxPollRetries
      (c.pollResults handle.id fun _ => polled) 0 := by
    simp only [Poll.Decisive, pollResults, polled, hpoll]
    exact hended
  have hserved : Program.Served answerer
      (⟨c.site, request, .ok response⟩ :: c.polls handle.id (fun _ => polled) 0 1) s
      (answerer c.site (c.pollRequest handle.id) (answerer c.site request s).2).2 := by
    rw [← hanswer]
    exact .cons (.cons (.nil _))
  exact ⟨_, _, .byPoll hdefers hgoesOn hdecisive.firstDecisive (Nat.zero_le _) hpoll, hserved⟩

end Client

namespace Program

variable {σ : Type} {c : Client} {request : Request} {subject : Subject} {t : Transcript}
  {r : Except ArrayError Unit} {answerer : Answerer σ} {fault : Answer → Prop} {s s' : σ}

/-- Whether or not the request of a change took effect, and however the change has ended: what is
true in either case and is not touched by polls is true after it. -/
lemma Answered.invariant_of_execute (h : Answered answerer fault t s s')
    (hrun : (c.execute request subject).Yields t r) {P : σ → Prop} (hkept : P s)
    (hdone : P (answerer c.site request s).2)
    (hpoll : ∀ job s, P s → P (answerer c.site (c.pollRequest job) s).2) : P s' := by
  obtain ⟨answer, job, answers, n, rfl⟩ := Client.shape_of_yields_execute hrun
  refine h.invariant_of_cons hkept hdone fun e he s hs => ?_
  obtain ⟨i, -, rfl⟩ := Client.mem_polls_iff.1 he
  exact hpoll job s hs

/-- Without faults the request of a change takes effect. -/
lemma Served.invariant_of_execute (h : Served answerer t s s')
    (hrun : (c.execute request subject).Yields t r) {P : σ → Prop}
    (hdone : P (answerer c.site request s).2)
    (hpoll : ∀ job s, P s → P (answerer c.site (c.pollRequest job) s).2) : P s' := by
  obtain ⟨answer, job, answers, n, rfl⟩ := Client.shape_of_yields_execute hrun
  refine h.of_cons.2.invariant hdone fun e he s hs => ?_
  obtain ⟨i, -, rfl⟩ := Client.mem_polls_iff.1 he
  exact hpoll job s hs

end Program

end StorageArray
