import Mathlib.Tactic.Common
import StorageArray.Proofs.Resource.Protocol
/-!
# Polls that a gateway answers

A gateway in front of the array answers a poll itself, with one of the statuses 502 to 504, when the
array does not.  Such an answer says nothing about the job, and the wait tolerates some of them in a
row.  It knows them by the error that the answer is taken for, and this depends on the page that
comes with the status: a page that says that something exists already is taken for a conflict,
which no wait tolerates and which a creator takes for the sign of a faster one.

`GatewayPoll` is a poll that should be tolerated, and `GatewayPoll.decisive_iff` says when it is
not.
-/

namespace StorageArray

open Poll (Decisive FirstDecisive failuresBefore)

/-- A wait comes to poll `i` before its deadline, fewer transient failures than are tolerated stand
directly before this poll, and a gateway answers it. -/
structure GatewayPoll (c : Client) (job : JobId) (answers : Nat → Answer) (i : Nat)
    (response : Response) : Prop where
  /-- No poll before this one ends the wait. -/
  reached : ∀ j < i, ¬ Decisive c.settings.maxPollRetries (c.pollResults job answers) j
  /-- The deadline is not before this poll. -/
  in_time : i ≤ c.settings.lastPoll
  /-- One more failure is tolerated. -/
  tolerated : failuresBefore (c.pollResults job answers) i < c.settings.maxPollRetries
  /-- The poll is answered. -/
  answered : answers i = .ok response
  /-- The status is one of a gateway. -/
  status : 502 ≤ response.status ∧ response.status ≤ 504

namespace GatewayPoll

variable {c : Client} {job : JobId} {answers : Nat → Answer} {i : Nat} {response : Response}

lemma pollResults_eq (h : GatewayPoll c job answers i response) :
    c.pollResults job answers i = .error (Reply.refusal ⟨"job", job.text⟩ response) := by
  have hrefused : response.isSuccess = false := by
    have hstatus := h.status
    simp only [Response.isSuccess, Bool.and_eq_false_iff, decide_eq_false_iff_not]
    omega
  rw [Client.pollResults, h.answered, Client.getJob, Client.on_read,
    Client.valueIn_of_not_isSuccess hrefused]

/-- A page that says that something exists already makes a conflict of the answer. -/
lemma pollResults_of_saysExists (h : GatewayPoll c job answers i response)
    (hexists : Reply.SaysExists (Reply.refusalText response.body)) :
    c.pollResults job answers i =
      .error (.conflict "job" job.text (Reply.refusalText response.body)) := by
  have hmissing : response.status ≠ 404 := by
    have hstatus := h.status
    omega
  rw [h.pollResults_eq, Reply.refusal_of_conflict hmissing (.inr hexists)]

/-- With every other page the answer keeps its status. -/
lemma pollResults_of_not_saysExists (h : GatewayPoll c job answers i response)
    (hexists : ¬ Reply.SaysExists (Reply.refusalText response.body)) :
    c.pollResults job answers i =
      .error (.rejected response.status (Reply.refusalText response.body)) := by
  have hstatus := h.status
  rw [h.pollResults_eq, Reply.refusal_of_rejected (by omega) (by omega) hexists]

lemma isTransient_iff (h : GatewayPoll c job answers i response) :
    Poll.isTransient (c.pollResults job answers i) = true ↔
      ¬ Reply.SaysExists (Reply.refusalText response.body) := by
  by_cases hexists : Reply.SaysExists (Reply.refusalText response.body)
  · simp [h.pollResults_of_saysExists hexists, Poll.isTransient, ArrayError.isTransient, hexists]
  · simp [h.pollResults_of_not_saysExists hexists, Poll.isTransient, ArrayError.isTransient,
      hexists, h.status]

/-- The answer of a gateway ends a wait by its page, never by its status. -/
lemma decisive_iff (h : GatewayPoll c job answers i response) :
    Decisive c.settings.maxPollRetries (c.pollResults job answers) i ↔
      Reply.SaysExists (Reply.refusalText response.body) := by
  unfold Decisive
  by_cases hexists : Reply.SaysExists (Reply.refusalText response.body)
  · simp [h.pollResults_of_saysExists hexists, ArrayError.isTransient, hexists]
  · have hfew := h.tolerated
    have htransient := h.isTransient_iff.2 hexists
    rw [h.pollResults_of_not_saysExists hexists] at htransient ⊢
    simp only [← Poll.le_failuresBefore_iff, hexists, iff_false]
    intro hmany
    exact absurd (hmany htransient) (by omega)

/-- A wait ends with the answer of a gateway in two cases: with the conflict that its page makes of
it, or because the deadline has come. -/
lemma yields_wait_iff (h : GatewayPoll c job answers i response)
    {r : Except ArrayError JobRecord} :
    (c.waitOnJob job).Yields (c.polls job answers 0 (i + 1)) r ↔
      Reply.SaysExists (Reply.refusalText response.body) ∧
          r = .error (.conflict "job" job.text (Reply.refusalText response.body)) ∨
        ¬ Reply.SaysExists (Reply.refusalText response.body) ∧ i = c.settings.lastPoll ∧
          r = .error (.timeout job c.settings.jobTimeout) := by
  by_cases hexists : Reply.SaysExists (Reply.refusalText response.body)
  · have hwait := Client.yields_waitOnJob_of_firstDecisive
      ⟨h.decisive_iff.2 hexists, h.reached⟩ h.in_time
    rw [h.pollResults_of_saysExists hexists] at hwait
    simp only [hexists, true_and, not_true_eq_false, false_and, or_false]
    constructor
    · intro hyields
      exact hyields.unique hwait
    · rintro rfl
      exact hwait
  · have hgoesOn : ∀ j < i + 1,
        ¬ Decisive c.settings.maxPollRetries (c.pollResults job answers) j := by
      intro j hj
      rcases Nat.lt_succ_iff_lt_or_eq.1 hj with hlt | rfl
      · exact h.reached j hlt
      · exact fun hdecisive => hexists (h.decisive_iff.1 hdecisive)
    simp only [hexists, false_and, not_false_eq_true, true_and, false_or]
    rcases Nat.lt_or_eq_of_le h.in_time with hearly | rfl
    · have hnot := Client.not_yields_polls (r := r) hgoesOn hearly
      simp only [hnot, false_iff, not_and]
      intro hlast
      omega
    · have hwait := Client.yields_waitOnJob_of_deadline fun j hj =>
        hgoesOn j (Nat.lt_succ_of_le hj)
      simp only [true_and]
      constructor
      · intro hyields
        exact hyields.unique hwait
      · rintro rfl
        exact hwait

/-- A creation that ends with the answer of a gateway is taken for a race exactly by its page. -/
lemma raced_iff (h : GatewayPoll c job answers i response) {request : Request} {subject : Subject}
    (hm : request.method ≠ .get) {accepted : Response} {handle : JobRecord}
    (hdefers : accepted.Defers handle) (hjob : handle.id = job)
    (hgoesOn : handle.status.isTerminal = false) {attempt : CreationAttempt}
    (hexchanges : attempt.exchanges =
      ⟨c.site, request, .ok accepted⟩ :: c.polls job answers 0 (i + 1))
    (hrun : (c.execute request subject).Yields attempt.exchanges attempt.result) :
    attempt.Raced ↔ Reply.SaysExists (Reply.refusalText response.body) := by
  subst hjob
  rw [hexchanges, Client.yields_execute_iff] at hrun
  obtain ⟨answer, rest, hcons, hrest⟩ := hrun
  simp only [List.cons.injEq, Exchange.mk.injEq, true_and] at hcons
  obtain ⟨rfl, rfl⟩ := hcons
  rw [Reply.ofAnswer_of_defers hm hdefers] at hrest
  simp only [JobRecord.outcome?_of_not_terminal hgoesOn] at hrest
  obtain ⟨q, hwait, hresult⟩ := hrest
  rcases h.yields_wait_iff.1 hwait with ⟨hexists, rfl⟩ | ⟨hexists, -, rfl⟩
  · exact iff_of_true (.inl ⟨_, _, _, hresult⟩) hexists
  · rw [CreationAttempt.raced_iff hresult]
    simp [ArrayError.isCreateRace, hexists]

end GatewayPoll

/-- **When the answer of a gateway is tolerated.**  Let a wait come to a poll that a gateway
answers, while more failures in a row are tolerated.  The answer is transient exactly when its page
does not say that something exists already.  With such a page the wait ends at once with a conflict,
and a creation that waits is taken for a race; with any other page the wait ends only if the
deadline has come, and then with a timeout, and no race is seen.  In the runs every wait has a
deadline, and polls take no time. -/
theorem gatewayPoll_tolerated (c : Client) (job : JobId) (answers : Nat → Answer) {i : Nat}
    {response : Response} (h : GatewayPoll c job answers i response) :
    (Poll.isTransient (c.pollResults job answers i) = true ↔
        ¬ Reply.SaysExists (Reply.refusalText response.body)) ∧
      (∀ r, (c.waitOnJob job).Yields (c.polls job answers 0 (i + 1)) r ↔
        Reply.SaysExists (Reply.refusalText response.body) ∧
            r = .error (.conflict "job" job.text (Reply.refusalText response.body)) ∨
          ¬ Reply.SaysExists (Reply.refusalText response.body) ∧ i = c.settings.lastPoll ∧
            r = .error (.timeout job c.settings.jobTimeout)) ∧
      ∀ {R S : Type} (k : ResourceClass R S) (name : String) (spec : S) (accepted : Response)
        (handle : JobRecord) (attempt : CreationAttempt),
        accepted.Defers handle → handle.id = job → handle.status.isTerminal = false →
        attempt.exchanges =
          ⟨c.site, c.createRequest k name spec, .ok accepted⟩ :: c.polls job answers 0 (i + 1) →
        (c.execute (c.createRequest k name spec) ⟨k.kind, name⟩).Yields attempt.exchanges
          attempt.result →
        (attempt.Raced ↔ Reply.SaysExists (Reply.refusalText response.body)) := by
  refine ⟨h.isTransient_iff, fun r => h.yields_wait_iff, ?_⟩
  intro R S k name spec accepted handle attempt hdefers hjob hgoesOn hexchanges hrun
  exact h.raced_iff Method.post_ne_get hdefers hjob hgoesOn hexchanges hrun

/-- A gateway that answers the second poll with a page of its own, after one that goes on. -/
theorem gatewayPoll_tolerated_second_poll :
    let c : Client := ⟨.home, ⟨"000197600123"⟩, .default⟩
    let running : Json := .object [("jobId", .string "7"), ("status", .string "RUNNING")]
    let page : Json := .object [("message", .string "The array does not answer")]
    let answers : Nat → Answer := fun i => if i = 0 then .ok ⟨200, running⟩ else .ok ⟨504, page⟩
    GatewayPoll c ⟨"7"⟩ answers 1 ⟨504, page⟩ ∧
      Poll.isTransient (c.pollResults ⟨"7"⟩ answers 1) = true ∧
      ∀ r, ¬ (c.waitOnJob ⟨"7"⟩).Yields (c.polls ⟨"7"⟩ answers 0 2) r := by
  intro c running page answers
  have hexists : ¬ Reply.SaysExists "The array does not answer" := by
    rw [← Reply.saysExists_iff]
    decide +kernel
  have hpoll : GatewayPoll c ⟨"7"⟩ answers 1 ⟨504, page⟩ :=
    { reached := by decide
      in_time := by decide
      tolerated := by decide
      answered := rfl
      status := by decide }
  obtain ⟨htransient, hwait, -⟩ := gatewayPoll_tolerated c ⟨"7"⟩ answers hpoll
  refine ⟨hpoll, htransient.2 hexists, fun r hyields => ?_⟩
  rcases (hwait r).1 hyields with ⟨htext, -⟩ | ⟨-, hlast, -⟩
  · exact hexists htext
  · exact absurd hlast (by decide)

/-- A gateway that speaks of something that exists already, and the first poll it answers: the wait
ends at once, although three failures would be tolerated, and a creation that waits is taken for a
race. -/
theorem gatewayPoll_not_tolerated :
    let c : Client := ⟨.home, ⟨"000197600123"⟩, .default⟩
    let text := "Bad Gateway: a session already exists"
    let page : Json := .object [("message", .string text)]
    let running : Json := .object [("jobId", .string "7"), ("status", .string "RUNNING")]
    let poll : Exchange := ⟨.home, c.pollRequest ⟨"7"⟩, .ok ⟨502, page⟩⟩
    let s : Stage := { home := { queued := [.ok ⟨502, page⟩] } }
    let creation : CreationAttempt := {
      lookup := .ok ⟨404, .null⟩
      exchanges := [
        ⟨.home, c.createRequest Host.resources "esx01" ⟨["iqn.a"]⟩, .ok ⟨202, running⟩⟩, poll]
      result := .error (.conflict "job" "7" text) }
    GatewayPoll c ⟨"7"⟩ (fun _ => .ok ⟨502, page⟩) 0 ⟨502, page⟩ ∧
      (c.waitOnJob ⟨"7"⟩).run.transcript Stage.answer s = [poll] ∧
      (s.perform (c.waitOnJob ⟨"7"⟩)).1 = .error (.conflict "job" "7" text) ∧
      (c.execute (c.createRequest Host.resources "esx01" ⟨["iqn.a"]⟩) ⟨"host", "esx01"⟩).Yields
        creation.exchanges creation.result ∧
      creation.Raced := by
  intro c text page running poll s creation
  have hexists : Reply.SaysExists text := by
    rw [← Reply.saysExists_iff]
    decide +kernel
  have hpoll : GatewayPoll c ⟨"7"⟩ (fun _ => .ok ⟨502, page⟩) 0 ⟨502, page⟩ :=
    { reached := by decide
      in_time := by decide
      tolerated := by decide
      answered := rfl
      status := by decide }
  have hwait : (c.waitOnJob ⟨"7"⟩).Yields [poll] (.error (.conflict "job" "7" text)) :=
    hpoll.yields_wait_iff.2 (.inl ⟨hexists, rfl⟩)
  have hoffers : s.Offers [poll] := by
    rintro (_ | _)
    · exact ⟨[], rfl⟩
    · exact ⟨[], rfl⟩
  obtain ⟨htranscript, hresult⟩ := Program.Yields.transcript_of_offers hwait hoffers
  refine ⟨hpoll, htranscript, hresult, ?_, .inl ⟨_, _, _, rfl⟩⟩
  let handle : JobRecord := ⟨⟨"7"⟩, none, .running, none, none, none⟩
  have hdefers : Response.Defers ⟨202, running⟩ handle := ⟨rfl, rfl, rfl⟩
  exact Client.yields_execute_of_first_poll Method.post_ne_get handle hdefers rfl
    (hpoll.pollResults_of_saysExists hexists) nofun

end StorageArray
