import Mathlib.Tactic.Common
import StorageArray.Proofs.Volume.Release
/-!
# What a benign failure is a verdict on

The release of the tracks of a volume counts as done when it fails with a benign text, for then the
array says that the volume is already where the release would have taken it.  It says so when it
refuses the request, and when it reports the job of the request as failed.

A poll of the job can be refused as well, and such a refusal is about the poll: of the volume it
says nothing.  `Client.Accomplished` lists the verdicts of the array on the request.  A change that
tolerates benign failures succeeds after each of them, and it succeeds after nothing else except
when the last poll was refused with a benign text (`Client.accomplished_iff`).
-/

namespace StorageArray

/-- The answer is a refusal, neither of something missing nor of something that exists already, and
its text is benign. -/
def Answer.RefusesBenignly (benign : BenignFailures) (answer : Answer) : Prop :=
  ∃ response : Response, answer = .ok response ∧ response.isSuccess = false ∧
    response.status ≠ 404 ∧ response.status ≠ 409 ∧
    Text.contains (Text.lowercase (Reply.refusalText response.body)) "already exists" = false ∧
    benign.isMatch (Reply.refusalText response.body) = true

/-- Of the errors of answers, those of benign refusals are tolerated. -/
lemma Answer.Fails.matchesError_iff {subject : Subject} {answer : Answer} {e : ArrayError}
    {benign : BenignFailures} (h : answer.Fails subject e) :
    benign.matchesError e = true ↔ answer.RefusesBenignly benign := by
  cases h with
  | lost e => simp [BenignFailures.matchesError, Answer.RefusesBenignly]
  | @refused response hrefused =>
      simp only [Reply.refusal, Answer.RefusesBenignly, Except.ok.injEq, exists_eq_left', hrefused,
        true_and]
      split_ifs with h404 hconflict
      · simp [BenignFailures.matchesError, h404]
      · simp only [BenignFailures.matchesError, Bool.false_eq_true, false_iff]
        rintro ⟨-, h409, hexists, -⟩
        simp [h409, hexists] at hconflict
      · simp only [Bool.or_eq_true, decide_eq_true_eq, not_or, Bool.not_eq_true] at hconflict
        simp [BenignFailures.matchesError, h404, hconflict]
  | unreadable hsuccess context detail =>
      simp [BenignFailures.matchesError, Answer.RefusesBenignly, hsuccess]

namespace Client

variable {c : Client} {request : Request} {subject : Subject} {t : Transcript}

/-- The last poll before a change is settled was answered with a success. -/
lemma Settles.isSuccess_of_mem_getLast? {r : Except ArrayError Unit}
    (h : c.Settles request t r) {poll : Exchange} (hpoll : poll ∈ t.tail.getLast?) :
    ∃ response : Response, poll.answer = .ok response ∧ response.isSuccess = true := by
  cases h with
  | atOnce hconfirms => cases hpoll
  | inHandle hdefers hended => cases hpoll
  | @byPoll response handle job answers n hdefers hgoesOn hfirst hdeadline hrecord =>
      rw [List.tail_cons, getLast?_polls] at hpoll
      obtain rfl := Option.mem_some.1 hpoll
      rw [pollResults, getJob, on_read] at hrecord
      obtain ⟨response, hanswer, hsuccess, -⟩ := (valueIn_eq_ok_iff rfl).1 hrecord
      exact ⟨response, hanswer, hsuccess⟩

variable (c request) in
/-- The array itself says that nothing is left to do for the change. -/
inductive Accomplished : Transcript → Prop
  /-- The change is confirmed, at once or by the record of a job that has succeeded. -/
  | confirmed {t : Transcript} (hsettles : c.Settles request t (.ok ())) : Accomplished t
  /-- The change itself is refused, and the text is benign. -/
  | refused {answer : Answer} (hbenign : answer.RefusesBenignly c.settings.benign) :
    Accomplished [⟨c.site, request, answer⟩]
  /-- The change has a job that is recorded as failed, and the text is benign. -/
  | failed {t : Transcript} {job : JobId} {text : String}
      (hsettles : c.Settles request t (.error (.jobFailed job text)))
      (hbenign : c.settings.benign.isMatch text = true) : Accomplished t

namespace Accomplished

/-- A verdict on the change does not come from a poll that is refused. -/
lemma not_refusesBenignly (h : c.Accomplished request t) :
    ∀ poll ∈ t.tail.getLast?, ¬ poll.answer.RefusesBenignly c.settings.benign := by
  have hsettled {r : Except ArrayError Unit} (hsettles : c.Settles request t r) :
      ∀ poll ∈ t.tail.getLast?, ¬ poll.answer.RefusesBenignly c.settings.benign := by
    rintro poll hpoll ⟨response, hanswer, hrefused, -⟩
    obtain ⟨response', hanswer', hsuccess⟩ := hsettles.isSuccess_of_mem_getLast? hpoll
    rw [hanswer] at hanswer'
    cases hanswer'
    rw [hrefused] at hsuccess
    cases hsuccess
  cases h with
  | confirmed hsettles => exact hsettled hsettles
  | refused hbenign => exact nofun
  | failed hsettles hbenign => exact hsettled hsettles

/-- A change that tolerates benign failures succeeds after every verdict that nothing is left to
do. -/
lemma eq_ok (h : c.Accomplished request t) (hm : request.method ≠ .get)
    {r : Except ArrayError Unit} (hrun : (c.executeTolerant request subject).Yields t r) :
    r = .ok () := by
  obtain ⟨q, hexecute, rfl⟩ := yields_executeTolerant_iff.1 hrun
  cases h with
  | confirmed hsettles =>
      rw [hexecute.unique (hsettles.yields_execute hm)]
  | @refused answer hbenign =>
      obtain ⟨response, rfl, hrefused, -⟩ := id hbenign
      have hreply : Reply.ofAnswer request.method subject (.ok response) =
          .error (Reply.refusal subject response) := Reply.classify_of_not_isSuccess hrefused
      rw [hexecute.unique (yields_execute_of_refused hreply)]
      exact if_pos ((Answer.Fails.refused hrefused).matchesError_iff.2 hbenign)
  | failed hsettles hbenign =>
      rw [hexecute.unique (hsettles.yields_execute hm)]
      exact if_pos hbenign

end Accomplished

/-- A change that tolerates benign failures and succeeds has a verdict exactly when its last poll
was not refused with a benign text. -/
lemma accomplished_iff (hm : request.method ≠ .get)
    (hrun : (c.executeTolerant request subject).Yields t (.ok ())) :
    c.Accomplished request t ↔
      ∀ poll ∈ t.tail.getLast?, ¬ poll.answer.RefusesBenignly c.settings.benign := by
  refine ⟨Accomplished.not_refusesBenignly, fun hpolls => ?_⟩
  obtain ⟨q, hexecute, hq⟩ := yields_executeTolerant_iff.1 hrun
  have hbenign {e : ArrayError} (he : q = .error e) :
      c.settings.benign.matchesError e = true := by
    subst he
    by_contra hnot
    simp [hnot] at hq
  rcases cases_of_yields_execute hm hexecute with hsettles | ⟨e, rfl, hunsettled⟩
  · cases q with
    | ok a => exact .confirmed hsettles
    | error e =>
        obtain ⟨job, text, rfl⟩ := hsettles.exists_jobFailed
        exact .failed hsettles (hbenign rfl)
  · have he := hbenign rfl
    cases hunsettled with
    | refused hrefused =>
        exact .refused ((Reply.fails_of_ofAnswer hrefused).matchesError_iff.1 he)
    | pollFailed hdefers hgoesOn hfirst hdeadline herror =>
        -- The error is that of the last poll.
        exact absurd ((fails_of_pollResults herror).matchesError_iff.1 he)
          (hpolls _ (getLast?_polls _))
    | outOfTime hdefers hgoesOn hnone => cases he

end Client

/-- **What the release of the tracks succeeds on.**  It succeeds whenever the array says that
nothing is left to do: the request is confirmed at once or by the record of its job, or it is
refused, or its job is recorded as failed, with a benign text.  A release that succeeds has such a
verdict exactly when the last poll of its job, if there was one, was not refused with a benign text.
In the runs every wait has a deadline, and polls take no time. -/
theorem deallocateVolume_verdict (c : Client) (id : VolumeId) {t : Transcript}
    {r : Except ArrayError Unit} (hrun : (c.deallocateVolume id).Yields t r) :
    (c.Accomplished (c.releaseRequest id) t → r = .ok ()) ∧
      (r = .ok () → (c.Accomplished (c.releaseRequest id) t ↔
        ∀ poll ∈ t.tail.getLast?, ¬ poll.answer.RefusesBenignly c.settings.benign)) := by
  refine ⟨fun h => h.eq_ok Method.put_ne_get hrun, ?_⟩
  rintro rfl
  exact Client.accomplished_iff Method.put_ne_get hrun

/-- A volume that the array has released before: it records the job of the release as failed. -/
theorem deallocateVolume_verdict_released_before :
    let c : Client := ⟨.home, ⟨"000197600123"⟩, .default⟩
    let id : VolumeId := ⟨"0012A"⟩
    let running : Json := .object [("jobId", .string "7"), ("status", .string "RUNNING")]
    let failed : Json := .object [("jobId", .string "7"),
      ("result", .string "Device is already in the requested state"), ("status", .string "FAILED")]
    let t : Transcript := [⟨.home, c.releaseRequest id, .ok ⟨202, running⟩⟩,
      ⟨.home, c.pollRequest ⟨"7"⟩, .ok ⟨200, failed⟩⟩]
    (c.deallocateVolume id).Yields t (.ok ()) ∧ c.Accomplished (c.releaseRequest id) t := by
  intro c id running failed t
  let text := "Device is already in the requested state"
  have hbenign : c.settings.benign.matchesError (.jobFailed ⟨"7"⟩ text) = true := by decide +kernel
  let record : JobRecord := ⟨⟨"7"⟩, none, .running, none, none, none⟩
  have hdefers : Response.Defers ⟨202, running⟩ record := ⟨rfl, rfl, rfl⟩
  have hpoll : (c.getJob ⟨"7"⟩).on (.ok ⟨200, failed⟩) =
      .ok { record with status := .failed, result := some text } := rfl
  have hexecute : (c.execute (c.releaseRequest id) ⟨"volume", id.text⟩).Yields t
      (.error (.jobFailed ⟨"7"⟩ text)) :=
    Client.yields_execute_of_first_poll Method.put_ne_get record hdefers rfl hpoll rfl
  have hrun : (c.deallocateVolume id).Yields t (.ok ()) :=
    Client.yields_executeTolerant_of_benign hexecute hbenign
  have hpolls : ∀ poll ∈ t.tail.getLast?, ¬ poll.answer.RefusesBenignly c.settings.benign := by
    rintro poll hpoll ⟨response, hanswer, hrefused, -⟩
    obtain rfl := Option.mem_some.1 hpoll
    cases hanswer
    cases hrefused
  exact ⟨hrun, ((deallocateVolume_verdict c id hrun).2 rfl).2 hpolls⟩

/-- A release that is deferred to a job.  The poll of the job is refused because the store of jobs
is out of order, in words that are benign; the release succeeds, and the array has said nothing
about the volume. -/
theorem deallocateVolume_ok_without_verdict :
    let c : Client := ⟨.home, ⟨"000197600123"⟩, .default⟩
    let id : VolumeId := ⟨"0012A"⟩
    let handle : Json := .object [("jobId", .string "7"), ("status", .string "RUNNING")]
    let refusal : Json :=
      .object [("message", .string "Job store is already in the read-only state")]
    let t : Transcript := [⟨.home, c.releaseRequest id, .ok ⟨202, handle⟩⟩,
      ⟨.home, c.pollRequest ⟨"7"⟩, .ok ⟨500, refusal⟩⟩]
    let s : Stage := { home := { queued := t.map (·.answer) } }
    (c.deallocateVolume id).run.transcript Stage.answer s = t ∧
      (s.perform (c.deallocateVolume id)).1 = .ok () ∧
      ¬ c.Accomplished (c.releaseRequest id) t := by
  intro c id handle refusal t s
  let text := "Job store is already in the read-only state"
  have hbenign : c.settings.benign.matchesError (.rejected 500 text) = true := by decide +kernel
  have hexists : Text.contains (Text.lowercase text) "already exists" = false := by decide +kernel
  have hrefusal : Reply.refusal ⟨"job", "7"⟩ ⟨500, refusal⟩ = .rejected 500 text := by
    have htext : Reply.refusalText refusal = text := rfl
    rw [Reply.refusal, htext, hexists]
    rfl
  have hpoll : (c.getJob ⟨"7"⟩).on (.ok ⟨500, refusal⟩) = .error (.rejected 500 text) := by
    rw [Client.getJob, Client.on_read, Client.valueIn_of_not_isSuccess rfl, hrefusal]
  have hexecute : (c.execute (c.releaseRequest id) ⟨"volume", id.text⟩).Yields t
      (.error (.rejected 500 text)) := by
    let record : JobRecord := ⟨⟨"7"⟩, none, .running, none, none, none⟩
    have hdefers : Response.Defers ⟨202, handle⟩ record := ⟨rfl, rfl, rfl⟩
    exact Client.yields_execute_of_first_poll Method.put_ne_get record hdefers rfl hpoll
      fun htransient => absurd htransient Bool.false_ne_true
  have hrun : (c.deallocateVolume id).Yields t (.ok ()) :=
    Client.yields_executeTolerant_of_benign hexecute hbenign
  have hoffers : s.Offers t := by
    rintro (_ | _)
    · exact ⟨[], rfl⟩
    · exact ⟨[], rfl⟩
  obtain ⟨htranscript, hresult⟩ := Program.Yields.transcript_of_offers hrun hoffers
  refine ⟨htranscript, hresult, fun hverdict => ?_⟩
  have hrefused : Answer.RefusesBenignly c.settings.benign (.ok ⟨500, refusal⟩) :=
    (Answer.Fails.refused rfl).matchesError_iff.1 (hrefusal ▸ hbenign)
  exact hverdict.not_refusesBenignly _ rfl hrefused

end StorageArray
