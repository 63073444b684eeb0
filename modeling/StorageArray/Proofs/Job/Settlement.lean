import StorageArray.Proofs.Job.Polling
/-!
# How a change is settled

A change is one request and, when the array defers it, the polls of its job.
`c.Settles request t r` says that the exchanges `t` settle the change with the result `r`:
the response confirms it, or hands over a job that has ended, or hands over a job of which a
later poll says so.  `execute` ends with this result, whichever of the ways was taken
(`Client.Settles.yields_execute`), and it succeeds in no other way
(`Client.yields_execute_ok_iff`).

When a change is not settled, its error stems from the last answer or from the deadline
(`Client.Unsettled.fails`).  So when `execute` reports something as missing, this was said by the
response to the change or by that to a poll of its job, and nothing else in the exchanges tells the
two apart (`Client.Unsettled.isNotFound_iff`).
-/

namespace StorageArray

open Poll (Decisive FirstDecisive)

/-- What a job that has ended means for the change that it carries out. -/
def JobRecord.verdict (job : JobRecord) : Except ArrayError Unit :=
  match job.status with
  | .failed => .error (.jobFailed job.id (job.result.getD ""))
  | _ => .ok ()

namespace JobRecord

variable {job : JobRecord}

lemma outcome?_of_terminal (h : job.status.isTerminal = true) :
    ∃ outcome, job.outcome? = some outcome ∧ outcome.map (fun _ => ()) = job.verdict := by
  unfold outcome? verdict
  unfold JobStatus.isTerminal at h
  cases hs : job.status <;> simp_all [Except.map]

lemma outcome?_of_not_terminal (h : job.status.isTerminal = false) : job.outcome? = none := by
  rw [← Option.not_isSome_iff_eq_none, isSome_outcome?, h]
  exact Bool.false_ne_true

lemma exists_of_verdict_eq_error {e : ArrayError} (h : job.verdict = .error e) :
    ∃ id text, e = .jobFailed id text := by
  unfold verdict at h
  split at h
  · exact ⟨_, _, (Except.error.inj h).symm⟩
  · cases h

lemma map_outcome : (Poll.outcome (.ok job)).map (fun _ => ()) = job.verdict := by
  unfold Poll.outcome verdict
  cases hs : job.status <;> simp [Except.map, hs]

end JobRecord

namespace Operation

variable {α : Type}

lemma run_discard (op : Operation α) :
    (discard op : Operation Unit).run = op.run.bind fun q => .done (q.map fun _ => ()) := by
  change op.run.bind _ = _
  congr 1
  funext q
  cases q <;> rfl

lemma yields_discard_iff {op : Operation α} {t : Transcript} {r : Except ArrayError Unit} :
    Yields (discard op) t r ↔ ∃ q, Yields op t q ∧ r = q.map fun _ => () := by
  rw [Yields, run_discard, Program.yields_bind]
  constructor
  · rintro ⟨t₁, t₂, q, rfl, h₁, h₂⟩
    obtain ⟨rfl, rfl⟩ := Program.yields_done_iff.1 h₂
    rw [List.append_nil]
    exact ⟨q, h₁, rfl⟩
  · rintro ⟨q, h, rfl⟩
    exact ⟨t, [], q, (List.append_nil t).symm, h, .done _⟩

end Operation

namespace Client

variable {c : Client} {request : Request} {subject : Subject}

/-- What is left of a change when it is known what the response to it means. -/
def afterSubmit (c : Client) : Except ArrayError Reply → Operation Unit
  | .error e => .fail e
  | .ok (.complete _) => pure ()
  | .ok (.deferred job) => match job.outcome? with
    | some outcome => discard (.ofExcept outcome)
    | none => discard (c.waitOnJob job.id)

lemma run_execute :
    (c.execute request subject).run = .send c.site request fun answer =>
      (c.afterSubmit (Reply.ofAnswer request.method subject answer)).run := by
  rw [execute, Operation.run_bind, run_submit, Program.send_bind]
  congr 1
  funext answer
  rw [Program.done_bind]
  rcases Reply.ofAnswer request.method subject answer with e | body | job <;> rfl

/-- What `execute` does with the answer to the change. -/
lemma yields_execute_iff {t : Transcript} {r : Except ArrayError Unit} :
    (c.execute request subject).Yields t r ↔
      ∃ answer rest, t = ⟨c.site, request, answer⟩ :: rest ∧
        match Reply.ofAnswer request.method subject answer with
        | .error e => rest = [] ∧ r = .error e
        | .ok (.complete _) => rest = [] ∧ r = .ok ()
        | .ok (.deferred job) => match job.outcome? with
          | some outcome => rest = [] ∧ r = outcome.map fun _ => ()
          | none => ∃ q, (c.waitOnJob job.id).Yields rest q ∧ r = q.map fun _ => () := by
  rw [Operation.Yields, run_execute, Program.yields_send_iff]
  refine exists_congr fun answer => exists_congr fun rest => and_congr_right fun _ => ?_
  rcases Reply.ofAnswer request.method subject answer with e | body | job
  · exact Program.yields_done_iff
  · exact Program.yields_done_iff
  · cases ho : job.outcome? with
    | none =>
        simp only [afterSubmit, ho]
        exact Operation.yields_discard_iff
    | some outcome =>
        simp only [afterSubmit, ho]
        refine Operation.yields_discard_iff.trans ?_
        simp

/-- A change that is refused fails, and this is all that it sends. -/
lemma yields_execute_of_refused {answer : Answer} {e : ArrayError}
    (h : Reply.ofAnswer request.method subject answer = .error e) :
    (c.execute request subject).Yields [⟨c.site, request, answer⟩] (.error e) := by
  refine yields_execute_iff.2 ⟨answer, [], rfl, ?_⟩
  rw [h]
  exact ⟨rfl, rfl⟩

/-- A change that is deferred, when the first poll of its job ends the wait. -/
lemma yields_execute_of_first_poll (hm : request.method ≠ .get) (handle : JobRecord)
    {response : Response} {answer : Answer} {q : Except ArrayError JobRecord}
    (hdefers : response.Defers handle) (hgoesOn : handle.status.isTerminal = false)
    (hpoll : (c.getJob handle.id).on answer = q)
    (hdecisive : Decisive c.settings.maxPollRetries (fun _ => q) 0) :
    (c.execute request subject).Yields
      [⟨c.site, request, .ok response⟩, ⟨c.site, c.pollRequest handle.id, answer⟩]
      ((Poll.outcome q).map fun _ => ()) := by
  subst hpoll
  refine yields_execute_iff.2 ⟨_, _, rfl, ?_⟩
  rw [Reply.ofAnswer_of_defers hm hdefers]
  simp only [JobRecord.outcome?_of_not_terminal hgoesOn]
  exact ⟨_, yields_waitOnJob_of_firstDecisive hdecisive.firstDecisive (Nat.zero_le _), rfl⟩

lemma mem_polls_iff {job : JobId} {answers : Nat → Answer} {n : Nat} {x : Exchange} :
    x ∈ c.polls job answers 0 n ↔ ∃ i < n, x = ⟨c.site, c.pollRequest job, answers i⟩ := by
  simp only [polls, List.mem_map, List.mem_range'_1, Nat.zero_le, true_and, Nat.zero_add]
  exact exists_congr fun i => and_congr_right fun _ => eq_comm

lemma method_of_mem_polls {job : JobId} {answers : Nat → Answer} {n : Nat} {e : Exchange}
    (h : e ∈ c.polls job answers 0 n) : e.request.method = .get := by
  obtain ⟨i, -, rfl⟩ := mem_polls_iff.1 h
  rfl

/-- The exchanges are those of one change: its request, and polls of a job after it. -/
def IsOneChange (c : Client) (request : Request) (t : Transcript) : Prop :=
  ∃ answer job answers n, t = ⟨c.site, request, answer⟩ :: c.polls job answers 0 n

/-- A run of a change is its request and polls after it. -/
lemma shape_of_yields_execute {t : Transcript} {r : Except ArrayError Unit}
    (h : (c.execute request subject).Yields t r) : c.IsOneChange request t := by
  obtain ⟨answer, rest, rfl, hrest⟩ := yields_execute_iff.1 h
  -- No polls are zero polls, of any job.
  have hnone : rest = [] → ∃ job answers n, rest = c.polls job answers 0 n := by
    rintro rfl
    exact ⟨⟨""⟩, fun _ => answer, 0, rfl⟩
  suffices hpolls : ∃ job answers n, rest = c.polls job answers 0 n by
    obtain ⟨job, answers, n, rfl⟩ := hpolls
    exact ⟨answer, job, answers, n, rfl⟩
  rcases hreply : Reply.ofAnswer request.method subject answer with e | body | job
  · rw [hreply] at hrest
    exact hnone hrest.1
  · rw [hreply] at hrest
    exact hnone hrest.1
  · rw [hreply] at hrest
    cases hended : job.outcome? with
    | some outcome =>
        simp only [hended] at hrest
        exact hnone hrest.1
    | none =>
        simp only [hended] at hrest
        obtain ⟨q, hwait, -⟩ := hrest
        obtain ⟨answers, ⟨n, -, -, rfl, -⟩ | ⟨-, rfl, -⟩⟩ := cases_of_yields_waitOnJob hwait
        · exact ⟨job.id, answers, n + 1, rfl⟩
        · exact ⟨job.id, answers, c.settings.lastPoll + 1, rfl⟩

/-- What a change sends is its request, or reads. -/
lemma request_of_mem_execute {t : Transcript} {r : Except ArrayError Unit}
    (h : (c.execute request subject).Yields t r) {e : Exchange} (he : e ∈ t) :
    e.request = request ∨ e.request.method = .get := by
  obtain ⟨answer, job, answers, n, rfl⟩ := shape_of_yields_execute h
  rcases List.mem_cons.1 he with rfl | he
  · exact .inl rfl
  · exact .inr (method_of_mem_polls he)

/-- A change sends its request and polls, all to the site of its client. -/
lemma mem_of_yields_execute {t : Transcript} {r : Except ArrayError Unit}
    (h : (c.execute request subject).Yields t r) {e : Exchange} (he : e ∈ t) :
    e.site = c.site ∧ (e.request = request ∨ ∃ job, e.request = c.pollRequest job) := by
  obtain ⟨answer, job, answers, n, rfl⟩ := shape_of_yields_execute h
  rcases List.mem_cons.1 he with rfl | he
  · exact ⟨rfl, .inl rfl⟩
  · obtain ⟨i, -, rfl⟩ := mem_polls_iff.1 he
    exact ⟨rfl, .inr ⟨job, rfl⟩⟩

/-- Of what a change sends only its request does more than read. -/
lemma changes_of_yields_execute (hm : request.method ≠ .get) {t : Transcript}
    {r : Except ArrayError Unit} (h : (c.execute request subject).Yields t r) :
    t.changes = [(c.site, request)] := by
  obtain ⟨answer, job, answers, n, rfl⟩ := shape_of_yields_execute h
  have hpolls : (c.polls job answers 0 n).changes = [] :=
    Transcript.changes_eq_nil_iff.2 fun e he => method_of_mem_polls he
  have hhead : Transcript.changes [⟨c.site, request, answer⟩] = [(c.site, request)] := by
    simp [Transcript.changes, Transcript.sent, hm]
  rw [← List.singleton_append, Transcript.changes_append, hhead, hpolls, List.append_nil]

/-- A tolerant change is a change whose benign failures are successes. -/
lemma yields_executeTolerant_iff {t : Transcript} {r : Except ArrayError Unit} :
    (c.executeTolerant request subject).Yields t r ↔
      ∃ q, (c.execute request subject).Yields t q ∧
        r = match q with
          | .ok _ => .ok ()
          | .error e => if c.settings.benign.matchesError e then .ok () else .error e := by
  refine Operation.yields_settle_bind_ofExcept fun q => ?_
  cases q with
  | ok a => rfl
  | error e =>
      simp only
      split
      · rfl
      · rfl

lemma yields_executeTolerant_of_benign {t : Transcript} {e : ArrayError}
    (h : (c.execute request subject).Yields t (.error e))
    (hbenign : c.settings.benign.matchesError e = true) :
    (c.executeTolerant request subject).Yields t (.ok ()) :=
  yields_executeTolerant_iff.2 ⟨_, h, (if_pos hbenign).symm⟩

/-! ### The ways in which a change is settled -/

variable (c request)

/-- The exchanges settle the change with the result. -/
inductive Settles : Transcript → Except ArrayError Unit → Prop
  /-- The response confirms the change. -/
  | atOnce {response : Response} (hconfirms : response.Confirms) :
    Settles [⟨c.site, request, .ok response⟩] (.ok ())
  /-- The response hands over a job that has ended. -/
  | inHandle {response : Response} {job : JobRecord} (hdefers : response.Defers job)
      (hended : job.status.isTerminal = true) :
    Settles [⟨c.site, request, .ok response⟩] job.verdict
  /-- The response hands over a job that goes on, and the polls that follow it lead to a record
  of a job that has ended, at the last before the deadline or earlier. -/
  | byPoll {response : Response} {handle job : JobRecord} {answers : Nat → Answer} {n : Nat}
      (hdefers : response.Defers handle) (hgoesOn : handle.status.isTerminal = false)
      (hfirst :
        FirstDecisive c.settings.maxPollRetries (c.pollResults handle.id answers) n)
      (hdeadline : n ≤ c.settings.lastPoll)
      (hrecord : c.pollResults handle.id answers n = .ok job) :
    Settles (⟨c.site, request, .ok response⟩ :: c.polls handle.id answers 0 (n + 1)) job.verdict

variable (subject)

/-- The exchanges do not settle the change, and this is the error. -/
inductive Unsettled : Transcript → ArrayError → Prop
  /-- The change was not answered, or the response refuses it or cannot be read. -/
  | refused {answer : Answer} {e : ArrayError}
      (hrefused : Reply.ofAnswer request.method subject answer = .error e) :
    Unsettled [⟨c.site, request, answer⟩] e
  /-- A poll of its job ended the wait with an error. -/
  | pollFailed {response : Response} {handle : JobRecord} {answers : Nat → Answer} {n : Nat}
      {e : ArrayError} (hdefers : response.Defers handle)
      (hgoesOn : handle.status.isTerminal = false)
      (hfirst :
        FirstDecisive c.settings.maxPollRetries (c.pollResults handle.id answers) n)
      (hdeadline : n ≤ c.settings.lastPoll)
      (herror : c.pollResults handle.id answers n = .error e) :
    Unsettled (⟨c.site, request, .ok response⟩ :: c.polls handle.id answers 0 (n + 1)) e
  /-- Its job had not ended at the deadline. -/
  | outOfTime {response : Response} {handle : JobRecord} {answers : Nat → Answer}
      (hdefers : response.Defers handle) (hgoesOn : handle.status.isTerminal = false)
      (hnone : ∀ i ≤ c.settings.lastPoll,
        ¬ Decisive c.settings.maxPollRetries (c.pollResults handle.id answers) i) :
    Unsettled
      (⟨c.site, request, .ok response⟩ ::
        c.polls handle.id answers 0 (c.settings.lastPoll + 1))
      (.timeout handle.id c.settings.jobTimeout)

variable {c request subject}

/-- A change ends as it is settled. -/
lemma Settles.yields_execute (hm : request.method ≠ .get) {t : Transcript}
    {r : Except ArrayError Unit} (h : c.Settles request t r) :
    (c.execute request subject).Yields t r := by
  rw [yields_execute_iff]
  cases h with
  | @atOnce response hconfirms =>
      refine ⟨_, _, rfl, ?_⟩
      rw [Reply.ofAnswer_of_confirms hm hconfirms]
      exact ⟨rfl, rfl⟩
  | @inHandle response job hdefers hended =>
      obtain ⟨outcome, houtcome, hverdict⟩ := JobRecord.outcome?_of_terminal hended
      refine ⟨_, _, rfl, ?_⟩
      rw [Reply.ofAnswer_of_defers hm hdefers]
      simp only [houtcome]
      exact ⟨trivial, hverdict.symm⟩
  | @byPoll response handle job answers n hdefers hgoesOn hfirst hdeadline hrecord =>
      refine ⟨_, _, rfl, ?_⟩
      rw [Reply.ofAnswer_of_defers hm hdefers]
      simp only [JobRecord.outcome?_of_not_terminal hgoesOn]
      refine ⟨_, yields_waitOnJob_of_firstDecisive hfirst hdeadline, ?_⟩
      rw [hrecord, JobRecord.map_outcome]

/-- What is settled with an error is settled by a job that has failed. -/
lemma Settles.exists_jobFailed {t : Transcript} {e : ArrayError}
    (h : c.Settles request t (.error e)) : ∃ job text, e = .jobFailed job text := by
  generalize hr : Except.error e = r at h
  cases h with
  | atOnce hconfirms => cases hr
  | inHandle hdefers hended => exact JobRecord.exists_of_verdict_eq_error hr.symm
  | byPoll hdefers hgoesOn hfirst hdeadline hrecord =>
      exact JobRecord.exists_of_verdict_eq_error hr.symm

/-- Every run of a change settles it, or has an error for which it is unsettled. -/
lemma cases_of_yields_execute (hm : request.method ≠ .get) {t : Transcript}
    {r : Except ArrayError Unit} (h : (c.execute request subject).Yields t r) :
    c.Settles request t r ∨ ∃ e, r = .error e ∧ c.Unsettled request subject t e := by
  obtain ⟨answer, rest, rfl, hrest⟩ := yields_execute_iff.1 h
  rcases hreply : Reply.ofAnswer request.method subject answer with e | body | job
  · rw [hreply] at hrest
    obtain ⟨rfl, rfl⟩ := hrest
    exact .inr ⟨e, rfl, .refused hreply⟩
  · rw [hreply] at hrest
    obtain ⟨rfl, rfl⟩ := hrest
    obtain ⟨response, rfl, -⟩ := Reply.isSuccess_of_ofAnswer_eq_ok hreply
    exact .inl (.atOnce ((Reply.classify_eq_complete_iff hm).1 hreply).1)
  · rw [hreply] at hrest
    obtain ⟨response, rfl, -⟩ := Reply.isSuccess_of_ofAnswer_eq_ok hreply
    have hdefers : response.Defers job := (Reply.classify_eq_deferred_iff hm).1 hreply
    -- A job that has ended is not polled.
    cases hended : job.status.isTerminal with
    | true =>
        obtain ⟨outcome, houtcome, hverdict⟩ := JobRecord.outcome?_of_terminal hended
        simp only [houtcome] at hrest
        obtain ⟨rfl, rfl⟩ := hrest
        rw [hverdict]
        exact .inl (.inHandle hdefers hended)
    | false =>
        simp only [JobRecord.outcome?_of_not_terminal hended] at hrest
        obtain ⟨q, hwait, rfl⟩ := hrest
        obtain ⟨answers, ⟨n, hn, hfirst, rfl, rfl⟩ | ⟨hnone, rfl, rfl⟩⟩ :=
          cases_of_yields_waitOnJob hwait
        · cases hresult : c.pollResults job.id answers n with
          | ok record =>
              rw [JobRecord.map_outcome]
              exact .inl (.byPoll hdefers hended hfirst hn hresult)
          | error e => exact .inr ⟨e, rfl, .pollFailed hdefers hended hfirst hn hresult⟩
        · exact .inr ⟨_, rfl, .outOfTime hdefers hended hnone⟩

/-- A change succeeds exactly when it is settled with success. -/
lemma yields_execute_ok_iff (hm : request.method ≠ .get) {t : Transcript} :
    (c.execute request subject).Yields t (.ok ()) ↔ c.Settles request t (.ok ()) := by
  refine ⟨fun h => ?_, Settles.yields_execute hm⟩
  rcases cases_of_yields_execute hm h with hsettles | ⟨e, he, -⟩
  · exact hsettles
  · cases he

end Client

/-! ### Reports that something is missing -/

/-- The answer says with the status 404 that something is missing. -/
def Answer.IsMissing (answer : Answer) : Prop :=
  ∃ response : Response, answer = .ok response ∧ response.status = 404

lemma Response.not_isMissing_of_isSuccess {response : Response}
    (h : response.isSuccess = true) : ¬ Answer.IsMissing (.ok response) := by
  rintro ⟨response', heq, h404⟩
  cases heq
  exact Response.status_ne_of_isSuccess h h404

namespace Client

variable {c : Client} {request : Request} {subject : Subject} {job : JobId}
  {answers : Nat → Answer}

lemma on_read_of_isMissing {α : Type} {context : String} {shape : Shape α} {answer : Answer}
    (h : answer.IsMissing) :
    (c.read request subject context shape).on answer =
      .error (.notFound subject.kind subject.name) := by
  obtain ⟨response, rfl, h404⟩ := h
  rw [on_read, valueIn_of_status_eq h404]

lemma ofAnswer_of_isMissing {method : Method} {answer : Answer} (h : answer.IsMissing) :
    Reply.ofAnswer method subject answer = .error (.notFound subject.kind subject.name) := by
  obtain ⟨response, rfl, h404⟩ := h
  have hs : response.isSuccess = false := by
    simp [Response.isSuccess, h404]
  rw [Reply.ofAnswer, Reply.classify_of_not_isSuccess hs, Reply.refusal, if_pos h404]

/-- A change of something that is missing fails. -/
lemma yields_execute_of_isMissing {answer : Answer} (h : answer.IsMissing) :
    (c.execute request subject).Yields [⟨c.site, request, answer⟩]
      (.error (.notFound subject.kind subject.name)) :=
  yields_execute_of_refused (ofAnswer_of_isMissing h)

/-- A change that is answered with the status 404 is all that is sent. -/
lemma eq_singleton_of_isMissing (hm : request.method ≠ .get) {t : Transcript}
    {r : Except ArrayError Unit} (h : (c.execute request subject).Yields t r) {x : Exchange}
    (hx : x ∈ t) (hrequest : x.request = request) (hmissing : x.answer.IsMissing) : t = [x] := by
  obtain ⟨answer, rest, rfl, hrest⟩ := yields_execute_iff.1 h
  obtain ⟨_, job, answers, n, hshape⟩ := shape_of_yields_execute h
  obtain ⟨-, hpolls⟩ := List.cons.inj hshape
  rcases List.mem_cons.1 hx with rfl | hx
  · rw [ofAnswer_of_isMissing hmissing] at hrest
    rw [hrest.1]
  · rw [hpolls] at hx
    exact absurd (hrequest ▸ method_of_mem_polls hx) hm

/-- When something is missing and no poll says so, the change itself was answered so, and nothing
was sent after it. -/
lemma eq_singleton_of_polls (hm : request.method ≠ .get) {t : Transcript}
    {r : Except ArrayError Unit} (h : (c.execute request subject).Yields t r) {x : Exchange}
    (hx : x ∈ t) (hmissing : x.answer.IsMissing)
    (hpolls : ∀ poll ∈ t.tail, ¬ poll.answer.IsMissing) :
    t = [⟨c.site, request, x.answer⟩] := by
  obtain ⟨answer, job, answers, n, rfl⟩ := shape_of_yields_execute h
  rcases List.mem_cons.1 hx with rfl | hx
  · exact eq_singleton_of_isMissing hm h List.mem_cons_self rfl hmissing
  · exact absurd hmissing (hpolls x hx)

/-- A poll that says that the job is missing fails, and ends the wait. -/
lemma pollResults_of_isMissing {i : Nat} (h : (answers i).IsMissing) :
    c.pollResults job answers i = .error (.notFound "job" job.text) :=
  on_read_of_isMissing h

lemma decisive_of_isMissing {retries i : Nat} (h : (answers i).IsMissing) :
    Decisive retries (c.pollResults job answers) i := by
  unfold Decisive
  rw [pollResults_of_isMissing h]
  simp [ArrayError.isTransient]

lemma fails_of_pollResults {n : Nat} {e : ArrayError}
    (h : c.pollResults job answers n = .error e) : (answers n).Fails ⟨"job", job.text⟩ e := by
  rw [pollResults, getJob, on_read] at h
  exact fails_of_valueIn h

lemma getLast?_polls (n : Nat) :
    (c.polls job answers 0 (n + 1)).getLast? = some ⟨c.site, c.pollRequest job, answers n⟩ := by
  rw [polls, List.range'_concat, List.map_append, List.map_singleton, List.getLast?_concat]
  simp

/-- The error of an unsettled change is that of its last answer, or of the deadline. -/
lemma Unsettled.fails {t : Transcript} {e : ArrayError} (h : c.Unsettled request subject t e) :
    (∃ about x, t.getLast? = some x ∧ x.answer.Fails about e) ∨
      ∃ job, e = .timeout job c.settings.jobTimeout := by
  cases h with
  | refused hrefused => exact .inl ⟨_, _, rfl, Reply.fails_of_ofAnswer hrefused⟩
  | @pollFailed response handle answers n e hdefers hgoesOn hfirst hdeadline herror =>
      refine .inl ⟨_, ⟨c.site, c.pollRequest handle.id, answers n⟩, ?_,
        fails_of_pollResults herror⟩
      rw [List.getLast?_cons, getLast?_polls]
      rfl
  | outOfTime hdefers hgoesOn hnone => exact .inr ⟨_, rfl⟩

/-- Only the last exchange of an unsettled change can say that something is missing, and then
this is what the error reports. -/
lemma Unsettled.isNotFound_iff {t : Transcript} {e : ArrayError}
    (h : c.Unsettled request subject t e) :
    e.isNotFound = true ↔ ∃ x ∈ t, x.answer.IsMissing := by
  cases h with
  | @refused answer e hrefused =>
      rw [(Reply.fails_of_ofAnswer hrefused).isNotFound_iff]
      simp [Answer.IsMissing]
  | @pollFailed response handle answers n e hdefers hgoesOn hfirst hdeadline herror =>
      rw [(fails_of_pollResults herror).isNotFound_iff]
      constructor
      · intro hmissing
        exact ⟨_, List.mem_cons_of_mem _ (mem_polls_iff.2 ⟨n, Nat.lt_succ_self n, rfl⟩), hmissing⟩
      · rintro ⟨x, hx, hmissing⟩
        rcases List.mem_cons.1 hx with rfl | hx
        · exact absurd hmissing (Response.not_isMissing_of_isSuccess hdefers.1)
        · obtain ⟨i, hi, rfl⟩ := mem_polls_iff.1 hx
          rcases Nat.lt_succ_iff_lt_or_eq.1 hi with hlt | rfl
          · -- An earlier poll would have ended the wait.
            exact absurd (decisive_of_isMissing hmissing) (hfirst.2 i hlt)
          · exact hmissing
  | @outOfTime response handle answers hdefers hgoesOn hnone =>
      simp only [ArrayError.isNotFound, Bool.false_eq_true, false_iff]
      rintro ⟨x, hx, hmissing⟩
      rcases List.mem_cons.1 hx with rfl | hx
      · exact Response.not_isMissing_of_isSuccess hdefers.1 hmissing
      · obtain ⟨i, hi, rfl⟩ := mem_polls_iff.1 hx
        exact hnone i (Nat.le_of_lt_succ hi) (decisive_of_isMissing hmissing)

/-- The exchanges of a settled change do not say that anything is missing. -/
lemma Settles.not_isMissing {t : Transcript} {r : Except ArrayError Unit}
    (h : c.Settles request t r) : ∀ x ∈ t, ¬ x.answer.IsMissing := by
  intro x hx hmissing
  cases h with
  | @atOnce response hconfirms =>
      obtain rfl := List.mem_singleton.1 hx
      exact Response.not_isMissing_of_isSuccess hconfirms.1 hmissing
  | @inHandle response job hdefers hended =>
      obtain rfl := List.mem_singleton.1 hx
      exact Response.not_isMissing_of_isSuccess hdefers.1 hmissing
  | @byPoll response handle job answers n hdefers hgoesOn hfirst hdeadline hrecord =>
      rcases List.mem_cons.1 hx with rfl | hx
      · exact Response.not_isMissing_of_isSuccess hdefers.1 hmissing
      · obtain ⟨i, hi, rfl⟩ := mem_polls_iff.1 hx
        rcases Nat.lt_succ_iff_lt_or_eq.1 hi with hlt | rfl
        · exact hfirst.2 i hlt (decisive_of_isMissing hmissing)
        · rw [pollResults_of_isMissing hmissing] at hrecord
          cases hrecord

/-- A change reports something as missing exactly when one of the answers says so. -/
lemma reportsMissing_iff (hm : request.method ≠ .get) {t : Transcript}
    {r : Except ArrayError Unit} (h : (c.execute request subject).Yields t r) :
    (∃ e, r = .error e ∧ e.isNotFound = true) ↔ ∃ x ∈ t, x.answer.IsMissing := by
  rcases cases_of_yields_execute hm h with hsettles | ⟨e, rfl, hunsettled⟩
  · constructor
    · rintro ⟨e, rfl, he⟩
      obtain ⟨job, text, rfl⟩ := hsettles.exists_jobFailed
      cases he
    · rintro ⟨x, hx, hmissing⟩
      exact absurd hmissing (hsettles.not_isMissing x hx)
  · simp [hunsettled.isNotFound_iff]

end Client

end StorageArray
