import Mathlib.Tactic.Common
import StorageArray.Proofs.Job.Settlement
import StorageArray.Proofs.Text.Lowercase
import StorageArray.Resource.Basic
/-!
# The steps of a creator

`createOrGet` is taken apart into what it does from one request to the next.  `op.Steps` says
that an operation sends a request, and how it goes on after an answer.  Between its requests a
creator is in one of four situations, each an operation of its own: it looks the resource up
(`createOrGetFrom`), it sends the creation (`creation`), it waits for the job of the creation
(`creationAfterJob`), or it reads the resource that it has created (`getResource`).  The lemmas
say which answers lead from which situation to which.
-/

namespace StorageArray

/-- The answer carries a value of a shape. -/
def Answer.Carries {α : Type} (answer : Answer) (shape : Shape α) (value : α) : Prop :=
  ∃ response : Response, answer = .ok response ∧ response.isSuccess = true ∧
    shape.decode response.body = .ok value

/-- An answer carries one value of a shape. -/
lemma Answer.Carries.unique {α : Type} {answer : Answer} {shape : Shape α} {a b : α}
    (ha : answer.Carries shape a) (hb : answer.Carries shape b) : a = b := by
  obtain ⟨response, rfl, -, hdecode⟩ := ha
  obtain ⟨response', hresponse, -, hdecode'⟩ := hb
  cases hresponse
  rw [hdecode] at hdecode'
  exact Except.ok.inj hdecode'

/-- The job has failed because what it was to create exists already. -/
def JobRecord.FailedAsExisting (job : JobRecord) : Prop :=
  job.status = .failed ∧ Text.contains (job.result.getD "") "already exists" = true

lemma JobRecord.FailedAsExisting.isCreateRace {job : JobRecord} (h : job.FailedAsExisting) :
    (ArrayError.jobFailed job.id (job.result.getD "")).isCreateRace = true := by
  have hplain : ∀ c ∈ "already exists".toList, Text.IsPlain c := by
    simp [Text.IsPlain]
  exact Text.contains_lowercase hplain h.2

/-- The operation sends the request, and after this answer it goes on like the other one. -/
def Operation.Steps {α : Type} (op : Operation α) (site : Site) (request : Request)
    (answer : Answer) (next : Operation α) : Prop :=
  ∃ resume, op.run = .send site request resume ∧ resume answer = next.run

namespace Operation.Steps

variable {α β : Type} {op next : Operation α} {site : Site} {request : Request} {answer : Answer}

lemma of_run_eq (h : op.Steps site request answer next) {next' : Operation α}
    (heq : next.run = next'.run) : op.Steps site request answer next' := by
  obtain ⟨resume, hrun, hresume⟩ := h
  exact ⟨resume, hrun, hresume.trans heq⟩

lemma settle_bind (h : op.Steps site request answer next)
    (f : Except ArrayError α → Operation β) :
    (op.settle >>= f).Steps site request answer (next.settle >>= f) := by
  obtain ⟨resume, hrun, hresume⟩ := h
  refine ⟨fun answer => (resume answer).bind fun q => (f q).run, ?_, ?_⟩
  · rw [run_settle_bind, hrun, Program.send_bind]
  · rw [run_settle_bind, ← hresume]

lemma discard (h : op.Steps site request answer next) :
    (discard op : Operation Unit).Steps site request answer (discard next) := by
  obtain ⟨resume, hrun, hresume⟩ := h
  refine ⟨fun answer => (resume answer).bind fun q => .done (q.map fun _ => ()), ?_, ?_⟩
  · rw [run_discard, hrun, Program.send_bind]
  · rw [run_discard, ← hresume]

end Operation.Steps

namespace Client

variable {R S : Type} {c : Client} {k : ResourceClass R S} {name : String} {spec : S}
  {attempts : Nat} {answer : Answer}

/-- What a creator does when its creation has ended. -/
def afterCreation (c : Client) (k : ResourceClass R S) (name : String) (spec : S)
    (attempts : Nat) : Except ArrayError Unit → Operation R
  | .ok _ => c.getResource k name
  | .error e => if e.isCreateRace then c.createOrGetFrom k name spec attempts e else .fail e

/-- The creation and what follows it. -/
def creation (c : Client) (k : ResourceClass R S) (name : String) (spec : S) (attempts : Nat) :
    Operation R :=
  (c.execute (c.createRequest k name spec) ⟨k.kind, name⟩).settle >>=
    c.afterCreation k name spec attempts

/-- The wait for the job of the creation and what follows it. -/
def creationAfterJob (c : Client) (k : ResourceClass R S) (name : String) (spec : S)
    (attempts : Nat) (job : JobId) : Operation R :=
  (discard (c.waitOnJob job) : Operation Unit).settle >>= c.afterCreation k name spec attempts

/-! ### Lookups -/

section Read

variable {α : Type} {request : Request} {subject : Subject} {context : String} {shape : Shape α}

/-- A read succeeds exactly when the answer carries a value. -/
lemma on_read_eq_ok_iff (hm : request.method = .get) {a : α} :
    (c.read request subject context shape).on answer = .ok a ↔ answer.Carries shape a := by
  rw [on_read]
  exact valueIn_eq_ok_iff hm

end Read

lemma on_getResource_of_carries {record : R} (h : answer.Carries k.shape record) :
    (c.getResource k name).on answer = .ok record :=
  (on_read_eq_ok_iff rfl).2 h

lemma on_getResource_of_isMissing (h : answer.IsMissing) :
    (c.getResource k name).on answer = .error (.notFound k.kind name) :=
  on_read_of_isMissing h

lemma getResource_steps (c : Client) (k : ResourceClass R S) (name : String) (answer : Answer) :
    (c.getResource k name).Steps c.site (.get (c.resourcePath k name)) answer
      (.ofExcept ((c.getResource k name).on answer)) := by
  refine ⟨_, run_read _ _ _ _ _, ?_⟩
  rw [getResource, on_read]
  rfl

lemma getResource_steps_of_carries {record : R} (h : answer.Carries k.shape record) :
    (c.getResource k name).Steps c.site (.get (c.resourcePath k name)) answer (pure record) := by
  refine (getResource_steps c k name answer).of_run_eq ?_
  rw [on_getResource_of_carries h]
  rfl

/-- A creator that finds the resource is done. -/
lemma createOrGetFrom_steps_of_carries {last : ArrayError} {record : R}
    (h : answer.Carries k.shape record) :
    (c.createOrGetFrom k name spec (attempts + 1) last).Steps c.site
      (.get (c.resourcePath k name)) answer (pure record) :=
  ((getResource_steps_of_carries h).settle_bind _).of_run_eq rfl

/-- A creator that finds that there is no resource sends the creation. -/
lemma createOrGetFrom_steps_of_isMissing {last : ArrayError} (h : answer.IsMissing) :
    (c.createOrGetFrom k name spec (attempts + 1) last).Steps c.site
      (.get (c.resourcePath k name)) answer (c.creation k name spec attempts) := by
  have hlookup := getResource_steps c k name answer
  rw [on_getResource_of_isMissing h] at hlookup
  exact (hlookup.settle_bind _).of_run_eq rfl

/-! ### Creations -/

lemma creation_steps :
    (c.creation k name spec attempts).Steps c.site (c.createRequest k name spec) answer
      ((c.afterSubmit (Reply.ofAnswer .post ⟨k.kind, name⟩ answer)).settle >>=
        c.afterCreation k name spec attempts) := by
  have hexecute : (c.execute (c.createRequest k name spec) ⟨k.kind, name⟩).Steps c.site
      (c.createRequest k name spec) answer
      (c.afterSubmit (Reply.ofAnswer .post ⟨k.kind, name⟩ answer)) :=
    ⟨_, run_execute, rfl⟩
  exact hexecute.settle_bind _

/-- A creation that is confirmed is followed by the read of the resource. -/
lemma creation_steps_of_confirms {response : Response} (hanswer : answer = .ok response)
    (h : response.Confirms) :
    (c.creation k name spec attempts).Steps c.site (c.createRequest k name spec) answer
      (c.getResource k name) := by
  refine creation_steps.of_run_eq ?_
  rw [hanswer, Reply.ofAnswer_of_confirms Method.post_ne_get h]
  rfl

/-- After a conflict the creator looks the resource up again. -/
lemma creation_steps_of_conflict {response : Response} (hanswer : answer = .ok response)
    (h : response.status = 409) :
    ∃ e, (c.creation k name spec attempts).Steps c.site (c.createRequest k name spec) answer
      (c.createOrGetFrom k name spec attempts e) := by
  have hs : response.isSuccess = false := by
    simp [Response.isSuccess, h]
  have hreply : Reply.ofAnswer .post ⟨k.kind, name⟩ answer =
      .error (.conflict k.kind name (Reply.refusalText response.body)) := by
    simp [hanswer, Reply.ofAnswer, Reply.classify_of_not_isSuccess hs, Reply.refusal, h]
  refine ⟨.conflict k.kind name (Reply.refusalText response.body), creation_steps.of_run_eq ?_⟩
  rw [hreply]
  rfl

/-- A creation whose job has ended when it is handed over goes on as the job has ended. -/
lemma creation_steps_of_defers {response : Response} {job : JobRecord}
    (hanswer : answer = .ok response) (hdefers : response.Defers job)
    (hended : job.status.isTerminal = true) :
    (c.creation k name spec attempts).Steps c.site (c.createRequest k name spec) answer
      (c.afterCreation k name spec attempts job.verdict) := by
  obtain ⟨outcome, houtcome, hverdict⟩ := JobRecord.outcome?_of_terminal hended
  refine creation_steps.of_run_eq ?_
  rw [hanswer, Reply.ofAnswer_of_defers Method.post_ne_get hdefers, afterSubmit, houtcome,
    Operation.run_settle_bind, Operation.run_discard, ← hverdict]
  rfl

/-- A creation whose job goes on is followed by the wait for the job. -/
lemma creation_steps_of_goesOn {response : Response} {job : JobRecord}
    (hanswer : answer = .ok response) (hdefers : response.Defers job)
    (hgoesOn : job.status.isTerminal = false) :
    (c.creation k name spec attempts).Steps c.site (c.createRequest k name spec) answer
      (c.creationAfterJob k name spec attempts job.id) := by
  refine creation_steps.of_run_eq ?_
  rw [hanswer, Reply.ofAnswer_of_defers Method.post_ne_get hdefers, afterSubmit,
    JobRecord.outcome?_of_not_terminal hgoesOn]
  rfl

/-- When the first poll says that the job has ended, the creator goes on as the job has
ended. -/
lemma creationAfterJob_steps {id : JobId} {job : JobRecord}
    (hcarries : answer.Carries JobRecord.shape job) (hended : job.status.isTerminal = true) :
    (c.creationAfterJob k name spec attempts id).Steps c.site (c.pollRequest id) answer
      (c.afterCreation k name spec attempts job.verdict) := by
  have hpoll : (c.getJob id).on answer = .ok job := (on_read_eq_ok_iff rfl).2 hcarries
  obtain ⟨outcome, houtcome, hverdict⟩ := JobRecord.outcome?_of_terminal hended
  -- The wait ends with this poll, whatever time is left.
  have hwait : (c.waitOnJob id).Steps c.site (c.pollRequest id) answer (.ofExcept outcome) := by
    refine ⟨_, run_pollJob 0 _, ?_⟩
    rw [hpoll, PollVerdict.of]
    simp only [houtcome]
    rfl
  refine (hwait.discard.settle_bind _).of_run_eq ?_
  rw [Operation.run_settle_bind, Operation.run_discard, ← hverdict]
  rfl

/-- A creator whose job has succeeded reads the resource. -/
lemma afterCreation_of_succeeded {job : JobRecord} (h : job.status = .succeeded) :
    c.afterCreation k name spec attempts job.verdict = c.getResource k name := by
  rw [JobRecord.verdict, h]
  rfl

/-- A creator whose job was refused looks the resource up again. -/
lemma afterCreation_of_failedAsExisting {job : JobRecord} (h : job.FailedAsExisting) :
    c.afterCreation k name spec attempts job.verdict =
      c.createOrGetFrom k name spec attempts (.jobFailed job.id (job.result.getD "")) := by
  rw [JobRecord.verdict, h.1]
  simp only [afterCreation, h.isCreateRace, if_true]

end Client

end StorageArray
