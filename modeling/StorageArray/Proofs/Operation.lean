import Mathlib.Tactic.Common
import StorageArray.Client
import StorageArray.Proofs.Text.Lowercase
import StorageArray.Proofs.Transcript
/-!
# Transcripts of operations

An operation is a program that ends in a result or an error.  The lemmas of the first part
take its transcript apart along the steps from which it is put together: `yields_bind`,
`yields_settle` and their companions.

The second part says what responses mean, as far as it matters to those who go on from there:
`Reply.classify_eq_complete_iff` and `Reply.classify_eq_deferred_iff` for the success of a
change, `Answer.Fails` for every error, whatever was asked.

The third part is about operations that send one request.  `op.on answer` is what such an
operation makes of an answer; `Client.run_submit`, `Client.run_fetch` and `Client.run_read`
give the whole program.

In the transcripts of an operation that waits every wait has a deadline, and polls take no time.
`Settings.performOnClock_eq_some_iff` says which of its runs a given clock lets come to a result.
-/

namespace StorageArray

namespace Method

lemma post_ne_get : post ≠ get := by decide

lemma put_ne_get : put ≠ get := by decide

lemma delete_ne_get : delete ≠ get := by decide

lemma get_ne_delete : get ≠ delete := by decide

lemma put_ne_delete : put ≠ delete := by decide

end Method

namespace Operation

variable {α β : Type}

/-- In a run with this transcript the operation ends in the result. -/
def Yields (op : Operation α) (t : Transcript) (r : Except ArrayError α) : Prop :=
  op.run.Yields t r

/-- A sequence of results is a success exactly when both of its parts are. -/
lemma except_bind_eq_ok_iff {ε : Type} {x : Except ε α} {f : α → Except ε β} {b : β} :
    (x >>= f) = .ok b ↔ ∃ a, x = .ok a ∧ f a = .ok b := by
  cases x with
  | ok a => simp [bind, Except.bind]
  | error e => simp [bind, Except.bind]

/-- What follows an operation is reached when it succeeds. -/
lemma run_bind (op : Operation α) (f : α → Operation β) :
    (op >>= f).run = op.run.bind fun
      | .ok a => (f a).run
      | .error e => .done (.error e) := by
  change op.run.bind (ExceptT.bindCont f) = _
  congr 1
  funext r
  cases r <;> rfl

@[simp] lemma run_pure (a : α) : (pure a : Operation α).run = .done (.ok a) := rfl

@[simp] lemma run_ofExcept (r : Except ArrayError α) : (ofExcept r).run = .done r := rfl

@[simp] lemma run_fail (e : ArrayError) : (fail e : Operation α).run = .done (.error e) := rfl

@[simp] lemma yields_pure {a : α} {t : Transcript} {r : Except ArrayError α} :
    Yields (pure a) t r ↔ t = [] ∧ r = .ok a :=
  Program.yields_done_iff

@[simp] lemma yields_ofExcept {q r : Except ArrayError α} {t : Transcript} :
    Yields (ofExcept q) t r ↔ t = [] ∧ r = q :=
  Program.yields_done_iff

@[simp] lemma yields_fail {e : ArrayError} {t : Transcript} {r : Except ArrayError α} :
    Yields (fail e) t r ↔ t = [] ∧ r = .error e :=
  Program.yields_done_iff

/-- The first part of a sequence decides whether the second is reached. -/
lemma yields_bind_cases {op : Operation α} {f : α → Operation β} {t : Transcript}
    {r : Except ArrayError β} :
    Yields (op >>= f) t r ↔
      ∃ t₁ t₂ q, t = t₁ ++ t₂ ∧ Yields op t₁ q ∧
        match q with
        | .error e => t₂ = [] ∧ r = .error e
        | .ok a => Yields (f a) t₂ r := by
  rw [Yields, run_bind, Program.yields_bind]
  refine exists_congr fun t₁ => exists_congr fun t₂ => exists_congr fun q => ?_
  refine and_congr_right fun _ => and_congr_right fun _ => ?_
  cases q with
  | ok a => rfl
  | error e => exact Program.yields_done_iff

/-- A sequence ends with the error of its first part, or goes on with the second. -/
lemma yields_bind {op : Operation α} {f : α → Operation β} {t : Transcript}
    {r : Except ArrayError β} :
    Yields (op >>= f) t r ↔
      (∃ t₁ t₂ a, t = t₁ ++ t₂ ∧ Yields op t₁ (.ok a) ∧ Yields (f a) t₂ r) ∨
        ∃ e, Yields op t (.error e) ∧ r = .error e := by
  rw [yields_bind_cases]
  constructor
  · rintro ⟨t₁, t₂, q, rfl, h₁, h₂⟩
    cases q with
    | ok a => exact .inl ⟨t₁, t₂, a, rfl, h₁, h₂⟩
    | error e =>
        obtain ⟨rfl, rfl⟩ := h₂
        rw [List.append_nil]
        exact .inr ⟨e, h₁, rfl⟩
  · rintro (⟨t₁, t₂, a, rfl, h₁, h₂⟩ | ⟨e, h, rfl⟩)
    · exact ⟨t₁, t₂, .ok a, rfl, h₁, h₂⟩
    · exact ⟨t, [], .error e, (List.append_nil t).symm, h, rfl, rfl⟩

/-- What follows an operation that cannot fail is always reached. -/
lemma yields_bind_of_succeeds {op : Operation α}
    (hop : ∀ {t r}, Yields op t r → ∃ a, r = .ok a) {f : α → Operation β} {t : Transcript}
    {r : Except ArrayError β} :
    Yields (op >>= f) t r ↔
      ∃ t₁ t₂ a, t = t₁ ++ t₂ ∧ Yields op t₁ (.ok a) ∧ Yields (f a) t₂ r := by
  rw [yields_bind]
  refine or_iff_left ?_
  rintro ⟨e, herror, -⟩
  obtain ⟨a, ha⟩ := hop herror
  cases ha

/-- What only looks at the value of an operation sends nothing more. -/
lemma yields_bind_ofExcept {op : Operation α} {f : α → Operation β}
    {g : α → Except ArrayError β} (hf : ∀ a, f a = ofExcept (g a)) {t : Transcript}
    {r : Except ArrayError β} :
    Yields (op >>= f) t r ↔ ∃ q, Yields op t q ∧ r = q.bind g := by
  rw [yields_bind_cases]
  constructor
  · rintro ⟨t₁, t₂, q, rfl, h₁, h₂⟩
    cases q with
    | ok a =>
        simp only [hf] at h₂
        obtain ⟨rfl, rfl⟩ := yields_ofExcept.1 h₂
        rw [List.append_nil]
        exact ⟨_, h₁, rfl⟩
    | error e =>
        obtain ⟨rfl, rfl⟩ := h₂
        rw [List.append_nil]
        exact ⟨_, h₁, rfl⟩
  · rintro ⟨q, h, rfl⟩
    refine ⟨t, [], q, (List.append_nil t).symm, h, ?_⟩
    cases q with
    | ok a =>
        simp only [hf]
        exact yields_ofExcept.2 ⟨rfl, rfl⟩
    | error e => exact ⟨rfl, rfl⟩

/-- The same for an operation whose result is in one answer. -/
lemma yields_bind_of_answer {op : Operation α} {exchange : Answer → Exchange}
    {value : Answer → Except ArrayError α}
    (hop : ∀ {t q}, Yields op t q ↔ ∃ answer, t = [exchange answer] ∧ q = value answer)
    {f : α → Operation β} {g : α → Except ArrayError β} (hf : ∀ a, f a = ofExcept (g a))
    {t : Transcript} {r : Except ArrayError β} :
    Yields (op >>= f) t r ↔ ∃ answer, t = [exchange answer] ∧ r = (value answer).bind g := by
  rw [yields_bind_ofExcept hf]
  constructor
  · rintro ⟨q, h, rfl⟩
    obtain ⟨answer, rfl, rfl⟩ := hop.1 h
    exact ⟨answer, rfl, rfl⟩
  · rintro ⟨answer, rfl, rfl⟩
    exact ⟨_, hop.2 ⟨answer, rfl, rfl⟩, rfl⟩

/-- Settling an operation turns its result into a value. -/
@[simp] lemma yields_settle {op : Operation α} {t : Transcript}
    {r : Except ArrayError (Except ArrayError α)} :
    Yields op.settle t r ↔ ∃ q, Yields op t q ∧ r = .ok q := by
  rw [Yields, run_settle, Program.yields_bind]
  constructor
  · rintro ⟨t₁, t₂, q, rfl, h₁, h₂⟩
    obtain ⟨rfl, rfl⟩ := Program.yields_done_iff.1 h₂
    rw [List.append_nil]
    exact ⟨q, h₁, rfl⟩
  · rintro ⟨q, h, rfl⟩
    exact ⟨t, [], q, by simp, h, .done _⟩

/-- What follows a settled operation is always reached. -/
lemma run_settle_bind (op : Operation α) (f : Except ArrayError α → Operation β) :
    (op.settle >>= f).run = op.run.bind fun q => (f q).run := by
  rw [run_bind, run_settle, Program.bind_assoc]
  rfl

/-- A settled operation does not end what follows it. -/
lemma yields_settle_bind {op : Operation α} {f : Except ArrayError α → Operation β}
    {t : Transcript} {r : Except ArrayError β} :
    Yields (op.settle >>= f) t r ↔
      ∃ t₁ t₂ q, t = t₁ ++ t₂ ∧ Yields op t₁ q ∧ Yields (f q) t₂ r := by
  rw [Yields, run_settle_bind, Program.yields_bind]
  rfl

/-- What only looks at the result of a settled operation sends nothing more. -/
lemma yields_settle_bind_ofExcept {op : Operation α} {f : Except ArrayError α → Operation β}
    {g : Except ArrayError α → Except ArrayError β} (hf : ∀ q, f q = ofExcept (g q))
    {t : Transcript} {r : Except ArrayError β} :
    Yields (op.settle >>= f) t r ↔ ∃ q, Yields op t q ∧ r = g q := by
  rw [yields_settle_bind]
  constructor
  · rintro ⟨t₁, t₂, q, rfl, h₁, h₂⟩
    rw [hf] at h₂
    obtain ⟨rfl, rfl⟩ := yields_ofExcept.1 h₂
    rw [List.append_nil]
    exact ⟨q, h₁, rfl⟩
  · rintro ⟨q, h, rfl⟩
    refine ⟨t, [], q, (List.append_nil t).symm, h, ?_⟩
    rw [hf]
    exact yields_ofExcept.2 ⟨rfl, rfl⟩

end Operation

/-- A run on a stage, as its transcript and its result. -/
lemma Stage.yields_of_perform {α : Type} {s : Stage} {op : Operation α} {t : Transcript}
    {r : Except ArrayError α} (ht : op.run.transcript Stage.answer s = t)
    (hr : (s.perform op).1 = r) : op.Yields t r := by
  rw [← ht, ← hr]
  exact Program.yields_transcript _ _ _

/-! ### What responses mean -/

namespace Response

/-- The response says that a change was carried out at once. -/
def Confirms (r : Response) : Prop :=
  r.isSuccess = true ∧ r.status ≠ 202 ∧ Reply.isJobHandle r.body = false

/-- The response says that a change goes on as a job. -/
def Defers (r : Response) (job : JobRecord) : Prop :=
  r.isSuccess = true ∧ Reply.isJobHandle r.body = true ∧
    JobRecord.shape.decode r.body = .ok job

lemma status_ne_of_isSuccess {r : Response} (h : r.isSuccess = true) : r.status ≠ 404 := by
  intro h404
  simp [isSuccess, h404] at h

end Response

lemma decodeBody_eq_ok_iff {α : Type} (context : String) {shape : Shape α} {body : Json}
    {a : α} : decodeBody context shape body = .ok a ↔ shape.decode body = .ok a := by
  unfold decodeBody
  cases shape.decode body <;> simp [Except.mapError]

/-- A body that cannot be read is an unexpected response, and nothing else. -/
lemma exists_of_decodeBody_eq_error {α : Type} {context : String} {shape : Shape α} {body : Json}
    {e : ArrayError} (h : decodeBody context shape body = .error e) :
    ∃ detail, e = .unexpectedResponse context detail := by
  unfold decodeBody at h
  cases hd : shape.decode body with
  | ok a => simp [hd, Except.mapError] at h
  | error e' =>
      simp only [hd, Except.mapError, Except.error.injEq] at h
      exact ⟨_, h.symm⟩

namespace Reply

variable {method : Method} {subject : Subject}

/-- What an answer means for a request with this verb and subject. -/
def ofAnswer (method : Method) (subject : Subject) : Answer → Except ArrayError Reply
  | .ok response => classify method response subject
  | .error e => .error (.transport e)

/-- The error of a response that refuses the request. -/
def refusal (subject : Subject) (response : Response) : ArrayError :=
  let text := refusalText response.body
  if response.status = 404 then .notFound subject.kind subject.name
  else if response.status = 409 || Text.contains (Text.lowercase text) "already exists" then
    .conflict subject.kind subject.name text
  else .rejected response.status text

/-- The text of a refusal says, in letters of either case, that something exists already. -/
def SaysExists (text : String) : Prop := Text.ContainsInAnyCase text "already exists"

lemma saysExists_iff {text : String} :
    Text.contains (Text.lowercase text) "already exists" = true ↔ SaysExists text :=
  Text.contains_lowercase_iff (by decide) (by simp [Text.IsPlain]) (by decide)

/-- A refusal is a conflict by its status or by its text. -/
lemma refusal_of_conflict {response : Response} (hmissing : response.status ≠ 404)
    (hexists : response.status = 409 ∨ SaysExists (refusalText response.body)) :
    refusal subject response =
      .conflict subject.kind subject.name (refusalText response.body) := by
  have htest : (response.status = 409 ||
      Text.contains (Text.lowercase (refusalText response.body)) "already exists") = true := by
    simpa [saysExists_iff] using hexists
  unfold refusal
  rw [if_neg hmissing, if_pos htest]

/-- A refusal that is neither for something missing nor a conflict keeps its status. -/
lemma refusal_of_rejected {response : Response} (hmissing : response.status ≠ 404)
    (hconflict : response.status ≠ 409)
    (hexists : ¬ SaysExists (refusalText response.body)) :
    refusal subject response = .rejected response.status (refusalText response.body) := by
  have htest : ¬ (response.status = 409 ||
      Text.contains (Text.lowercase (refusalText response.body)) "already exists") = true := by
    simpa [saysExists_iff, hconflict] using hexists
  unfold refusal
  rw [if_neg hmissing, if_neg htest]

lemma classify_of_not_isSuccess {response : Response} (hs : response.isSuccess = false) :
    classify method response subject = .error (refusal subject response) := by
  unfold classify refusal
  simp only [hs, Bool.false_eq_true, if_false]
  split_ifs <;> rfl

/-- A read is never deferred. -/
lemma classify_get {response : Response} (hs : response.isSuccess = true) :
    classify .get response subject = .ok (.complete response.body) := by
  simp [classify, hs]

lemma classify_change (hm : method ≠ .get) {response : Response}
    (hs : response.isSuccess = true) :
    classify method response subject =
      if isJobHandle response.body then
        (decodeBody "job handle" JobRecord.shape response.body).map .deferred
      else if response.status = 202 then
        .error (.unexpectedResponse subject.text "accepted response did not carry a job handle")
      else .ok (.complete response.body) := by
  unfold classify
  rw [if_pos hs, if_neg hm]

/-- A change is carried out at once exactly when the response confirms it. -/
lemma classify_eq_complete_iff (hm : method ≠ .get) {response : Response} {body : Json} :
    classify method response subject = .ok (.complete body) ↔
      response.Confirms ∧ body = response.body := by
  unfold Response.Confirms
  cases hs : response.isSuccess with
  | false => simp [classify_of_not_isSuccess hs]
  | true =>
      rw [classify_change hm hs]
      by_cases hj : isJobHandle response.body = true
      · cases decodeBody "job handle" JobRecord.shape response.body <;> simp [hj, Except.map]
      · by_cases h202 : response.status = 202 <;> simp [hj, h202, eq_comm]

/-- A change is deferred to a job exactly when the response hands the job over. -/
lemma classify_eq_deferred_iff (hm : method ≠ .get) {response : Response} {job : JobRecord} :
    classify method response subject = .ok (.deferred job) ↔ response.Defers job := by
  unfold Response.Defers
  rw [← decodeBody_eq_ok_iff "job handle"]
  cases hs : response.isSuccess with
  | false => simp [classify_of_not_isSuccess hs]
  | true =>
      rw [classify_change hm hs]
      by_cases hj : isJobHandle response.body = true
      · cases decodeBody "job handle" JobRecord.shape response.body <;> simp [hj, Except.map]
      · by_cases h202 : response.status = 202 <;> simp [hj, h202]

lemma ofAnswer_of_confirms (hm : method ≠ .get) {response : Response} (h : response.Confirms) :
    ofAnswer method subject (.ok response) = .ok (.complete response.body) :=
  (classify_eq_complete_iff hm).2 ⟨h, rfl⟩

lemma ofAnswer_of_defers (hm : method ≠ .get) {response : Response} {job : JobRecord}
    (h : response.Defers job) : ofAnswer method subject (.ok response) = .ok (.deferred job) :=
  (classify_eq_deferred_iff hm).2 h

/-- Only a success has a reply. -/
lemma isSuccess_of_ofAnswer_eq_ok {answer : Answer} {reply : Reply}
    (h : ofAnswer method subject answer = .ok reply) :
    ∃ response : Response, answer = .ok response ∧ response.isSuccess = true := by
  cases answer with
  | error e => simp [ofAnswer] at h
  | ok response =>
      refine ⟨response, rfl, ?_⟩
      by_contra hs
      simp [ofAnswer, classify_of_not_isSuccess (Bool.eq_false_iff.2 hs)] at h

end Reply

/-- The ways in which an answer does not give what was asked for, with the error. -/
inductive Answer.Fails (subject : Subject) : Answer → ArrayError → Prop
  /-- There is no response. -/
  | lost (e : TransportError) : Fails subject (.error e) (.transport e)
  /-- The response refuses the request. -/
  | refused {response : Response} (hrefused : response.isSuccess = false) :
    Fails subject (.ok response) (Reply.refusal subject response)
  /-- The request was accepted, and the response cannot be read. -/
  | unreadable {response : Response} (hsuccess : response.isSuccess = true)
      (context detail : String) :
    Fails subject (.ok response) (.unexpectedResponse context detail)

lemma Reply.fails_of_ofAnswer {method : Method} {subject : Subject} {answer : Answer}
    {e : ArrayError} (h : ofAnswer method subject answer = .error e) :
    answer.Fails subject e := by
  cases answer with
  | error e' =>
      cases h
      exact .lost e'
  | ok response =>
      simp only [ofAnswer] at h
      cases hs : response.isSuccess with
      | false =>
          rw [classify_of_not_isSuccess hs] at h
          cases h
          exact .refused hs
      | true =>
          by_cases hm : method = .get
          · subst hm
            simp [classify_get hs] at h
          · rw [classify_change hm hs] at h
            split_ifs at h
            · cases hd : decodeBody "job handle" JobRecord.shape response.body with
              | ok job => simp [hd, Except.map] at h
              | error e' =>
                  obtain ⟨detail, rfl⟩ := exists_of_decodeBody_eq_error hd
                  simp only [hd, Except.map, Except.error.injEq] at h
                  subst h
                  exact .unreadable hs _ _
            · cases h
              exact .unreadable hs _ _

/-- Something is reported as missing exactly by an answer with the status 404. -/
lemma Answer.Fails.isNotFound_iff {subject : Subject} {answer : Answer} {e : ArrayError}
    (h : answer.Fails subject e) :
    e.isNotFound = true ↔ ∃ response, answer = .ok response ∧ response.status = 404 := by
  cases h with
  | lost e => simp [ArrayError.isNotFound]
  | @refused response hrefused =>
      by_cases h404 : response.status = 404
      · simp [Reply.refusal, h404, ArrayError.isNotFound]
      · simp only [Reply.refusal, h404, if_false, Except.ok.injEq, exists_eq_left', iff_false,
          Bool.not_eq_true]
        split_ifs <;> rfl
  | unreadable hsuccess context detail =>
      simp [ArrayError.isNotFound, Response.status_ne_of_isSuccess hsuccess]

/-! ### Paths -/

namespace Client

variable {c : Client}

lemma provisioningPath_inj {a b : String} :
    c.provisioningPath a = c.provisioningPath b ↔ a = b :=
  String.append_right_inj _

lemma replicationPath_inj {a b : String} : c.replicationPath a = c.replicationPath b ↔ a = b :=
  String.append_right_inj _

lemma replicationPath_append (c : Client) (tail rest : String) :
    c.replicationPath tail ++ rest = c.replicationPath (tail ++ rest) := by
  simp only [replicationPath, String.append_assoc]

/-- A path below the provisioning is no path below the replication. -/
lemma provisioningPath_ne_replicationPath {a b : String} :
    c.provisioningPath a ≠ c.replicationPath b := by
  intro h
  simp only [replicationPath, provisioningPath, String.append_assoc, String.append_right_inj] at h
  have hchars := congrArg String.toList h
  simp [String.toList_append] at hchars

/-- A path below the provisioning is no path of the system. -/
lemma systemPath_ne_provisioningPath {a b : String} :
    c.systemPath a ≠ c.provisioningPath b := by
  intro h
  simp only [systemPath, provisioningPath, String.append_assoc, String.append_right_inj] at h
  have hchars := congrArg String.toList h
  simp [String.toList_append] at hchars

/-- A path below the replication is no path of the system. -/
lemma systemPath_ne_replicationPath {a b : String} : c.systemPath a ≠ c.replicationPath b := by
  intro h
  simp only [systemPath, replicationPath, String.append_assoc, String.append_right_inj] at h
  have hchars := congrArg String.toList h
  simp [String.toList_append] at hchars

end Client

/-! ### Operations that send one request -/

namespace Operation

variable {α : Type}

/-- What an operation makes of an answer that it gets to every request. -/
def on (op : Operation α) (answer : Answer) : Except ArrayError α :=
  (op.run.run (fun _ _ _ => (answer, ())) ()).1

end Operation

namespace Client

variable {α : Type} (c : Client) (request : Request) (subject : Subject) (context : String)
  (shape : Shape α)

lemma run_submit :
    (c.submit request subject).run =
      .send c.site request fun answer => .done (Reply.ofAnswer request.method subject answer) := by
  rw [submit, Operation.run_bind]
  change (Program.send c.site request _).bind _ = _
  rw [Program.send_bind]
  congr 1
  funext answer
  cases answer <;> rfl

/-- The body in an answer to a request that has to be carried out at once. -/
def bodyIn (answer : Answer) : Except ArrayError Json :=
  match Reply.ofAnswer request.method subject answer with
  | .ok (.complete body) => .ok body
  | .ok (.deferred job) => .error
      (.unexpectedResponse request.path ("read request was deferred as job " ++ job.id.text))
  | .error e => .error e

lemma run_fetch :
    (c.fetch request subject).run =
      .send c.site request fun answer => .done (bodyIn request subject answer) := by
  rw [fetch, Operation.run_bind, run_submit, Program.send_bind]
  congr 1
  funext answer
  rw [Program.done_bind, bodyIn]
  rcases Reply.ofAnswer request.method subject answer with e | body | job <;> rfl

/-- The value in an answer to a request for a value of a shape. -/
def valueIn (answer : Answer) : Except ArrayError α :=
  (bodyIn request subject answer).bind (decodeBody context shape)

lemma run_read :
    (c.read request subject context shape).run =
      .send c.site request fun answer => .done (valueIn request subject context shape answer) := by
  rw [read, Operation.run_bind, run_fetch, Program.send_bind]
  congr 1
  funext answer
  rw [Program.done_bind, valueIn]
  cases bodyIn request subject answer <;> rfl

variable {c request subject context shape}

lemma on_read (answer : Answer) :
    (c.read request subject context shape).on answer =
      valueIn request subject context shape answer := by
  unfold Operation.on
  rw [run_read]
  rfl

/-- A fetch leaves one exchange, and its body is in the answer. -/
lemma yields_fetch_iff {t : Transcript} {r : Except ArrayError Json} :
    (c.fetch request subject).Yields t r ↔
      ∃ answer, t = [⟨c.site, request, answer⟩] ∧ r = bodyIn request subject answer := by
  rw [Operation.Yields, run_fetch]
  exact Program.yields_send_done_iff

/-- A body is given exactly by a success. -/
lemma bodyIn_eq_ok_iff (hm : request.method = .get) {answer : Answer} {body : Json} :
    bodyIn request subject answer = .ok body ↔
      ∃ response : Response, answer = .ok response ∧ response.isSuccess = true ∧
        body = response.body := by
  unfold bodyIn
  cases answer with
  | error e => simp [Reply.ofAnswer]
  | ok response =>
      simp only [Reply.ofAnswer, hm, Except.ok.injEq]
      cases hs : response.isSuccess with
      | false => simp [Reply.classify_of_not_isSuccess hs, hs]
      | true => simp [Reply.classify_get hs, hs, eq_comm]

/-- A read leaves one exchange, and its result is in the answer. -/
lemma yields_read_iff {t : Transcript} {r : Except ArrayError α} :
    Operation.Yields (c.read request subject context shape) t r ↔
      ∃ answer, t = [⟨c.site, request, answer⟩] ∧
        r = valueIn request subject context shape answer := by
  rw [Operation.Yields, run_read]
  exact Program.yields_send_done_iff

/-- The same with what the operation makes of the answer. -/
lemma yields_read_on_iff {t : Transcript} {r : Except ArrayError α} :
    Operation.Yields (c.read request subject context shape) t r ↔
      ∃ answer, t = [⟨c.site, request, answer⟩] ∧
        r = (c.read request subject context shape).on answer := by
  simp only [on_read]
  exact yields_read_iff

/-- A value is read exactly from the body of a success. -/
lemma valueIn_eq_ok_iff (hm : request.method = .get) {answer : Answer} {a : α} :
    valueIn request subject context shape answer = .ok a ↔
      ∃ response : Response, answer = .ok response ∧ response.isSuccess = true ∧
        shape.decode response.body = .ok a := by
  change (bodyIn request subject answer >>= decodeBody context shape) = .ok a ↔ _
  simp only [Operation.except_bind_eq_ok_iff, bodyIn_eq_ok_iff hm, decodeBody_eq_ok_iff]
  constructor
  · rintro ⟨_, ⟨response, hanswer, hsuccess, rfl⟩, hdecode⟩
    exact ⟨response, hanswer, hsuccess, hdecode⟩
  · rintro ⟨response, hanswer, hsuccess, hdecode⟩
    exact ⟨_, ⟨response, hanswer, hsuccess, rfl⟩, hdecode⟩

/-- A read that is refused has the error of the refusal. -/
lemma valueIn_of_not_isSuccess {response : Response} (hs : response.isSuccess = false) :
    valueIn request subject context shape (.ok response) =
      .error (Reply.refusal subject response) := by
  rw [valueIn, bodyIn, Reply.ofAnswer, Reply.classify_of_not_isSuccess hs, Except.bind]

/-- The answer with the status 404 to a read says that its subject is missing. -/
lemma valueIn_of_status_eq {response : Response} (h : response.status = 404) :
    valueIn request subject context shape (.ok response) =
      .error (.notFound subject.kind subject.name) := by
  have hs : response.isSuccess = false := by
    simp [Response.isSuccess, h]
  rw [valueIn_of_not_isSuccess hs, Reply.refusal, if_pos h]

lemma fails_of_bodyIn {answer : Answer} {e : ArrayError}
    (h : bodyIn request subject answer = .error e) : answer.Fails subject e := by
  unfold bodyIn at h
  split at h
  · cases h
  · rename_i job hdeferred
    obtain ⟨response, rfl, hs⟩ := Reply.isSuccess_of_ofAnswer_eq_ok hdeferred
    cases h
    exact .unreadable hs _ _
  · rename_i e' herror
    cases h
    exact Reply.fails_of_ofAnswer herror

lemma fails_of_valueIn {answer : Answer} {e : ArrayError}
    (h : valueIn request subject context shape answer = .error e) : answer.Fails subject e := by
  unfold valueIn at h
  cases hbody : bodyIn request subject answer with
  | error e' =>
      rw [hbody] at h
      cases h
      exact fails_of_bodyIn hbody
  | ok body =>
      rw [hbody] at h
      obtain ⟨detail, rfl⟩ := exists_of_decodeBody_eq_error h
      -- There is a body only in a response that accepts the request.
      unfold bodyIn at hbody
      split at hbody
      · rename_i hcomplete
        obtain ⟨response, rfl, hs⟩ := Reply.isSuccess_of_ofAnswer_eq_ok hcomplete
        exact .unreadable hs _ _
      · cases hbody
      · cases hbody

end Client

/-! ### Operations that only read -/

namespace Operation

variable {α : Type}

/-- All that the operation sends are reads. -/
def Reads (op : Operation α) : Prop :=
  ∀ ⦃t : Transcript⦄ ⦃r : Except ArrayError α⦄, op.Yields t r → t.changes = []

lemma reads_ofExcept (result : Except ArrayError α) : Reads (ofExcept result) := by
  intro t r h
  obtain ⟨rfl, -⟩ := yields_ofExcept.1 h
  rfl

end Operation

namespace Client

variable {c : Client} {request : Request} {subject : Subject}

lemma reads_fetch (hm : request.method = .get) : Operation.Reads (c.fetch request subject) := by
  intro t r h
  obtain ⟨answer, rfl, -⟩ := yields_fetch_iff.1 h
  exact Transcript.changes_eq_nil_iff.2 fun e he => by rw [List.mem_singleton.1 he, hm]

lemma reads_read {α : Type} {context : String} {shape : Shape α} (hm : request.method = .get) :
    Operation.Reads (c.read request subject context shape) := by
  intro t r h
  obtain ⟨answer, rfl, -⟩ := yields_read_iff.1 h
  exact Transcript.changes_eq_nil_iff.2 fun e he => by rw [List.mem_singleton.1 he, hm]

end Client

end StorageArray
