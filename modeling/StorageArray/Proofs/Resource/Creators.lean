import Mathlib.Logic.Function.Basic
import Mathlib.Tactic.Common
import StorageArray.Proofs.Resource.Creation
import StorageArray.Resource.Host
/-!
# Concurrent creators

Several clients call `createOrGet` for one name, each with attributes of its own, and take turns
in any order; in a turn a client sends one request and gets the answer.  `NamedArray` is the
array between them: it keeps at most one record under the name and never removes it.

What each client has still to do is tied to what is stored by `Standing`: a client that knows of
the record, by an answer or from the job of a creation, finds it stored.  `Standing.turn` is one
turn of one client, case by case; `Invariant.turn` is one turn in the company of the others, who
are not disturbed because a stored record stays.  So whatever the order of the turns, all calls
end with the one record, at most one creation takes effect, and none is refused twice.
-/

namespace StorageArray

/-- The answer hands over a job that has the property, in the handle or in the record that the
client is owed for the next poll. -/
def Answer.HandsOver (answer : Answer) (owed : Option (JobId × JobRecord))
    (P : JobRecord → Prop) : Prop :=
  ∃ response handle, answer = .ok response ∧ response.Defers handle ∧
    (P handle ∨ handle.status.isTerminal = false ∧ ∃ job, owed = some (handle.id, job) ∧ P job)

/-- An array as the clients see it that create one resource: `client i` with the attributes
`spec i`.  It serves one request after the other. -/
structure NamedArray {R S ι : Type} (client : ι → Client) (k : ResourceClass R S) (name : String)
    (spec : ι → S) (σ : Type) where
  /-- The answer to a request of a client, and the state after it. -/
  serve : ι → Request → σ → Answer × σ
  /-- The record under the name. -/
  stored : σ → Option R
  /-- The job of a client with the record that its next poll is going to report. -/
  owed : σ → ι → Option (JobId × JobRecord)
  /-- What a client is owed is a matter of its own requests. -/
  owed_of_ne : ∀ i j request s, j ≠ i → owed (serve i request s).2 j = owed s j
  /-- A lookup is answered with the record if there is one. -/
  lookup_present : ∀ i s record, stored s = some record →
    let served := serve i (.get ((client i).resourcePath k name)) s
    served.1.Carries k.shape record ∧ stored served.2 = some record
  /-- Otherwise it is answered with the status 404. -/
  lookup_absent : ∀ i s, stored s = none →
    let served := serve i (.get ((client i).resourcePath k name)) s
    served.1.IsMissing ∧ stored served.2 = none
  /-- A creation stores a record if there is none, and success is reported at once or by a job. -/
  create_absent : ∀ i s, stored s = none →
    let served := serve i ((client i).createRequest k name (spec i)) s
    (stored served.2).isSome = true ∧
      ((∃ response : Response, served.1 = .ok response ∧ response.Confirms) ∨
        served.1.HandsOver (owed served.2 i) fun job => job.status = .succeeded)
  /-- Otherwise it is refused, by the status 409 or by a job that fails for this reason. -/
  create_present : ∀ i s record, stored s = some record →
    let served := serve i ((client i).createRequest k name (spec i)) s
    stored served.2 = some record ∧
      ((∃ response : Response, served.1 = .ok response ∧ response.status = 409) ∨
        served.1.HandsOver (owed served.2 i) JobRecord.FailedAsExisting)
  /-- A poll is answered with the record that is owed. -/
  poll : ∀ i s id job, owed s i = some (id, job) →
    let served := serve i ((client i).pollRequest id) s
    served.1.Carries JobRecord.shape job ∧ stored served.2 = stored s

/-! ### An array that works by jobs -/

namespace DeferringArray

/-- Two clients of one array. -/
def client (_ : Bool) : Client := ⟨.home, ⟨"000197600123"⟩, .default⟩

/-- Each client asks for a host with an initiator of its own. -/
def spec (i : Bool) : HostSpec := ⟨[if i then "iqn.b" else "iqn.a"]⟩

/-- The host that the creation of a client stores. -/
def host (i : Bool) : Host := ⟨"esx01", (spec i).initiators, [], 0⟩

/-- The host as the array reports it. -/
def hostReport (i : Bool) : Json :=
  .object [("hostId", .string "esx01"), ("initiator", .strings (spec i).initiators)]

/-- The job of a creation that takes effect, and of one that is refused. -/
def job : Bool → JobRecord
  | true => ⟨⟨"1"⟩, none, .succeeded, none, none, none⟩
  | false => ⟨⟨"2"⟩, none, .failed, some "Host already exists", none, none⟩

/-- The job when it is handed over. -/
def handleReport (succeeds : Bool) : Json :=
  .object [("jobId", .string (job succeeds).id.text), ("status", .string "RUNNING")]

/-- The job when it has ended. -/
def jobReport : Bool → Json
  | true => .object [("jobId", .string "1"), ("status", .string "SUCCEEDED")]
  | false => .object [("jobId", .string "2"), ("result", .string "Host already exists"),
      ("status", .string "FAILED")]

/-- Who has created the host, and whether the creation of each client took effect. -/
abbrev State := Option Bool × (Bool → Option Bool)

/-- The answer to a request, and the state after it. -/
def serve (i : Bool) (request : Request) (s : State) : Answer × State :=
  if request.method = .post then
    (.ok ⟨202, handleReport s.1.isNone⟩,
      some (s.1.getD i), Function.update s.2 i (some s.1.isNone))
  else if request.path = (client i).resourcePath Host.resources "esx01" then
    match s.1 with
    | some creator => (.ok ⟨200, hostReport creator⟩, s)
    | none => (.ok ⟨404, .null⟩, s)
  else match s.2 i with
    | some succeeds => (.ok ⟨200, jobReport succeeds⟩, s)
    | none => (.ok ⟨404, .null⟩, s)

lemma defers_handleReport (succeeds : Bool) :
    Response.Defers ⟨202, handleReport succeeds⟩
      ⟨(job succeeds).id, none, .running, none, none, none⟩ := by
  cases succeeds
  · exact ⟨rfl, rfl, rfl⟩
  · exact ⟨rfl, rfl, rfl⟩

lemma path_job_ne : ∀ i succeeds, (client i).systemPath ("job/" ++ (job succeeds).id.text) ≠
    (client i).resourcePath Host.resources "esx01" := by
  decide

/-- An array that hands over a job for every creation. -/
def array : NamedArray client Host.resources "esx01" spec State where
  serve := serve
  stored s := s.1.map host
  owed s i := (s.2 i).map fun succeeds => ((job succeeds).id, job succeeds)
  owed_of_ne i j request s hj := by
    unfold serve
    split
    · simp only [Function.update_of_ne hj]
    · split
      · split <;> rfl
      · split <;> rfl
  lookup_present i s record hs := by
    obtain ⟨creator, hcreator, rfl⟩ := Option.map_eq_some_iff.1 hs
    have hserve : serve i (.get ((client i).resourcePath Host.resources "esx01")) s =
        (.ok ⟨200, hostReport creator⟩, s) := by
      simp [serve, Request.get, hcreator]
    rw [hserve]
    refine ⟨⟨_, rfl, rfl, ?_⟩, hs⟩
    cases creator
    · rfl
    · rfl
  lookup_absent i s hs := by
    have hnone : s.1 = none := Option.map_eq_none_iff.1 hs
    have hserve : serve i (.get ((client i).resourcePath Host.resources "esx01")) s =
        (.ok ⟨404, .null⟩, s) := by
      simp [serve, Request.get, hnone]
    rw [hserve]
    exact ⟨⟨_, rfl, rfl⟩, hs⟩
  create_absent i s hs := by
    have hnone : s.1 = none := Option.map_eq_none_iff.1 hs
    have hserve : serve i ((client i).createRequest Host.resources "esx01" (spec i)) s =
        (.ok ⟨202, handleReport true⟩, some i, Function.update s.2 i (some true)) := by
      simp [serve, Client.createRequest, Request.post, hnone]
    rw [hserve]
    refine ⟨rfl, .inr ⟨_, _, rfl, defers_handleReport true, .inr ⟨rfl, job true, ?_, rfl⟩⟩⟩
    simp
  create_present i s record hs := by
    obtain ⟨creator, hcreator, rfl⟩ := Option.map_eq_some_iff.1 hs
    have hserve : serve i ((client i).createRequest Host.resources "esx01" (spec i)) s =
        (.ok ⟨202, handleReport false⟩, some creator, Function.update s.2 i (some false)) := by
      simp [serve, Client.createRequest, Request.post, hcreator]
    rw [hserve]
    refine ⟨rfl, .inr ⟨_, _, rfl, defers_handleReport false,
      .inr ⟨rfl, job false, ?_, rfl, by decide⟩⟩⟩
    simp
  poll i s id record howed := by
    obtain ⟨succeeds, hsucceeds, heq⟩ := Option.map_eq_some_iff.1 howed
    cases heq
    have hserve : serve i ((client i).pollRequest (job succeeds).id) s =
        (.ok ⟨200, jobReport succeeds⟩, s) := by
      simp [serve, Client.pollRequest, Request.get, path_job_ne i succeeds, hsucceeds]
    rw [hserve]
    refine ⟨⟨_, rfl, rfl, ?_⟩, rfl⟩
    cases succeeds
    · rfl
    · rfl

end DeferringArray

/-! ### One client -/

/-- How a client stands that has still to run a program, in at most so many turns, and whose
creation was refused so many times. -/
inductive Standing {R S : Type} (c : Client) (k : ResourceClass R S) (name : String) (spec : S)
    (stored : Option R) (owed : Option (JobId × JobRecord)) :
    Program (Except ArrayError R) → (turns refusals : Nat) → Prop
  /-- It is going to look the resource up for the first time. -/
  | looking {attempts : Nat} {last : ArrayError} (hattempts : 2 ≤ attempts) :
    Standing c k name spec stored owed (c.createOrGetFrom k name spec attempts last).run 4 0
  /-- It has found nothing and is going to send the creation. -/
  | creating {attempts : Nat} (hattempts : 1 ≤ attempts) :
    Standing c k name spec stored owed (c.creation k name spec attempts).run 3 0
  /-- Its creation is carried out by a job that has still to be polled. -/
  | created {attempts : Nat} {id : JobId} {job : JobRecord} (howed : owed = some (id, job))
      (hjob : job.status = .succeeded) (hstored : stored.isSome = true) :
    Standing c k name spec stored owed (c.creationAfterJob k name spec attempts id).run 2 0
  /-- Its creation is refused by a job that has still to be polled. -/
  | refused {attempts : Nat} {id : JobId} {job : JobRecord} (hattempts : 1 ≤ attempts)
      (howed : owed = some (id, job)) (hjob : job.FailedAsExisting)
      (hstored : stored.isSome = true) :
    Standing c k name spec stored owed (c.creationAfterJob k name spec attempts id).run 2 1
  /-- Its creation was refused, and it is going to look the resource up again. -/
  | lookingAgain {attempts : Nat} {last : ArrayError} (hattempts : 1 ≤ attempts)
      (hstored : stored.isSome = true) :
    Standing c k name spec stored owed (c.createOrGetFrom k name spec attempts last).run 1 1
  /-- It has created the resource and is going to read it. -/
  | reading (hstored : stored.isSome = true) :
    Standing c k name spec stored owed (c.getResource k name).run 1 0
  /-- It has returned the record. -/
  | finished {record : R} {refusals : Nat} (hstored : stored = some record)
      (hrefusals : refusals ≤ 1) :
    Standing c k name spec stored owed (.done (.ok record)) 0 refusals

variable {R S ι σ : Type} {client : ι → Client} {k : ResourceClass R S} {name : String}
  {spec : ι → S}

/-- A client stands as before when the stored record stays. -/
lemma Standing.of_stored {c : Client} {spec : S} {stored stored' : Option R}
    {owed : Option (JobId × JobRecord)} {p : Program (Except ArrayError R)} {n m : Nat}
    (h : Standing c k name spec stored owed p n m)
    (hkept : ∀ record, stored = some record → stored' = some record) :
    Standing c k name spec stored' owed p n m := by
  have hsome (hstored : stored.isSome = true) : stored'.isSome = true := by
    obtain ⟨record, hrecord⟩ := Option.isSome_iff_exists.1 hstored
    rw [hkept record hrecord]
    rfl
  cases h with
  | looking hattempts => exact .looking hattempts
  | creating hattempts => exact .creating hattempts
  | created howed hjob hstored => exact .created howed hjob (hsome hstored)
  | refused hattempts howed hjob hstored => exact .refused hattempts howed hjob (hsome hstored)
  | lookingAgain hattempts hstored => exact .lookingAgain hattempts (hsome hstored)
  | reading hstored => exact .reading (hsome hstored)
  | finished hstored hrefusals => exact .finished (hkept _ hstored) hrefusals

namespace NamedArray

variable (A : NamedArray client k name spec σ)

/-- What a request of a client comes to that had at most `turns` turns to go and was refused
`refusals` times; `next` is what it has to run afterwards. -/
structure Advance (i : ι) (s : σ) (request : Request) (next : Program (Except ArrayError R))
    (turns refusals : Nat) : Prop where
  /-- A stored record stays. -/
  kept : ∀ record, A.stored s = some record → A.stored (A.serve i request s).2 = some record
  /-- Only a creation stores one. -/
  unchanged : request.method ≠ .post → A.stored (A.serve i request s).2 = A.stored s
  /-- After a creation there is one. -/
  stores : request.method = .post → (A.stored (A.serve i request s).2).isSome = true
  /-- The client has fewer turns to go, and was refused once more if it sent a creation when
  there was a record. -/
  standing : ∃ n < turns, Standing (client i) k name (spec i) (A.stored (A.serve i request s).2)
    (A.owed (A.serve i request s).2 i) next n
    (refusals + if request.method = .post ∧ (A.stored s).isSome = true then 1 else 0)

variable {A} {i : ι} {s : σ} {request : Request} {next : Program (Except ArrayError R)}
  {turns turns' refusals : Nat}

lemma Advance.of_read (hm : request.method = .get)
    (hstored : A.stored (A.serve i request s).2 = A.stored s) (hturns : turns' < turns)
    (h : Standing (client i) k name (spec i) (A.stored (A.serve i request s).2)
      (A.owed (A.serve i request s).2 i) next turns' refusals) :
    A.Advance i s request next turns refusals where
  kept record hrecord := by rw [hstored, hrecord]
  unchanged _ := hstored
  stores hpost := by
    rw [hm] at hpost
    cases hpost
  standing := by
    refine ⟨turns', hturns, ?_⟩
    rw [if_neg (by simp [hm]), Nat.add_zero]
    exact h

/-- A creation that is sent when there is no record stores one. -/
lemma Advance.of_create_absent (hm : request.method = .post) (hs : A.stored s = none)
    (hstored : (A.stored (A.serve i request s).2).isSome = true) (hturns : turns' < turns)
    (h : Standing (client i) k name (spec i) (A.stored (A.serve i request s).2)
      (A.owed (A.serve i request s).2 i) next turns' refusals) :
    A.Advance i s request next turns refusals where
  kept record hrecord := by
    rw [hs] at hrecord
    cases hrecord
  unchanged hne := absurd hm hne
  stores _ := hstored
  standing := by
    refine ⟨turns', hturns, ?_⟩
    rw [if_neg (by simp [hs]), Nat.add_zero]
    exact h

/-- A creation that is sent when there is a record is refused. -/
lemma Advance.of_create_present {record : R} (hm : request.method = .post)
    (hs : A.stored s = some record) (hstored : A.stored (A.serve i request s).2 = some record)
    (hturns : turns' < turns)
    (h : Standing (client i) k name (spec i) (A.stored (A.serve i request s).2)
      (A.owed (A.serve i request s).2 i) next turns' (refusals + 1)) :
    A.Advance i s request next turns refusals where
  kept record' hrecord := by rw [hstored, ← hs, hrecord]
  unchanged hne := absurd hm hne
  stores _ := by
    rw [hstored]
    rfl
  standing := by
    refine ⟨turns', hturns, ?_⟩
    rw [if_pos (by simp [hm, hs])]
    exact h

variable (A) in
/-- The program sends a request of the client, and what it comes to is an advance. -/
def Advances (i : ι) (s : σ) (p : Program (Except ArrayError R)) (turns refusals : Nat) : Prop :=
  ∃ request resume, p = .send (client i).site request resume ∧
    A.Advance i s request (resume (A.serve i request s).1) turns refusals

lemma Advances.of_steps {op op' : Operation R}
    (hsteps : op.Steps (client i).site request (A.serve i request s).1 op')
    (h : A.Advance i s request op'.run turns refusals) : A.Advances i s op.run turns refusals := by
  obtain ⟨resume, hrun, hresume⟩ := hsteps
  refine ⟨request, resume, hrun, ?_⟩
  rw [hresume]
  exact h

variable {attempts : Nat} {last : ArrayError} {record : R}

/-- A lookup that finds the record is the last turn. -/
lemma advances_of_present (hs : A.stored s = some record) (hturns : 0 < turns)
    (hrefusals : refusals ≤ 1) {op : Operation R}
    (hsteps : ∀ {answer : Answer}, answer.Carries k.shape record →
      op.Steps (client i).site (.get ((client i).resourcePath k name)) answer (pure record)) :
    A.Advances i s op.run turns refusals := by
  obtain ⟨hcarries, hstored⟩ := A.lookup_present i s record hs
  refine .of_steps (hsteps hcarries) (.of_read rfl (hstored.trans hs.symm) hturns ?_)
  exact .finished hstored hrefusals

/-- A lookup that finds nothing leads to the creation. -/
lemma advances_of_absent (hs : A.stored s = none) (hattempts : 1 ≤ attempts) :
    A.Advances i s ((client i).createOrGetFrom k name (spec i) (attempts + 1) last).run 4 0 := by
  obtain ⟨hmissing, hstored⟩ := A.lookup_absent i s hs
  refine .of_steps (Client.createOrGetFrom_steps_of_isMissing hmissing)
    (.of_read rfl (hstored.trans hs.symm) (Nat.lt_succ_self 3) ?_)
  exact .creating hattempts

/-- A creation that takes effect leads to the read of the resource, at once or after a poll. -/
lemma advances_of_create_absent (hs : A.stored s = none) :
    A.Advances i s ((client i).creation k name (spec i) attempts).run 3 0 := by
  obtain ⟨hstored, ⟨response, hanswer, hconfirms⟩ |
    ⟨response, handle, hanswer, hdefers, hjob | ⟨hgoesOn, job, howed, hjob⟩⟩⟩ :=
    A.create_absent i s hs
  · exact .of_steps (Client.creation_steps_of_confirms hanswer hconfirms)
      (.of_create_absent rfl hs hstored (by omega) (.reading hstored))
  · have hended : handle.status.isTerminal = true := congrArg JobStatus.isTerminal hjob
    have hsteps : ((client i).creation k name (spec i) attempts).Steps (client i).site _ _ _ :=
      Client.creation_steps_of_defers hanswer hdefers hended
    rw [Client.afterCreation_of_succeeded hjob] at hsteps
    exact .of_steps hsteps (.of_create_absent rfl hs hstored (by omega) (.reading hstored))
  · exact .of_steps (Client.creation_steps_of_goesOn hanswer hdefers hgoesOn)
      (.of_create_absent rfl hs hstored (by omega) (.created howed hjob hstored))

/-- A creation that is refused leads to another lookup, at once or after a poll. -/
lemma advances_of_create_present (hs : A.stored s = some record) (hattempts : 1 ≤ attempts) :
    A.Advances i s ((client i).creation k name (spec i) attempts).run 3 0 := by
  obtain ⟨hstored, hrefused⟩ := A.create_present i s record hs
  have hsome : (A.stored (A.serve i ((client i).createRequest k name (spec i)) s).2).isSome =
      true := by
    rw [hstored]
    rfl
  obtain ⟨response, hanswer, hconflict⟩ |
    ⟨response, handle, hanswer, hdefers, hjob | ⟨hgoesOn, job, howed, hjob⟩⟩ := hrefused
  · obtain ⟨e, hsteps⟩ := Client.creation_steps_of_conflict hanswer hconflict
    exact .of_steps hsteps
      (.of_create_present rfl hs hstored (by omega) (.lookingAgain hattempts hsome))
  · have hended : handle.status.isTerminal = true := congrArg JobStatus.isTerminal hjob.1
    have hsteps : ((client i).creation k name (spec i) attempts).Steps (client i).site _ _ _ :=
      Client.creation_steps_of_defers hanswer hdefers hended
    rw [Client.afterCreation_of_failedAsExisting hjob] at hsteps
    exact .of_steps hsteps
      (.of_create_present rfl hs hstored (by omega) (.lookingAgain hattempts hsome))
  · exact .of_steps (Client.creation_steps_of_goesOn hanswer hdefers hgoesOn)
      (.of_create_present rfl hs hstored (by omega) (.refused hattempts howed hjob hsome))

/-- The poll of a creator's job leads on as the job has ended. -/
lemma advances_of_poll {id : JobId} {job : JobRecord} (howed : A.owed s i = some (id, job))
    (hended : job.status.isTerminal = true) {op : Operation R}
    (hafter : (client i).afterCreation k name (spec i) attempts job.verdict = op)
    (h : ∀ {owed}, Standing (client i) k name (spec i) (A.stored s) owed op.run 1 refusals) :
    A.Advances i s ((client i).creationAfterJob k name (spec i) attempts id).run 2 refusals := by
  obtain ⟨hcarries, hkept⟩ := A.poll i s id job howed
  have hsteps : ((client i).creationAfterJob k name (spec i) attempts id).Steps (client i).site
      _ _ _ :=
    Client.creationAfterJob_steps hcarries hended
  rw [hafter] at hsteps
  refine .of_steps hsteps (.of_read rfl hkept (Nat.lt_succ_self 1) ?_)
  rw [hkept]
  exact h

end NamedArray

/-- A client has returned the stored record, or its next request is an advance. -/
lemma Standing.turn {A : NamedArray client k name spec σ} {i : ι} {s : σ}
    {p : Program (Except ArrayError R)} {turns refusals : Nat}
    (h : Standing (client i) k name (spec i) (A.stored s) (A.owed s i) p turns refusals) :
    (∃ record, p = .done (.ok record) ∧ A.stored s = some record ∧ turns = 0 ∧ refusals ≤ 1) ∨
      A.Advances i s p turns refusals := by
  cases h with
  | @looking attempts last hattempts =>
      -- One attempt is used up here, and one is left for the lookup after a refusal.
      obtain ⟨attempts, rfl⟩ : ∃ n, attempts = n + 1 := ⟨attempts - 1, by omega⟩
      right
      cases hs : A.stored s with
      | none => exact NamedArray.advances_of_absent hs (by omega)
      | some record =>
          exact NamedArray.advances_of_present hs (by omega) (by omega) fun hcarries =>
            Client.createOrGetFrom_steps_of_carries hcarries
  | creating hattempts =>
      right
      cases hs : A.stored s with
      | none => exact NamedArray.advances_of_create_absent hs
      | some record => exact NamedArray.advances_of_create_present hs hattempts
  | created howed hjob hstored =>
      have hended : JobStatus.isTerminal _ = true := congrArg JobStatus.isTerminal hjob
      exact .inr (NamedArray.advances_of_poll howed hended
        (Client.afterCreation_of_succeeded hjob) (.reading hstored))
  | refused hattempts howed hjob hstored =>
      have hended : JobStatus.isTerminal _ = true := congrArg JobStatus.isTerminal hjob.1
      exact .inr (NamedArray.advances_of_poll howed hended
        (Client.afterCreation_of_failedAsExisting hjob) (.lookingAgain hattempts hstored))
  | @lookingAgain attempts last hattempts hstored =>
      obtain ⟨attempts, rfl⟩ : ∃ n, attempts = n + 1 := ⟨attempts - 1, by omega⟩
      obtain ⟨record, hs⟩ := Option.isSome_iff_exists.1 hstored
      exact .inr (NamedArray.advances_of_present hs (by omega) (by omega) fun hcarries =>
        Client.createOrGetFrom_steps_of_carries hcarries)
  | reading hstored =>
      obtain ⟨record, hs⟩ := Option.isSome_iff_exists.1 hstored
      exact .inr (NamedArray.advances_of_present hs (by omega) (by omega) fun hcarries =>
        Client.getResource_steps_of_carries hcarries)
  | finished hstored hrefusals => exact .inl ⟨_, rfl, hstored, rfl, hrefusals⟩

/-! ### All clients -/

/-- The clients, what each has still to run, and the array between them. -/
structure Creators (R ι σ : Type) where
  /-- What the clients have still to run. -/
  programs : ι → Program (Except ArrayError R)
  /-- The state of the array. -/
  array : σ
  /-- The creations that were sent, the last one first: who sent it, and whether it took
  effect. -/
  creations : List (ι × Bool)

namespace Creators

/-- How many creations took effect. -/
def effects (w : Creators R ι σ) : Nat := w.creations.countP fun x => x.2

variable [DecidableEq ι]

/-- How many creations of a client were refused. -/
def refusals (w : Creators R ι σ) (i : ι) : Nat := w.creations.countP fun x => x.1 = i && !x.2

variable (A : NamedArray client k name spec σ)

/-- All clients have called, and nothing was sent yet. -/
def start (client : ι → Client) (k : ResourceClass R S) (name : String) (spec : ι → S) (s : σ) :
    Creators R ι σ where
  programs i := ((client i).createOrGet k name (spec i)).run
  array := s
  creations := []

variable (A : NamedArray client k name spec σ)

/-- A client takes its turn: it sends its next request and gets the answer. -/
def turn (w : Creators R ι σ) (i : ι) : Creators R ι σ :=
  match w.programs i with
  | .done _ => w
  | .send _ request resume =>
    let served := A.serve i request w.array
    { programs := Function.update w.programs i (resume served.1)
      array := served.2
      creations :=
        if request.method = .post then
          (i, (A.stored w.array).isNone && (A.stored served.2).isSome) :: w.creations
        else w.creations }

/-- The clients take turns in this order. -/
def run (schedule : List ι) (s : σ) : Creators R ι σ :=
  schedule.foldl (turn A) (start client k name spec s)

/-- How the clients stand after the turns of a schedule. -/
structure Invariant (s : σ) (schedule : List ι) (w : Creators R ι σ) : Prop where
  /-- Each client has at most four turns to go, and one less for each that it had. -/
  standing : ∀ i, ∃ turns ≤ 4 - schedule.count i, Standing (client i) k name (spec i)
    (A.stored w.array) (A.owed w.array i) (w.programs i) turns (w.refusals i)
  /-- A record from before the calls is still stored. -/
  kept : ∀ record, A.stored s = some record → A.stored w.array = some record
  /-- A record that was not there before the calls was stored by one creation. -/
  effects : (A.stored s).isSome.toNat + w.effects = (A.stored w.array).isSome.toNat

variable {A} {s : σ} {schedule : List ι} {w : Creators R ι σ} {i : ι}

lemma start_invariant (hattempts : ∀ i, 2 ≤ (client i).settings.maxCreateAttempts) :
    Invariant A s [] (start client k name spec s) where
  standing i := by
    have hmax : 2 ≤ max 1 (client i).settings.maxCreateAttempts :=
      Nat.le_trans (hattempts i) (Nat.le_max_right _ _)
    exact ⟨4, Nat.le_refl 4, .looking hmax⟩
  kept _ hrecord := hrecord
  effects := rfl

section Send

variable {site : Site} {request : Request} {resume : Answer → Program (Except ArrayError R)}
  {turns refusals : Nat}

lemma turn_of_send (h : w.programs i = .send site request resume) :
    turn A w i =
      { programs := Function.update w.programs i (resume (A.serve i request w.array).1)
        array := (A.serve i request w.array).2
        creations :=
          if request.method = .post then
            (i, (A.stored w.array).isNone && (A.stored (A.serve i request w.array).2).isSome) ::
              w.creations
          else w.creations } := by
  simp only [turn, h]

/-- The creations of the others are not counted. -/
lemma refusals_turn_of_ne (h : w.programs i = .send site request resume) {j : ι} (hj : j ≠ i) :
    (turn A w i).refusals j = w.refusals j := by
  rw [turn_of_send h]
  simp only [Creators.refusals]
  split
  · rw [List.countP_cons_of_neg (by simp [Ne.symm hj])]
  · rfl

/-- A creation is refused when there is a record. -/
lemma refusals_turn (h : w.programs i = .send site request resume)
    (hadv : A.Advance i w.array request (resume (A.serve i request w.array).1) turns refusals) :
    (turn A w i).refusals i =
      w.refusals i +
        if request.method = .post ∧ (A.stored w.array).isSome = true then 1 else 0 := by
  rw [turn_of_send h]
  simp only [Creators.refusals]
  by_cases hm : request.method = .post
  · rw [if_pos hm, List.countP_cons, hadv.stores hm]
    cases A.stored w.array with
    | none => simp
    | some record => simp [hm]
  · rw [if_neg hm, if_neg (by simp [hm]), Nat.add_zero]

/-- A creation takes effect when there is no record. -/
lemma effects_turn (h : w.programs i = .send site request resume)
    (hadv : A.Advance i w.array request (resume (A.serve i request w.array).1) turns refusals) :
    (turn A w i).effects + (A.stored w.array).isSome.toNat =
      w.effects + (A.stored (turn A w i).array).isSome.toNat := by
  rw [turn_of_send h]
  simp only [Creators.effects]
  by_cases hm : request.method = .post
  · rw [if_pos hm, List.countP_cons, hadv.stores hm]
    cases A.stored w.array with
    | none => simp
    | some record => simp
  · rw [if_neg hm, hadv.unchanged hm]

end Send

/-- A turn of one client leaves all clients standing as they should. -/
lemma Invariant.turn (h : Invariant A s schedule w) (i : ι) :
    Invariant A s (schedule ++ [i]) (turn A w i) := by
  have hcount (j : ι) : (schedule ++ [i]).count j = schedule.count j + if i = j then 1 else 0 := by
    rw [List.count_append, List.count_singleton]
    simp
  obtain ⟨turns, hturns, hstanding⟩ := h.standing i
  obtain ⟨record, hdone, hrecord, hzero, hrefusals⟩ | ⟨request, resume, hsend, hadv⟩ :=
    hstanding.turn
  · -- A client that has returned does nothing with its turn.
    have hturn : Creators.turn A w i = w := by
      simp only [Creators.turn, hdone]
    rw [hturn]
    refine ⟨fun j => ?_, h.kept, h.effects⟩
    by_cases hj : j = i
    · subst hj
      exact ⟨turns, by omega, hstanding⟩
    · obtain ⟨turns', hturns', hstanding'⟩ := h.standing j
      refine ⟨turns', ?_, hstanding'⟩
      rw [hcount, if_neg (Ne.symm hj)]
      omega
  · have harray : (Creators.turn A w i).array = (A.serve i request w.array).2 := by
      rw [turn_of_send hsend]
    have hprograms : (Creators.turn A w i).programs =
        Function.update w.programs i (resume (A.serve i request w.array).1) := by
      rw [turn_of_send hsend]
    refine ⟨fun j => ?_, fun record hrecord => ?_, ?_⟩
    · rw [harray, hprograms, hcount]
      by_cases hj : j = i
      · subst hj
        obtain ⟨turns', hlt, hnext⟩ := hadv.standing
        rw [Function.update_self, refusals_turn hsend hadv, if_pos rfl]
        exact ⟨turns', by omega, hnext⟩
      · -- The others stand as before: a stored record stays, and what they are owed as well.
        obtain ⟨turns', hturns', hstanding'⟩ := h.standing j
        rw [Function.update_of_ne hj, refusals_turn_of_ne hsend hj, A.owed_of_ne i j _ _ hj,
          if_neg (Ne.symm hj)]
        exact ⟨turns', hturns', hstanding'.of_stored hadv.kept⟩
    · rw [harray]
      exact hadv.kept record (h.kept record hrecord)
    · have heffects := effects_turn hsend hadv
      have hbefore := h.effects
      omega

lemma invariant_run (hattempts : ∀ i, 2 ≤ (client i).settings.maxCreateAttempts)
    (schedule : List ι) (s : σ) : Invariant A s schedule (run A schedule s) := by
  induction schedule using List.reverseRecOn with
  | nil => exact start_invariant hattempts
  | append_singleton schedule i ih =>
      rw [run, List.foldl_append]
      exact ih.turn i

end Creators

lemma Standing.refusals_le {c : Client} {spec : S} {stored : Option R}
    {owed : Option (JobId × JobRecord)} {p : Program (Except ArrayError R)}
    {turns refusals : Nat} (h : Standing c k name spec stored owed p turns refusals) :
    refusals ≤ 1 := by
  cases h with
  | finished hstored hrefusals => exact hrefusals
  | _ => omega

/-- **Concurrent creators converge.**  Clients that may attempt at least two creations call
`createOrGet` for one name and take turns in any order.

* A client that had four turns has returned.
* A client that has returned has the record that is stored, and nothing replaces it.
* At most one creation takes effect; when there was no record before the calls and a client has
  returned, one did.
* No client was refused more than once.

In the runs every wait has a deadline, and polls take no time. -/
theorem creators_converge [DecidableEq ι] (A : NamedArray client k name spec σ)
    (hattempts : ∀ i, 2 ≤ (client i).settings.maxCreateAttempts) (schedule : List ι) (s : σ) :
    let w := Creators.run A schedule s
    (∀ i, 4 ≤ schedule.count i → ∃ result, w.programs i = .done result) ∧
    (∀ i result, w.programs i = .done result →
      ∃ record, result = .ok record ∧ A.stored w.array = some record) ∧
    (∀ record, A.stored s = some record → A.stored w.array = some record) ∧
    w.effects ≤ 1 ∧
    (A.stored s = none → (∃ i result, w.programs i = .done result) → w.effects = 1) ∧
    ∀ i, w.refusals i ≤ 1 := by
  intro w
  have hinv : Creators.Invariant A s schedule w := Creators.invariant_run hattempts schedule s
  have hreturned : ∀ i result, w.programs i = .done result →
      ∃ record, result = .ok record ∧ A.stored w.array = some record := by
    intro i result hresult
    obtain ⟨turns, -, hstanding⟩ := hinv.standing i
    obtain ⟨record, hdone, hrecord, -, -⟩ | ⟨request, resume, hsend, -⟩ := hstanding.turn
    · rw [hresult] at hdone
      exact ⟨record, Program.done.inj hdone, hrecord⟩
    · rw [hresult] at hsend
      cases hsend
  have heffects := hinv.effects
  refine ⟨?_, hreturned, hinv.kept, ?_, ?_, ?_⟩
  · intro i hcount
    obtain ⟨turns, hturns, hstanding⟩ := hinv.standing i
    obtain ⟨record, hdone, -, -, -⟩ | ⟨request, resume, -, hadv⟩ := hstanding.turn
    · exact ⟨.ok record, hdone⟩
    · -- Another request would leave fewer than no turns to go.
      obtain ⟨turns', hlt, -⟩ := hadv.standing
      omega
  · have hle : (A.stored w.array).isSome.toNat ≤ 1 := Bool.toNat_le _
    omega
  · rintro habsent ⟨i, result, hresult⟩
    obtain ⟨record, -, hrecord⟩ := hreturned i result hresult
    rw [habsent, hrecord] at heffects
    simpa using heffects
  · intro i
    obtain ⟨turns, -, hstanding⟩ := hinv.standing i
    exact hstanding.refusals_le

/-- Two clients find nothing, both send their creation, and both wait for its job; in the end both
have the host that one of them has created. -/
theorem creators_converge_by_jobs :
    let schedule : List Bool := [false, true, true, false, false, true, false, true]
    let w := Creators.run DeferringArray.array schedule (none, fun _ => none)
    (∀ i, 2 ≤ (DeferringArray.client i).settings.maxCreateAttempts) ∧
      (∃ record, ∀ i, w.programs i = .done (.ok record)) ∧ w.effects = 1 := by
  intro schedule w
  have hattempts : ∀ i, 2 ≤ (DeferringArray.client i).settings.maxCreateAttempts := by
    intro i
    exact (by decide : 2 ≤ Settings.default.maxCreateAttempts)
  obtain ⟨hdone, hreturned, -, -, honce, -⟩ :=
    creators_converge DeferringArray.array hattempts schedule (none, fun _ => none)
  have hall : ∀ i, ∃ record, w.programs i = .done (.ok record) ∧
      DeferringArray.array.stored w.array = some record := by
    intro i
    obtain ⟨result, hresult⟩ := hdone i (by cases i <;> decide)
    obtain ⟨record, rfl, hstored⟩ := hreturned i result hresult
    exact ⟨record, hresult, hstored⟩
  obtain ⟨record, hrecord, hstored⟩ := hall false
  refine ⟨hattempts, ⟨record, fun i => ?_⟩, honce rfl ⟨false, _, hrecord⟩⟩
  obtain ⟨record', hrecord', hstored'⟩ := hall i
  rw [hstored] at hstored'
  cases hstored'
  exact hrecord'

end StorageArray
