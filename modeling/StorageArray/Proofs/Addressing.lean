import Mathlib.Tactic.Common
import StorageArray.Proofs.Call
import StorageArray.Proofs.Job.Settlement
/-!
# Where requests go

A client builds its paths from the version, its own array and what the caller or the array gave it:
names of groups, identifiers of volumes and jobs.  However these read, the path begins with the
client's own array, or with the jobs beside it, because they only ever stand behind that.

`Operation.SendsOnly P` is the property of operations that send only requests of a kind `P`.  It
passes from parts to wholes, so by `Call.composed` no call leaves the array of the client that sends
the request.  The same property with another `P` says that a call that only asks, as
`Call.isQuestion` lists them, sends no payload and changes nothing.
-/

namespace StorageArray

namespace Operation

variable {α β : Type} {P : Site → Request → Prop}

/-- All requests that the operation sends are of one kind. -/
def SendsOnly (P : Site → Request → Prop) (op : Operation α) : Prop :=
  ∀ ⦃t : Transcript⦄ ⦃r : Except ArrayError α⦄, op.Yields t r → ∀ e ∈ t, P e.site e.request

namespace SendsOnly

lemma mono {Q : Site → Request → Prop} {op : Operation α} (h : SendsOnly P op)
    (hPQ : ∀ site request, P site request → Q site request) : SendsOnly Q op :=
  fun _ _ hyields e he => hPQ _ _ (h hyields e he)

lemma ofExcept (result : Except ArrayError α) : SendsOnly P (.ofExcept result) := by
  intro t r h e he
  obtain ⟨rfl, -⟩ := yields_ofExcept.1 h
  cases he

lemma bind {op : Operation α} {f : α → Operation β} (hop : SendsOnly P op)
    (hf : ∀ a, SendsOnly P (f a)) : SendsOnly P (op >>= f) := by
  intro t r h e he
  obtain ⟨t₁, t₂, a, rfl, h₁, h₂⟩ | ⟨_, h, -⟩ := yields_bind.1 h
  · rcases List.mem_append.1 he with he | he
    · exact hop h₁ e he
    · exact hf a h₂ e he
  · exact hop h e he

lemma settle {op : Operation α} (hop : SendsOnly P op) : SendsOnly P op.settle := by
  intro t r h e he
  obtain ⟨q, h, -⟩ := yields_settle.1 h
  exact hop h e he

end SendsOnly

end Operation

namespace Client

open Operation (SendsOnly)

variable {α : Type} {P : Site → Request → Prop} {c : Client} {request : Request}
  {subject : Subject} {job : JobId}

lemma sendsOnly_fetch (h : P c.site request) : SendsOnly P (c.fetch request subject) := by
  intro t r hyields e he
  obtain ⟨answer, rfl, -⟩ := yields_fetch_iff.1 hyields
  obtain rfl := List.mem_singleton.1 he
  exact h

lemma sendsOnly_read {context : String} {shape : Shape α} (h : P c.site request) :
    SendsOnly P (c.read request subject context shape) :=
  .bind (sendsOnly_fetch h) fun _ => .ofExcept _

/-- A wait sends nothing but its poll, again and again. -/
lemma sendsOnly_waitOnJob (h : P c.site (c.pollRequest job)) : SendsOnly P (c.waitOnJob job) := by
  have hpolls {answers : Nat → Answer} {n : Nat} {e : Exchange}
      (he : e ∈ c.polls job answers 0 n) : P e.site e.request := by
    obtain ⟨i, -, rfl⟩ := mem_polls_iff.1 he
    exact h
  intro t r hyields e he
  obtain ⟨answers, ⟨n, -, -, rfl, -⟩ | ⟨-, rfl, -⟩⟩ := cases_of_yields_waitOnJob hyields
  · exact hpolls he
  · exact hpolls he

/-- Which job a change is deferred to is up to the array. -/
lemma sendsOnly_execute (h : P c.site request) (hpoll : ∀ job, P c.site (c.pollRequest job)) :
    SendsOnly P (c.execute request subject) := by
  intro t r hyields e he
  obtain ⟨hsite, hrequest | ⟨job, hrequest⟩⟩ := mem_of_yields_execute hyields he
  · rw [hsite, hrequest]
    exact h
  · rw [hsite, hrequest]
    exact hpoll job

end Client

/-! ### The array of the client -/

lemma Client.addresses_pollRequest (c : Client) (job : JobId) : c.Addresses (c.pollRequest job) :=
  ⟨job.text, .inr (.inr rfl)⟩

/-- What is put together from requests to the clients' own arrays stays there. -/
lemma Operation.Composed.sendsOnly {arrays : Arrays} {α : Type} {op : Operation α}
    (h : Composed arrays op) :
    SendsOnly (fun site request => (arrays.client site).Addresses request) op := by
  induction h with
  | ofExcept result => exact .ofExcept result
  | fetch _ haddressed => exact Client.sendsOnly_fetch haddressed
  | waitOnJob => exact Client.sendsOnly_waitOnJob (Client.addresses_pollRequest _ _)
  | execute _ haddressed =>
      exact Client.sendsOnly_execute haddressed (Client.addresses_pollRequest _)
  | bind _ _ hop hf => exact hop.bind hf
  | settle _ hop => exact hop.settle

/-- The request is for the array at its site: for one of the jobs there, or for something below the
provisioning or the replication of the array. -/
def Arrays.Owns (arrays : Arrays) (site : Site) (request : Request) : Prop :=
  let version := (arrays.settings site).apiVersion
  let id := (arrays.id site).text
  ∃ tail, request.path = version ++ "/system/job/" ++ tail ∨
    request.path = version ++ "/sloprovisioning/symmetrix/" ++ id ++ "/" ++ tail ∨
    request.path = version ++ "/replication/symmetrix/" ++ id ++ "/" ++ tail

lemma Arrays.owns_of_addresses {arrays : Arrays} {site : Site} {request : Request}
    (h : (arrays.client site).Addresses request) : arrays.Owns site request := by
  obtain ⟨tail, h | h | h⟩ := h
  · exact ⟨tail, .inr (.inl h)⟩
  · exact ⟨tail, .inr (.inr h)⟩
  · refine ⟨tail, .inl (h.trans ?_)⟩
    simp only [Client.systemPath, String.append_assoc]
    rfl

/-! ### Calls that only ask -/

/-- The call gets, lists or finds something, or waits for a job. -/
def Call.isQuestion {α : Type} : Call α → Bool
  | .partner call => call.isQuestion
  | .getJob _ | .waitOnJob _ => true
  | .getResource .. | .listResources _ | .findHostByInitiator _ | .listMaskingViews _ => true
  | .getVolume _ | .findVolumes .. | .findVolumesByName _ => true
  | .listSnapshots _ | .getSnapshot .. | .listGenerations .. | .getGeneration .. => true
  | .getReplicationState .. | .getReplicationGroup _ | .listReplicationGroups
  | .getDevicePair .. => true
  | _ => false

/-- The request reads, and carries no payload. -/
def Request.IsPlainRead (request : Request) : Prop := request.method = .get ∧ request.body = none

section Questions

open Operation (SendsOnly)

variable {c : Client}

lemma Client.asks_findVolumes (name group : Option String) :
    SendsOnly (fun _ request => request.IsPlainRead) (c.findVolumes name group) :=
  .bind (sendsOnly_fetch ⟨rfl, rfl⟩) fun _ => .bind (.ofExcept _) fun _ => .ofExcept (.ok _)

lemma Client.asks_findHostByInitiator (initiator : String) :
    SendsOnly (fun _ request => request.IsPlainRead) (c.findHostByInitiator initiator) := by
  refine .bind (sendsOnly_fetch ⟨rfl, rfl⟩) fun listing => .bind (.ofExcept _) fun ids => ?_
  cases ids with
  | nil => exact .ofExcept _
  | cons id rest =>
      refine .bind (sendsOnly_read ⟨rfl, rfl⟩) fun record => ?_
      cases record.host with
      | none => exact .ofExcept _
      | some host =>
          -- The host is looked up only when the initiator has one.
          simp only
          split
          · exact .ofExcept _
          · exact sendsOnly_read ⟨rfl, rfl⟩

/-- Calls that only ask send plain reads. -/
lemma Call.asks {α : Type} {call : Call α} (h : call.isQuestion = true) (c remote : Client) :
    SendsOnly (fun _ request => request.IsPlainRead) (call.operation c remote) := by
  open Client in
  induction call generalizing c remote with
  | partner call ih => exact ih h remote c
  | getJob job => exact sendsOnly_read ⟨rfl, rfl⟩
  | waitOnJob job => exact sendsOnly_waitOnJob ⟨rfl, rfl⟩
  | getResource k name => exact sendsOnly_read ⟨rfl, rfl⟩
  | listResources k => exact .bind (sendsOnly_fetch ⟨rfl, rfl⟩) fun _ => .ofExcept _
  | findHostByInitiator initiator => exact asks_findHostByInitiator initiator
  | listMaskingViews group => exact .bind (sendsOnly_fetch ⟨rfl, rfl⟩) fun _ => .ofExcept _
  | getVolume id => exact sendsOnly_read ⟨rfl, rfl⟩
  | findVolumes name group => exact asks_findVolumes name group
  | findVolumesByName name => exact asks_findVolumes _ _
  | listSnapshots source =>
      refine .bind (sendsOnly_fetch ⟨rfl, rfl⟩) fun _ => ?_
      exact .bind (.ofExcept _) fun _ => .ofExcept (.ok _)
  | getSnapshot name source => exact sendsOnly_read ⟨rfl, rfl⟩
  | listGenerations name source =>
      refine .bind (sendsOnly_fetch ⟨rfl, rfl⟩) fun _ => .bind (.ofExcept _) fun _ => ?_
      exact .bind (.ofExcept _) fun _ => .ofExcept (.ok _)
  | getGeneration name source generation => exact sendsOnly_read ⟨rfl, rfl⟩
  | getReplicationState group number => exact sendsOnly_read ⟨rfl, rfl⟩
  | getReplicationGroup number => exact sendsOnly_read ⟨rfl, rfl⟩
  | listReplicationGroups =>
      exact .bind (sendsOnly_read ⟨rfl, rfl⟩) fun _ => .ofExcept (.ok _)
  | getDevicePair number id => exact sendsOnly_read ⟨rfl, rfl⟩
  | _ => cases h

end Questions

/-! ### Links around any step -/

/-- What stands around a step is for the client's own array, whatever the step sends. -/
lemma Client.sendsOnly_linkDuring {arrays : Arrays} {site : Site} {α : Type} (name : String)
    (sources : List VolumeId) (generation : UInt32) (targets : List VolumeId) {step : Operation α}
    {P : Site → Request → Prop} (hstep : step.SendsOnly P) :
    Operation.SendsOnly (fun site request => arrays.Owns site request ∨ P site request)
      ((arrays.client site).linkDuring name sources generation targets step) := by
  have hchange (action : SnapshotAction) :
      Operation.SendsOnly (fun site request => arrays.Owns site request ∨ P site request)
        ((arrays.client site).modifySnapshot name sources generation action) :=
    (composed_modifySnapshot name sources generation action).sendsOnly.mono
      fun _ _ h => .inl (Arrays.owns_of_addresses h)
  refine .bind (hchange _) fun _ => ?_
  refine .bind (hstep.mono fun _ _ h => .inr h).settle fun outcome => ?_
  exact .bind (hchange _).settle fun unlinked => .ofExcept _

/-- **Requests stay with their array.**  Whatever the arrays answer,

* every request that a call sends to a site is for the array at that site, also when the call talks
  to both sites;
* a call that only asks sends reads without a payload;
* a link around a step sends nothing else of its own either, whatever the step may send.

In the runs every wait has a deadline, and polls take no time. -/
theorem requests_stay_with_array (arrays : Arrays) (site partner : Site) :
    (∀ {α : Type} (call : Call α) {t : Transcript} {r : Except ArrayError α},
      (call.operation (arrays.client site) (arrays.client partner)).Yields t r →
        (∀ e ∈ t, arrays.Owns e.site e.request) ∧
          (call.isQuestion = true → ∀ e ∈ t, e.request.IsPlainRead)) ∧
    ∀ {α : Type} (name : String) (sources : List VolumeId) (generation : UInt32)
        (targets : List VolumeId) (step : Operation α) (P : Site → Request → Prop),
      step.SendsOnly P → ∀ {t : Transcript} {r : Except ArrayError α},
        ((arrays.client site).linkDuring name sources generation targets step).Yields t r →
          ∀ e ∈ t, arrays.Owns e.site e.request ∨ P e.site e.request := by
  constructor
  · intro α call t r hrun
    have hcomposed := call.composed arrays site partner
    exact ⟨fun e he => Arrays.owns_of_addresses (hcomposed.sendsOnly hrun e he),
      fun hquestion e he => call.asks hquestion _ _ hrun e he⟩
  · intro α name sources generation targets step P hstep t r hrun e he
    exact Client.sendsOnly_linkDuring name sources generation targets hstep hrun e he

/-- A pair is torn down of which the partner and a group have names that look like paths to the
other array; and a volume is asked for whose identifier looks so. -/
theorem requests_stay_with_array_named_like_paths :
    let arrays : Arrays := ⟨fun | .home => ⟨"000197600123"⟩ | .remote => ⟨"000197600456"⟩,
      fun _ => Settings.default⟩
    let volume (id group : String) : Answer := .ok ⟨200, .object [
      ("storageGroupId", .array [.string group]), ("volumeId", .string id)]⟩
    let pair : Answer := .ok ⟨200, .object [("localVolumeName", .string "0012A"),
      ("remoteSymmetrixId", .string "000197600456"),
      ("remoteVolumeName", .string "../../000197600123/volume/0012A")]⟩
    let done : Answer := .ok ⟨200, .null⟩
    let teardown := (Call.teardownProtectedVolume 7 "SG1" "SG1R" ⟨"0012A"⟩).operation
      (arrays.client .home) (arrays.client .remote)
    let s : Stage := {
      home := { queued := [pair, done, volume "0012A" "../volume", done, done, done, done] }
      remote := { queued := [volume "0034B" "../../000197600123/storagegroup/SG1", done, done,
        done, done] } }
    let t := teardown.run.transcript Stage.answer s
    let other := "../../000197600456/volume/0034B"
    let question := (Call.getVolume ⟨other⟩).operation (arrays.client .home) (arrays.client .remote)
    let s' : Stage := { home := { queued := [.ok ⟨404, .null⟩] } }
    let t' := question.run.transcript Stage.answer s'
    teardown.Yields t (.ok ()) ∧
      t.map (·.site) = List.replicate 7 .home ++ List.replicate 5 .remote ∧
      (∀ e ∈ t, arrays.Owns e.site e.request) ∧
      question.Yields t' (.error (.notFound "volume" other)) ∧ ∀ e ∈ t', e.request.IsPlainRead := by
  intro arrays volume pair done teardown s t other question s' t'
  have hteardown : teardown.Yields t (.ok ()) := by
    refine Stage.yields_of_perform (s := s) rfl ?_
    unfold teardown arrays
    rfl
  have hsites : t.map (·.site) = List.replicate 7 .home ++ List.replicate 5 .remote := by
    unfold t teardown arrays
    rfl
  have hquestion : question.Yields t' (.error (.notFound "volume" other)) :=
    Stage.yields_of_perform (s := s') rfl rfl
  have hboth := requests_stay_with_array arrays .home .remote
  exact ⟨hteardown, hsites, (hboth.1 _ hteardown).1, hquestion, (hboth.1 _ hquestion).2 rfl⟩

end StorageArray
