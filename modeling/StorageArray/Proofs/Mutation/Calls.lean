import Mathlib.Tactic.Common
import StorageArray.Proofs.Call
import StorageArray.Proofs.Job.Settlement
import StorageArray.Proofs.Mutation.Change
/-!
# Calls that make one change

`MutatingCall` lists the calls that change an array by one request, with their arguments.  A call
asks for one change, `MutatingCall.change`, and from the change the call can be read off again
(`MutatingCall.ofChange?_change`).  `Operation.ChangesBy` says that whatever an operation sends
besides reads is one request; it passes from parts to wholes, and every one of the calls has it for
the request of its change.  With `Change.request_eq_iff` the requests tell the calls apart.
-/

namespace StorageArray

/-! ### Operations that send one change -/

namespace Operation

variable {α β : Type} {x : Site × Request}

/-- What the operation sends besides reads is this request. -/
def ChangesBy (op : Operation α) (x : Site × Request) : Prop :=
  ∀ ⦃t : Transcript⦄ ⦃r : Except ArrayError α⦄, op.Yields t r → ∀ y ∈ t.changes, y = x

namespace ChangesBy

lemma of_reads {op : Operation α} (h : Reads op) : ChangesBy op x := by
  intro t r hyields y hy
  rw [h hyields] at hy
  cases hy

lemma ofExcept (result : Except ArrayError α) : ChangesBy (.ofExcept result) x :=
  of_reads (reads_ofExcept result)

lemma bind {op : Operation α} {f : α → Operation β} (hop : ChangesBy op x)
    (hf : ∀ a, ChangesBy (f a) x) : ChangesBy (op >>= f) x := by
  intro t r h y hy
  obtain ⟨t₁, t₂, a, rfl, h₁, h₂⟩ | ⟨e, herror, -⟩ := yields_bind.1 h
  · rw [Transcript.changes_append, List.mem_append] at hy
    exact hy.elim (hop h₁ y) (hf a h₂ y)
  · exact hop herror y hy

lemma settle_bind {op : Operation α} {f : Except ArrayError α → Operation β}
    (hop : ChangesBy op x) (hf : ∀ q, ChangesBy (f q) x) : ChangesBy (op.settle >>= f) x := by
  refine bind (fun t r h => ?_) hf
  obtain ⟨q, h, -⟩ := yields_settle.1 h
  exact hop h

lemma ite {p : Prop} [Decidable p] {op op' : Operation α} (hop : ChangesBy op x)
    (hop' : ChangesBy op' x) : ChangesBy (if p then op else op') x := by
  split
  · exact hop
  · exact hop'

end ChangesBy

end Operation

namespace Client

open Operation (ChangesBy)

variable {c : Client} {request : Request} {subject : Subject}

lemma changesBy_execute (hm : request.method ≠ .get) :
    ChangesBy (c.execute request subject) (c.site, request) := by
  intro t r h y hy
  rw [changes_of_yields_execute hm h] at hy
  exact List.mem_singleton.1 hy

/-- All creations of a creator are the same request. -/
lemma changesBy_createOrGetFrom {R S : Type} (k : ResourceClass R S) (name : String) (spec : S)
    (attempts : Nat) (last : ArrayError) :
    ChangesBy (c.createOrGetFrom k name spec attempts last)
      (c.site, c.createRequest k name spec) := by
  have hget : ChangesBy (c.getResource k name) (c.site, c.createRequest k name spec) :=
    .of_reads (reads_read rfl)
  induction attempts generalizing last with
  | zero => exact .ofExcept _
  | succ attempts ih =>
      refine .settle_bind hget fun q => ?_
      cases q with
      | ok record => exact .ofExcept _
      | error e =>
          refine .ite ?_ (.ofExcept _)
          refine .settle_bind (changesBy_execute Method.post_ne_get) fun q => ?_
          cases q with
          | ok _ => exact hget
          | error e => exact .ite (ih e) (.ofExcept _)

lemma changesBy_createVolumeIn (group name : String) (size : UInt32)
    (remote : Option Volume.RemoteGroup) :
    ChangesBy (c.createVolumeIn group name size remote)
      (c.site, .put (c.storageGroupPath group) (Volume.creationPayload name size remote)) := by
  refine .bind (.ofExcept _) fun _ => .ite (.ofExcept _) ?_
  refine .bind (changesBy_execute Method.put_ne_get) fun _ => .bind ?_ fun _ => .ofExcept _
  exact .bind (.of_reads (reads_fetch rfl)) fun _ => .bind (.ofExcept _) fun _ => .ofExcept _

lemma changesBy_expandVolume (id : VolumeId) (size : UInt32) :
    ChangesBy (c.expandVolume id size)
      (c.site, .put (c.volumePath id) (Volume.expansionPayload size)) := by
  refine .bind (.of_reads (reads_read rfl)) fun _ => .ite (.ofExcept _) ?_
  refine .bind (changesBy_execute Method.put_ne_get) fun _ => ?_
  exact .bind (.of_reads (reads_read rfl)) fun _ => .ite (.ofExcept _) (.ofExcept _)

end Client

/-! ### Calls -/

/-- The calls that change an array by one request, with their arguments. -/
inductive MutatingCall where
  /-- Creates a resource unless there is one. -/
  | create (k : ResourceKind) (name : String) (spec : k.Spec)
  /-- Deletes a resource. -/
  | deleteResource (k : ResourceKind) (name : String)
  | createVolume (group name : String) (size : UInt32)
  | createProtectedVolume (remoteArray : ArrayId) (group remoteGroup name : String)
      (size : UInt32)
  | addToGroup (group : String) (ids : List VolumeId)
  | addToProtectedGroup (group : String) (remoteArray : ArrayId) (remoteGroup : String)
      (ids : List VolumeId) (force : Bool)
  | removeFromGroup (group : String) (id : VolumeId)
  | removeFromProtectedGroup (group : String) (remoteArray : ArrayId) (remoteGroup : String)
      (ids : List VolumeId) (force : Bool)
  | renameVolume (id : VolumeId) (name : String)
  | expandVolume (id : VolumeId) (size : UInt32)
  | deallocateVolume (id : VolumeId)
  | deleteVolume (id : VolumeId)
  | createSnapshot (name : String) (sources : List VolumeId) (hours : Option UInt32)
  | modifySnapshot (name : String) (sources : List VolumeId) (generation : UInt32)
      (action : SnapshotAction)
  | deleteSnapshot (name : String) (sources : List VolumeId) (generation : UInt32)
  | protectStorageGroup (group : String) (remoteArray : ArrayId) (remoteGroup : String)
      (mode : ReplicationMode) (number : UInt32)
  | replicate (action : ReplicationAction) (group : String) (number : UInt32)
      (force star : Bool)

namespace MutatingCall

/-- The answer to a call. -/
def Result : MutatingCall → Type
  | .create k _ _ => k.Record
  | .createVolume .. | .createProtectedVolume .. => VolumeId
  | _ => Unit

/-- The call among all calls of a client. -/
def call : (m : MutatingCall) → Call m.Result
  | .create k name spec => .createOrGet k.resources name spec
  | .deleteResource k name => .deleteResource k.resources name
  | .createVolume group name size => .createVolume group name size
  | .createProtectedVolume remoteArray group remoteGroup name size =>
    .createProtectedVolume remoteArray group remoteGroup name size
  | .addToGroup group ids => .addToGroup group ids
  | .addToProtectedGroup group remoteArray remoteGroup ids force =>
    .addToProtectedGroup group remoteArray remoteGroup ids force
  | .removeFromGroup group id => .removeFromGroup group id
  | .removeFromProtectedGroup group remoteArray remoteGroup ids force =>
    .removeFromProtectedGroup group remoteArray remoteGroup ids force
  | .renameVolume id name => .renameVolume id name
  | .expandVolume id size => .expandVolume id size
  | .deallocateVolume id => .deallocateVolume id
  | .deleteVolume id => .deleteVolume id
  | .createSnapshot name sources hours => .createSnapshot name sources hours
  | .modifySnapshot name sources generation action =>
    .modifySnapshot name sources generation action
  | .deleteSnapshot name sources generation => .deleteSnapshot name sources generation
  | .protectStorageGroup group remoteArray remoteGroup mode number =>
    .protectStorageGroup group remoteArray remoteGroup mode number
  | .replicate action group number force star => .replicate action group number force star

/-- The change that a call asks for. -/
def change : MutatingCall → Change
  | .create k name spec => .create k name spec
  | .deleteResource k name => .deleteResource k name
  | .createVolume group name size => .editGroup group (.create name size none)
  | .createProtectedVolume remoteArray group remoteGroup name size =>
    .editGroup group (.create name size (some ⟨remoteArray, remoteGroup, false⟩))
  | .addToGroup group ids => .editGroup group (.add ids none)
  | .addToProtectedGroup group remoteArray remoteGroup ids force =>
    .editGroup group (.add ids (some ⟨remoteArray, remoteGroup, force⟩))
  | .removeFromGroup group id => .editGroup group (.remove [id] none)
  | .removeFromProtectedGroup group remoteArray remoteGroup ids force =>
    .editGroup group (.remove ids (some ⟨remoteArray, remoteGroup, force⟩))
  | .renameVolume id name => .editVolume id (.rename name)
  | .expandVolume id size => .editVolume id (.expand size)
  | .deallocateVolume id => .editVolume id .deallocate
  | .deleteVolume id => .deleteVolume id
  | .createSnapshot name sources hours => .takeSnapshot name sources hours
  | .modifySnapshot name sources generation action =>
    .changeGeneration name sources generation action
  | .deleteSnapshot name sources generation => .deleteGeneration name sources generation
  | .protectStorageGroup group remoteArray remoteGroup mode number =>
    .protect group remoteArray remoteGroup mode number
  | .replicate action group number force star => .replicate action group number force star

/-- The call by which a change was asked for. -/
def ofChange? : Change → Option MutatingCall
  | .create k name spec => some (.create k name spec)
  | .deleteResource k name => some (.deleteResource k name)
  | .editGroup group (.create name size none) => some (.createVolume group name size)
  | .editGroup group (.create name size (some ⟨remoteArray, remoteGroup, _⟩)) =>
    some (.createProtectedVolume remoteArray group remoteGroup name size)
  | .editGroup group (.add ids none) => some (.addToGroup group ids)
  | .editGroup group (.add ids (some ⟨remoteArray, remoteGroup, force⟩)) =>
    some (.addToProtectedGroup group remoteArray remoteGroup ids force)
  | .editGroup group (.remove ids none) => ids.head?.map (.removeFromGroup group)
  | .editGroup group (.remove ids (some ⟨remoteArray, remoteGroup, force⟩)) =>
    some (.removeFromProtectedGroup group remoteArray remoteGroup ids force)
  | .editVolume id (.rename name) => some (.renameVolume id name)
  | .editVolume id (.expand size) => some (.expandVolume id size)
  | .editVolume id .deallocate => some (.deallocateVolume id)
  | .deleteVolume id => some (.deleteVolume id)
  | .takeSnapshot name sources hours => some (.createSnapshot name sources hours)
  | .changeGeneration name sources generation action =>
    some (.modifySnapshot name sources generation action)
  | .deleteGeneration name sources generation => some (.deleteSnapshot name sources generation)
  | .protect group remoteArray remoteGroup mode number =>
    some (.protectStorageGroup group remoteArray remoteGroup mode number)
  | .replicate action group number force star => some (.replicate action group number force star)

lemma ofChange?_change (m : MutatingCall) : ofChange? m.change = some m := by
  cases m <;> rfl

lemma change_inj {m m' : MutatingCall} : m.change = m'.change ↔ m = m' := by
  refine ⟨fun h => ?_, congrArg change⟩
  rw [← Option.some_inj, ← ofChange?_change m, h, ofChange?_change]

/-- The call with the policy of a storage group written out. -/
def explicit : MutatingCall → MutatingCall
  | .create k name spec => .create k name (k.explicit spec)
  | m => m

lemma change_explicit (m : MutatingCall) : m.explicit.change = m.change.explicit := by
  cases m <;> rfl

/-- A call sends its change, and reads. -/
lemma changesBy (m : MutatingCall) (c remote : Client) :
    (m.call.operation c remote).ChangesBy (c.site, m.change.request c) := by
  cases m with
  | create k name spec => exact Client.changesBy_createOrGetFrom _ _ _ _ _
  | createVolume group name size => exact Client.changesBy_createVolumeIn _ _ _ _
  | createProtectedVolume => exact Client.changesBy_createVolumeIn _ _ _ _
  | expandVolume id size => exact Client.changesBy_expandVolume _ _
  | renameVolume id name =>
      exact .bind (.ofExcept _) fun _ => Client.changesBy_execute Method.put_ne_get
  | deallocateVolume id =>
      refine .settle_bind (Client.changesBy_execute Method.put_ne_get) fun q => ?_
      cases q with
      | ok _ => exact .ofExcept _
      | error e => exact .ite (.ofExcept _) (.ofExcept _)
  | createSnapshot name sources hours =>
      exact .bind (.ofExcept _) fun _ => Client.changesBy_execute Method.post_ne_get
  | modifySnapshot name sources generation action =>
      exact .bind (.ofExcept _) fun _ => .bind (.ofExcept _) fun _ =>
        .ite (.ofExcept _) (Client.changesBy_execute Method.put_ne_get)
  | deleteSnapshot name sources generation =>
      exact .bind (.ofExcept _) fun _ => Client.changesBy_execute Method.delete_ne_get
  | replicate action group number force star =>
      refine .settle_bind (Client.changesBy_execute Method.put_ne_get) fun q => ?_
      cases q with
      | ok _ => exact .ofExcept _
      | error e =>
          refine .ite (.bind (.of_reads (Client.reads_read rfl)) fun _ => ?_) (.ofExcept _)
          exact .ite (.ofExcept _) (.ofExcept _)
  | deleteResource | deleteVolume => exact Client.changesBy_execute Method.delete_ne_get
  | protectStorageGroup => exact Client.changesBy_execute Method.post_ne_get
  | addToGroup | addToProtectedGroup | removeFromGroup | removeFromProtectedGroup =>
      exact Client.changesBy_execute Method.put_ne_get

end MutatingCall

/-- **The request determines the call.**  In runs of two calls, a change of the one and a change of
the other have the same verb, path and payload exactly when the calls are the same and have the same
arguments.  The policy of a new storage group is the one argument that can be written in two ways:
an attribute that is left out is sent as `None`.  Which calls have a run with a change is said in
`StorageArray.Proofs.Mutation.Sending`.  In the runs every wait has a deadline, and polls take no
time. -/
theorem change_determines_call (c remote : Client) (m m' : MutatingCall) {t t' : Transcript}
    {r : Except ArrayError m.Result} {r' : Except ArrayError m'.Result}
    (hrun : (m.call.operation c remote).Yields t r)
    (hrun' : (m'.call.operation c remote).Yields t' r') {x x' : Site × Request}
    (hx : x ∈ t.changes) (hx' : x' ∈ t'.changes) :
    (x.2.method = x'.2.method ∧ x.2.path = x'.2.path ∧ x.2.body = x'.2.body) ↔
      m.explicit = m'.explicit := by
  rw [m.changesBy c remote hrun x hx, m'.changesBy c remote hrun' x' hx', Change.request_eq_iff,
    ← MutatingCall.change_explicit, ← MutatingCall.change_explicit, MutatingCall.change_inj]

/-- Two creations of a storage group, without a policy and with the policy `None`, that are both
refused. -/
theorem change_determines_call_policy :
    let c : Client := ⟨.home, ⟨"000197600123"⟩, .default⟩
    let remote : Client := ⟨.remote, ⟨"000197600456"⟩, .default⟩
    let plain : StorageGroupSpec := {}
    let literal : StorageGroupSpec := { pool := some "None", workload := some "None" }
    let m : MutatingCall := .create .storageGroup "SG1" plain
    let m' : MutatingCall := .create .storageGroup "SG1" literal
    let run (spec : StorageGroupSpec) : Transcript := [
      ⟨.home, .get (c.resourcePath StorageGroup.resources "SG1"), .ok ⟨404, .null⟩⟩,
      ⟨.home, c.createRequest StorageGroup.resources "SG1" spec, .ok ⟨500, .string "busy"⟩⟩]
    (m.call.operation c remote).Yields (run plain) (.error (.rejected 500 "busy")) ∧
      (m'.call.operation c remote).Yields (run literal) (.error (.rejected 500 "busy")) ∧
      m ≠ m' ∧
      (c.createRequest StorageGroup.resources "SG1" plain).body =
        (c.createRequest StorageGroup.resources "SG1" literal).body := by
  intro c remote plain literal m m' run
  let s : Stage := { home := { queued := [.ok ⟨404, .null⟩, .ok ⟨500, .string "busy"⟩] } }
  have hrun : (m.call.operation c remote).Yields (run plain) (.error (.rejected 500 "busy")) := by
    have htranscript : (m.call.operation c remote).run.transcript Stage.answer s = run plain := by
      unfold c m
      rfl
    refine Stage.yields_of_perform htranscript ?_
    unfold c m
    rfl
  have hrun' :
      (m'.call.operation c remote).Yields (run literal) (.error (.rejected 500 "busy")) := by
    have htranscript :
        (m'.call.operation c remote).run.transcript Stage.answer s = run literal := by
      unfold c m'
      rfl
    refine Stage.yields_of_perform htranscript ?_
    unfold c m'
    rfl
  have hchanges (spec : StorageGroupSpec) :
      (.home, c.createRequest StorageGroup.resources "SG1" spec) ∈ (run spec).changes :=
    List.mem_singleton.2 rfl
  have hne : m ≠ m' := by
    intro h
    have hspec : plain = literal := by
      injection h
    exact absurd hspec (by decide)
  have hsame : m.explicit = m'.explicit := rfl
  have hrequests := (change_determines_call c remote m m' hrun hrun' (hchanges plain)
    (hchanges literal)).2 hsame
  exact ⟨hrun, hrun', hne, hrequests.2.2⟩

end StorageArray
