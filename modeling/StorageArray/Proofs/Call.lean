import Mathlib.Tactic.Common
import StorageArray.Proofs.Operation
import StorageArray.Replication.Teardown
import StorageArray.Resource.Host
import StorageArray.Resource.MaskingView
import StorageArray.Snapshot.Bracket
/-!
# The calls of a client

`Call α` lists what a user can ask a client for, with the arguments; `Call.operation` is what
the client then does.  All calls are put together from few parts: reads, waits for jobs, and
changes, one after the other, with or without regard to errors.  `Operation.Composed` says so,
and `Call.composed` shows it for every call, once and for all.  A property that the parts have,
and that passes from parts to wholes, is therefore a property of every call.
-/

namespace StorageArray

/-- The arrays at the two sites, with the settings of their clients. -/
structure Arrays where
  /-- The array at a site. -/
  id : Site → ArrayId
  /-- How its client works. -/
  settings : Site → Settings

/-- The client of the array at a site. -/
def Arrays.client (arrays : Arrays) (site : Site) : Client :=
  ⟨site, arrays.id site, arrays.settings site⟩

/-- What a user can ask a client for; the type is that of the answer. -/
inductive Call : Type → Type 1
  /-- A step that sends nothing and has this result. -/
  | nothing {α : Type} (result : Except ArrayError α) : Call α
  /-- A call to the client of the partner. -/
  | partner {α : Type} (call : Call α) : Call α
  | getJob (job : JobId) : Call JobRecord
  | waitOnJob (job : JobId) : Call JobRecord
  | getResource {R S : Type} (k : ResourceClass R S) (name : String) : Call R
  | listResources {R S : Type} (k : ResourceClass R S) : Call (List String)
  | createOrGet {R S : Type} (k : ResourceClass R S) (name : String) (spec : S) : Call R
  | deleteResource {R S : Type} (k : ResourceClass R S) (name : String) : Call Unit
  | deleteIfExists {R S : Type} (k : ResourceClass R S) (name : String) : Call Bool
  | findHostByInitiator (initiator : String) : Call Host
  | listMaskingViews (storageGroup : String) : Call (List String)
  | getVolume (id : VolumeId) : Call Volume
  | findVolumes (name group : Option String) : Call (List VolumeId)
  | findVolumesByName (name : String) : Call (List VolumeId)
  | createVolume (group name : String) (size : UInt32) : Call VolumeId
  | addToGroup (group : String) (ids : List VolumeId) : Call Unit
  | removeFromGroup (group : String) (id : VolumeId) : Call Unit
  | renameVolume (id : VolumeId) (name : String) : Call Unit
  | expandVolume (id : VolumeId) (size : UInt32) : Call Unit
  | deallocateVolume (id : VolumeId) : Call Unit
  | deleteVolume (id : VolumeId) : Call Unit
  | teardownVolume (id : VolumeId) : Call Unit
  | createSnapshot (name : String) (sources : List VolumeId) (hours : Option UInt32) : Call Unit
  | listSnapshots (source : VolumeId) : Call (List String)
  | getSnapshot (name : String) (source : VolumeId) : Call SnapshotInfo
  | listGenerations (name : String) (source : VolumeId) : Call (List UInt32)
  | getGeneration (name : String) (source : VolumeId) (generation : UInt32) : Call GenerationInfo
  | modifySnapshot (name : String) (sources : List VolumeId) (generation : UInt32)
      (action : SnapshotAction) : Call Unit
  | linkSnapshot (name : String) (sources : List VolumeId) (generation : UInt32)
      (targets : List VolumeId) (copy : Bool) : Call Unit
  | unlinkSnapshot (name : String) (sources : List VolumeId) (generation : UInt32)
      (targets : List VolumeId) : Call Unit
  | renameSnapshot (name : String) (sources : List VolumeId) (generation : UInt32)
      (newName : String) : Call Unit
  | restoreSnapshot (name : String) (sources : List VolumeId) (generation : UInt32) : Call Unit
  | deleteSnapshot (name : String) (sources : List VolumeId) (generation : UInt32) : Call Unit
  | linkDuring {α : Type} (name : String) (sources : List VolumeId) (generation : UInt32)
      (targets : List VolumeId) (step : Call α) : Call α
  | protectStorageGroup (group : String) (remoteArray : ArrayId) (remoteGroup : String)
      (mode : ReplicationMode) (number : UInt32) : Call Unit
  | getReplicationState (group : String) (number : UInt32) : Call ReplicationState
  | replicate (action : ReplicationAction) (group : String) (number : UInt32)
      (force star : Bool) : Call Unit
  | getReplicationGroup (number : UInt32) : Call ReplicationGroup
  | listReplicationGroups : Call (List UInt32)
  | getDevicePair (number : UInt32) (id : VolumeId) : Call DevicePair
  | createProtectedVolume (remoteArray : ArrayId) (group remoteGroup name : String)
      (size : UInt32) : Call VolumeId
  | addToProtectedGroup (group : String) (remoteArray : ArrayId) (remoteGroup : String)
      (ids : List VolumeId) (force : Bool) : Call Unit
  | removeFromProtectedGroup (group : String) (remoteArray : ArrayId) (remoteGroup : String)
      (ids : List VolumeId) (force : Bool) : Call Unit
  | teardownProtectedVolume (number : UInt32) (group remoteGroup : String) (id : VolumeId) :
      Call Unit

/-- What a client does when it is called, `remote` being the client of the partner. -/
def Call.operation {α : Type} (c remote : Client) : Call α → Operation α
  | .nothing result => .ofExcept result
  | .partner call => call.operation remote c
  | .getJob job => c.getJob job
  | .waitOnJob job => c.waitOnJob job
  | .getResource k name => c.getResource k name
  | .listResources k => c.listResources k
  | .createOrGet k name spec => c.createOrGet k name spec
  | .deleteResource k name => c.deleteResource k name
  | .deleteIfExists k name => c.deleteIfExists k name
  | .findHostByInitiator initiator => c.findHostByInitiator initiator
  | .listMaskingViews group => c.listMaskingViews group
  | .getVolume id => c.getVolume id
  | .findVolumes name group => c.findVolumes name group
  | .findVolumesByName name => c.findVolumesByName name
  | .createVolume group name size => c.createVolume group name size
  | .addToGroup group ids => c.addToGroup group ids
  | .removeFromGroup group id => c.removeFromGroup group id
  | .renameVolume id name => c.renameVolume id name
  | .expandVolume id size => c.expandVolume id size
  | .deallocateVolume id => c.deallocateVolume id
  | .deleteVolume id => c.deleteVolume id
  | .teardownVolume id => c.teardownVolume id
  | .createSnapshot name sources hours => c.createSnapshot name sources hours
  | .listSnapshots source => c.listSnapshots source
  | .getSnapshot name source => c.getSnapshot name source
  | .listGenerations name source => c.listGenerations name source
  | .getGeneration name source generation => c.getGeneration name source generation
  | .modifySnapshot name sources generation action =>
    c.modifySnapshot name sources generation action
  | .linkSnapshot name sources generation targets copy =>
    c.linkSnapshot name sources generation targets copy
  | .unlinkSnapshot name sources generation targets =>
    c.unlinkSnapshot name sources generation targets
  | .renameSnapshot name sources generation newName =>
    c.renameSnapshot name sources generation newName
  | .restoreSnapshot name sources generation => c.restoreSnapshot name sources generation
  | .deleteSnapshot name sources generation => c.deleteSnapshot name sources generation
  | .linkDuring name sources generation targets step =>
    c.linkDuring name sources generation targets (step.operation c remote)
  | .protectStorageGroup group remoteArray remoteGroup mode number =>
    c.protectStorageGroup group remoteArray remoteGroup mode number
  | .getReplicationState group number => c.getReplicationState group number
  | .replicate action group number force star => c.replicate action group number force star
  | .getReplicationGroup number => c.getReplicationGroup number
  | .listReplicationGroups => c.listReplicationGroups
  | .getDevicePair number id => c.getDevicePair number id
  | .createProtectedVolume remoteArray group remoteGroup name size =>
    c.createProtectedVolume remoteArray group remoteGroup name size
  | .addToProtectedGroup group remoteArray remoteGroup ids force =>
    c.addToProtectedGroup group remoteArray remoteGroup ids force
  | .removeFromProtectedGroup group remoteArray remoteGroup ids force =>
    c.removeFromProtectedGroup group remoteArray remoteGroup ids force
  | .teardownProtectedVolume number group remoteGroup id =>
    c.teardownProtectedVolume remote number group remoteGroup id

/-! ### What calls are made of -/

/-- The request is for the client's own array, or for the jobs there. -/
def Client.Addresses (c : Client) (request : Request) : Prop :=
  ∃ tail, request.path = c.provisioningPath tail ∨ request.path = c.replicationPath tail ∨
    request.path = c.systemPath ("job/" ++ tail)

namespace Operation

/-- The operation is put together from reads, waits and changes of the two clients. -/
inductive Composed (arrays : Arrays) : {α : Type} → Operation α → Prop
  /-- Nothing is sent. -/
  | ofExcept {α : Type} (result : Except ArrayError α) : Composed arrays (.ofExcept result)
  /-- One request that reads. -/
  | fetch {site : Site} {request : Request} {subject : Subject} (hm : request.method = .get)
      (haddressed : (arrays.client site).Addresses request) :
    Composed arrays ((arrays.client site).fetch request subject)
  /-- A wait for a job. -/
  | waitOnJob {site : Site} {job : JobId} : Composed arrays ((arrays.client site).waitOnJob job)
  /-- One request that changes something, with a wait if it starts a job. -/
  | execute {site : Site} {request : Request} {subject : Subject} (hm : request.method ≠ .get)
      (haddressed : (arrays.client site).Addresses request) :
    Composed arrays ((arrays.client site).execute request subject)
  /-- One after the other, up to the first error. -/
  | bind {α β : Type} {op : Operation α} {f : α → Operation β} (hop : Composed arrays op)
      (hf : ∀ a, Composed arrays (f a)) : Composed arrays (op >>= f)
  /-- An error is not the end. -/
  | settle {α : Type} {op : Operation α} (hop : Composed arrays op) : Composed arrays op.settle

namespace Composed

variable {arrays : Arrays} {α β : Type} {op : Operation α}

lemma pure (a : α) : Composed arrays (Pure.pure a : Operation α) := .ofExcept (.ok a)

lemma fail (e : ArrayError) : Composed arrays (.fail e : Operation α) := .ofExcept (.error e)

lemma ite {p : Prop} [Decidable p] {op' : Operation α} (hop : Composed arrays op)
    (hop' : Composed arrays op') : Composed arrays (if p then op else op') := by
  split
  · exact hop
  · exact hop'

/-- What follows a settled operation depends on how it ended. -/
lemma settle_bind {f : Except ArrayError α → Operation β} (hop : Composed arrays op)
    (hok : ∀ a, Composed arrays (f (.ok a))) (herror : ∀ e, Composed arrays (f (.error e))) :
    Composed arrays (op.settle >>= f) := by
  refine .bind hop.settle fun r => ?_
  cases r with
  | ok a => exact hok a
  | error e => exact herror e

end Composed

end Operation

namespace Client

open Operation (Composed)

variable {arrays : Arrays} {site : Site}

lemma composed_read {α : Type} {request : Request} {subject : Subject} {context : String}
    {shape : Shape α} (hm : request.method = .get)
    (haddressed : (arrays.client site).Addresses request) :
    Composed arrays ((arrays.client site).read request subject context shape) :=
  .bind (.fetch hm haddressed) fun _ => .ofExcept _

lemma composed_executeTolerant {request : Request} {subject : Subject}
    (hm : request.method ≠ .get) (haddressed : (arrays.client site).Addresses request) :
    Composed arrays ((arrays.client site).executeTolerant request subject) :=
  .settle_bind (.execute hm haddressed) (fun _ => .pure ()) fun _ => .ite (.pure ()) (.fail _)

section Resources

variable {R S : Type} (k : ResourceClass R S) (name : String)

lemma composed_getResource : Composed arrays ((arrays.client site).getResource k name) :=
  composed_read rfl ⟨_, .inl rfl⟩

lemma composed_createOrGetFrom (spec : S) (attempts : Nat) (last : ArrayError) :
    Composed arrays ((arrays.client site).createOrGetFrom k name spec attempts last) := by
  induction attempts generalizing last with
  | zero => exact .fail last
  | succ attempts ih =>
      refine .settle_bind (composed_getResource k name) (fun record => .pure record) fun e => ?_
      refine .ite ?_ (.fail e)
      refine .settle_bind (.execute Method.post_ne_get ⟨_, .inl rfl⟩) (fun _ => ?_) fun e => ?_
      · exact composed_getResource k name
      · exact .ite (ih e) (.fail e)

lemma composed_deleteResource : Composed arrays ((arrays.client site).deleteResource k name) :=
  .execute Method.delete_ne_get ⟨_, .inl rfl⟩

lemma composed_deleteIfExists : Composed arrays ((arrays.client site).deleteIfExists k name) :=
  .settle_bind (composed_deleteResource k name) (fun _ => .pure true) fun e =>
    .ite (.pure false) (.fail e)

lemma composed_findHostByInitiator (initiator : String) :
    Composed arrays ((arrays.client site).findHostByInitiator initiator) := by
  refine .bind (.fetch rfl ⟨_, .inl rfl⟩) fun listing => .bind (.ofExcept _) fun ids => ?_
  cases ids with
  | nil => exact .fail _
  | cons id rest =>
      refine .bind (composed_read rfl ⟨_, .inl rfl⟩) fun record => ?_
      cases record.host with
      | none => exact .fail _
      | some host => exact .ite (.fail _) (composed_getResource _ host)

end Resources

section Volumes

open Volume (RemoteGroup)

variable (id : VolumeId) (group name : String) (size : UInt32) (remote : Option RemoteGroup)

lemma composed_changeVolume (payload : Json) :
    Composed arrays ((arrays.client site).changeVolume id payload) :=
  .execute Method.put_ne_get ⟨_, .inl rfl⟩

lemma composed_changeStorageGroup (payload : Json) :
    Composed arrays ((arrays.client site).changeStorageGroup group payload) :=
  .execute Method.put_ne_get ⟨_, .inl rfl⟩

lemma composed_getVolume : Composed arrays ((arrays.client site).getVolume id) :=
  composed_read rfl ⟨_, .inl rfl⟩

lemma composed_findVolumes (name group : Option String) :
    Composed arrays ((arrays.client site).findVolumes name group) :=
  .bind (.fetch rfl ⟨_, .inl rfl⟩) fun _ => .bind (.ofExcept _) fun _ => .pure _

lemma composed_createVolumeIn :
    Composed arrays ((arrays.client site).createVolumeIn group name size remote) := by
  refine .bind (.ofExcept _) fun _ => .ite (.fail _) ?_
  refine .bind (composed_changeStorageGroup group _) fun _ => ?_
  exact .bind (composed_findVolumes _ _) fun _ => .ofExcept _

lemma composed_renameVolume :
    Composed arrays ((arrays.client site).renameVolume id name) :=
  .bind (.ofExcept _) fun _ => composed_changeVolume id _

lemma composed_expandVolume :
    Composed arrays ((arrays.client site).expandVolume id size) := by
  refine .bind (composed_getVolume id) fun before => .ite (.fail _) ?_
  refine .bind (composed_changeVolume id _) fun _ => ?_
  exact .bind (composed_getVolume id) fun after => .ite (.pure ()) (.fail _)

lemma composed_deallocateVolume : Composed arrays ((arrays.client site).deallocateVolume id) :=
  composed_executeTolerant Method.put_ne_get ⟨_, .inl rfl⟩

lemma composed_deleteVolume : Composed arrays ((arrays.client site).deleteVolume id) :=
  .execute Method.delete_ne_get ⟨_, .inl rfl⟩

lemma composed_markForDeletion (volume : Volume) :
    Composed arrays ((arrays.client site).markForDeletion volume id) :=
  .ite (.pure []) (.bind (composed_renameVolume id _).settle fun _ => .pure _)

lemma composed_detachFrom (groups : List String) :
    Composed arrays ((arrays.client site).detachFrom id groups) := by
  induction groups with
  | nil => exact .pure []
  | cons group rest ih =>
      exact .bind (composed_changeStorageGroup group _).settle fun _ => .bind ih fun _ => .pure _

lemma composed_releaseAndDelete : Composed arrays ((arrays.client site).releaseAndDelete id) := by
  refine .settle_bind (composed_deallocateVolume id) (fun _ => ?_) fun _ => .pure _
  exact .settle_bind (composed_deleteVolume id) (fun _ => .pure _) fun _ => .pure _

lemma composed_teardownVolume : Composed arrays ((arrays.client site).teardownVolume id) := by
  refine .bind (composed_getVolume id) fun volume => ?_
  refine .bind (composed_markForDeletion id volume) fun marking => ?_
  refine .bind (composed_detachFrom id volume.storageGroups) fun detaching => ?_
  -- Whether the volume was deleted or not, the errors of all steps decide the result.
  have hreport : ∀ (errors : List ArrayError) (e : ArrayError),
      Composed arrays (if errors.isEmpty then Pure.pure () else .fail e) :=
    fun errors e => .ite (.pure ()) (.fail e)
  refine .ite ?_ ?_
  · exact .bind (composed_releaseAndDelete id) fun _ => hreport _ _
  · exact .bind (.pure _) fun _ => hreport _ _

end Volumes

section Snapshots

variable (name : String) (sources : List VolumeId) (generation : UInt32)

lemma addresses_generation (c : Client) {request : Request}
    (h : request.path = c.generationPath name generation) : c.Addresses request := by
  rw [generationPath, snapshotPath, replicationPath_append, replicationPath_append] at h
  exact ⟨_, .inr (.inl h)⟩

lemma addresses_source (c : Client) (source : VolumeId) (rest : String) {request : Request}
    (h : request.path = c.sourcePath source ++ rest) : c.Addresses request := by
  rw [sourcePath, replicationPath_append] at h
  exact ⟨_, .inr (.inl h)⟩

lemma composed_createSnapshot (hours : Option UInt32) :
    Composed arrays ((arrays.client site).createSnapshot name sources hours) :=
  .bind (.ofExcept _) fun _ => .execute Method.post_ne_get ⟨_, .inr (.inl rfl)⟩

lemma composed_modifySnapshot (action : SnapshotAction) :
    Composed arrays ((arrays.client site).modifySnapshot name sources generation action) := by
  refine .bind (.ofExcept _) fun _ => .bind (.ofExcept _) fun _ => .ite (.pure ()) ?_
  exact .execute Method.put_ne_get (addresses_generation name generation _ rfl)

lemma composed_deleteSnapshot :
    Composed arrays ((arrays.client site).deleteSnapshot name sources generation) :=
  .bind (.ofExcept _) fun _ =>
    .execute Method.delete_ne_get (addresses_generation name generation _ rfl)

lemma composed_listSnapshots (source : VolumeId) :
    Composed arrays ((arrays.client site).listSnapshots source) :=
  .bind (.fetch rfl ⟨_, .inr (.inl rfl)⟩) fun _ => .bind (.ofExcept _) fun _ => .pure _

lemma composed_listGenerations (source : VolumeId) :
    Composed arrays ((arrays.client site).listGenerations name source) := by
  refine .bind (.fetch rfl (addresses_source _ source ("/" ++ name ++ "/generation") ?_))
    fun _ => ?_
  · simp only [Request.get, String.append_assoc]
  · exact .bind (.ofExcept _) fun _ => .bind (.ofExcept _) fun _ => .pure _

lemma composed_linkDuring {α : Type} (targets : List VolumeId) {step : Operation α}
    (hstep : Composed arrays step) :
    Composed arrays ((arrays.client site).linkDuring name sources generation targets step) := by
  refine .bind (composed_modifySnapshot name sources generation _) fun _ => ?_
  refine .bind hstep.settle fun _ => ?_
  exact .bind (composed_modifySnapshot name sources generation _).settle fun _ => .ofExcept _

end Snapshots

section Replication

variable (number : UInt32) (group : String)

lemma addresses_replicationState (c : Client) {request : Request}
    (h : request.path = c.replicationStatePath group number) : c.Addresses request := by
  rw [replicationStatePath, groupReplicationPath, replicationPath_append,
    replicationPath_append] at h
  exact ⟨_, .inr (.inl h)⟩

lemma composed_getReplicationState :
    Composed arrays ((arrays.client site).getReplicationState group number) :=
  composed_read rfl (addresses_replicationState number group _ rfl)

lemma composed_replicate (action : ReplicationAction) (force star : Bool) :
    Composed arrays ((arrays.client site).replicate action group number force star) := by
  refine .settle_bind (.execute Method.put_ne_get (addresses_replicationState number group _ rfl))
    (fun _ => .pure ()) fun e => .ite ?_ (.fail e)
  exact .bind (composed_getReplicationState number group) fun _ => .ite (.pure ()) (.fail e)

lemma composed_getDevicePair (id : VolumeId) :
    Composed arrays ((arrays.client site).getDevicePair number id) :=
  composed_read rfl ⟨_, .inr (.inl rfl)⟩

lemma composed_teardownProtectedVolume (partner : Site) (remoteGroup : String) (id : VolumeId) :
    Composed arrays ((arrays.client site).teardownProtectedVolume (arrays.client partner) number
      group remoteGroup id) := by
  refine .bind (.settle_bind (composed_getDevicePair number id) (fun pair => .pure pair)
    fun e => .fail _) fun pair => .ite (.fail _) ?_
  refine .bind (composed_changeStorageGroup group _) fun _ => ?_
  refine .bind (composed_teardownVolume id).settle fun here => ?_
  refine .bind (composed_teardownVolume _).settle fun there => ?_
  exact .ite (.pure ()) (.fail _)

end Replication

end Client

/-- **Calls are composed.**  Every call is put together from reads, waits and changes of the two
clients, each addressed to its own array. -/
theorem Call.composed {α : Type} (arrays : Arrays) (site partner : Site) (call : Call α) :
    Operation.Composed arrays (call.operation (arrays.client site) (arrays.client partner)) := by
  open Client in
  induction call generalizing site partner with
  | nothing result => exact .ofExcept result
  | partner call ih => exact ih partner site
  | getJob job => exact composed_read rfl ⟨_, .inr (.inr rfl)⟩
  | waitOnJob job => exact .waitOnJob
  | getResource k name => exact composed_getResource k name
  | listResources k => exact .bind (.fetch rfl ⟨_, .inl rfl⟩) fun _ => .ofExcept _
  | createOrGet k name spec => exact composed_createOrGetFrom k name spec _ _
  | deleteResource k name => exact composed_deleteResource k name
  | deleteIfExists k name => exact composed_deleteIfExists k name
  | findHostByInitiator initiator => exact composed_findHostByInitiator initiator
  | listMaskingViews group => exact .bind (.fetch rfl ⟨_, .inl rfl⟩) fun _ => .ofExcept _
  | getVolume id => exact composed_getVolume id
  | findVolumes name group => exact composed_findVolumes name group
  | findVolumesByName name => exact composed_findVolumes _ _
  | createVolume group name size => exact composed_createVolumeIn group name size none
  | addToGroup group ids => exact composed_changeStorageGroup group _
  | removeFromGroup group id => exact composed_changeStorageGroup group _
  | renameVolume id name => exact composed_renameVolume id name
  | expandVolume id size => exact composed_expandVolume id size
  | deallocateVolume id => exact composed_deallocateVolume id
  | deleteVolume id => exact composed_deleteVolume id
  | teardownVolume id => exact composed_teardownVolume id
  | createSnapshot name sources hours => exact composed_createSnapshot name sources hours
  | listSnapshots source => exact composed_listSnapshots source
  | getSnapshot name source =>
      refine composed_read rfl (addresses_source _ source ("/" ++ name) ?_)
      simp only [Request.get, String.append_assoc]
  | listGenerations name source => exact composed_listGenerations name source
  | getGeneration name source generation =>
      refine composed_read rfl (addresses_source _ source
        ("/" ++ name ++ "/generation/" ++ toString generation.toNat) ?_)
      simp only [Request.get, String.append_assoc]
  | modifySnapshot name sources generation action =>
      exact composed_modifySnapshot name sources generation action
  | linkSnapshot name sources generation targets copy =>
      exact composed_modifySnapshot name sources generation _
  | unlinkSnapshot name sources generation targets =>
      exact composed_modifySnapshot name sources generation _
  | renameSnapshot name sources generation newName =>
      exact composed_modifySnapshot name sources generation _
  | restoreSnapshot name sources generation =>
      exact composed_modifySnapshot name sources generation _
  | deleteSnapshot name sources generation =>
      exact composed_deleteSnapshot name sources generation
  | linkDuring name sources generation targets step ih =>
      exact composed_linkDuring name sources generation targets (ih site partner)
  | protectStorageGroup group remoteArray remoteGroup mode number =>
      exact .execute Method.post_ne_get ⟨_, .inr (.inl rfl)⟩
  | getReplicationState group number => exact composed_getReplicationState number group
  | replicate action group number force star =>
      exact composed_replicate number group action force star
  | getReplicationGroup number => exact composed_read rfl ⟨_, .inr (.inl rfl)⟩
  | listReplicationGroups =>
      exact .bind (composed_read rfl ⟨_, .inr (.inl rfl)⟩) fun _ => .pure _
  | getDevicePair number id => exact composed_getDevicePair number id
  | createProtectedVolume remoteArray group remoteGroup name size =>
      exact composed_createVolumeIn group name size _
  | addToProtectedGroup group remoteArray remoteGroup ids force =>
      exact composed_changeStorageGroup group _
  | removeFromProtectedGroup group remoteArray remoteGroup ids force =>
      exact composed_changeStorageGroup group _
  | teardownProtectedVolume number group remoteGroup id =>
      exact composed_teardownProtectedVolume number group partner remoteGroup id

end StorageArray
