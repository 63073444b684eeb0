import Mathlib.Data.List.Basic
import Mathlib.Tactic.Common
import StorageArray.Replication.Basic
import StorageArray.Resource.Host
import StorageArray.Resource.MaskingView
import StorageArray.Resource.PortGroup
import StorageArray.Resource.StorageGroup
import StorageArray.Snapshot.Basic
/-!
# What payloads say

The payload of a change determines its arguments: for each kind of payload two equal ones were
made from equal arguments.  The one exception is the policy of a new storage group, in which an
attribute that is left out is written like the attribute `None`.

Payloads that share an envelope are taken together.  `Volume.GroupEdit` and `Volume.VolumeEdit`
list the changes to a storage group and to a volume; what tells them apart is inside the envelope,
and this includes the remote half that only changes to a replicated group have.
-/

namespace StorageArray

/-- The decimal digits of a word determine it. -/
@[simp 1100] lemma repr_toNat_inj {m n : UInt32} : m.toNat.repr = n.toNat.repr ↔ m = n := by
  refine ⟨fun h => ?_, fun h => h ▸ rfl⟩
  have hdigits : Nat.toDigits 10 m.toNat = Nat.toDigits 10 n.toNat := String.ofList_injective h
  have hvalue := congrArg (Nat.ofDigitChars 10 · 0) hdigits
  simp only [Nat.ofDigitChars_ten_toDigits] at hvalue
  exact UInt32.toNat_inj.1 hvalue

namespace Json

@[simp] lemma nat_inj {m n : Nat} : nat m = nat n ↔ m = n := by
  simp only [nat, number.injEq, JsonNumber.whole.injEq, Int.natCast_inj]

@[simp] lemma strings_inj {items items' : List String} : strings items = strings items' ↔
    items = items' := by
  simp only [strings, array.injEq]
  exact List.map_inj_right fun _ _ => string.inj

end Json

namespace Identifier

variable {kind : IdentifierKind}

@[simp] lemma text_inj {a b : Identifier kind} : a.text = b.text ↔ a = b := by
  constructor
  · intro h
    cases a
    cases b
    cases h
    rfl
  · exact congrArg text

@[simp] lemma map_text_inj {ids ids' : List (Identifier kind)} :
    ids.map text = ids'.map text ↔ ids = ids' :=
  List.map_inj_right fun _ _ => text_inj.1

end Identifier

/-! ### Resources -/

/-- The attributes with every policy written out. -/
def StorageGroupSpec.explicit (spec : StorageGroupSpec) : StorageGroupSpec where
  pool := some (spec.pool.getD "None")
  serviceLevel := some (spec.serviceLevel.getD "None")
  workload := some (spec.workload.getD "None")

lemma StorageGroup.payload_eq_iff {name name' : String} {spec spec' : StorageGroupSpec} :
    payload name spec = payload name' spec' ↔ name = name' ∧ spec.explicit = spec'.explicit := by
  simp [payload, StorageGroupSpec.explicit, and_comm, and_assoc]

lemma Host.payload_eq_iff {name name' : String} {spec spec' : HostSpec} :
    payload name spec = payload name' spec' ↔ name = name' ∧ spec = spec' := by
  cases spec
  cases spec'
  simp [payload]

lemma PortKey.encode_inj {k k' : PortKey} : shape.encode k = shape.encode k' ↔ k = k' := by
  cases k
  cases k'
  simp [shape, Shape.encode, Fields.encode]

lemma PortGroup.payload_eq_iff {name name' : String} {spec spec' : PortGroupSpec} :
    payload name spec = payload name' spec' ↔ name = name' ∧ spec = spec' := by
  have hports (ports ports' : List PortKey) :
      ports.map PortKey.shape.encode = ports'.map PortKey.shape.encode ↔ ports = ports' :=
    List.map_inj_right fun _ _ => PortKey.encode_inj.1
  cases spec
  cases spec'
  simp [payload, hports]

lemma MaskingView.payload_eq_iff {name name' : String} {spec spec' : MaskingViewSpec} :
    payload name spec = payload name' spec' ↔ name = name' ∧ spec = spec' := by
  cases spec
  cases spec'
  simp [payload, and_left_comm]

/-! ### Storage groups and volumes -/

namespace Volume

lemma RemoteGroup.payload_inj {remote remote' : RemoteGroup} :
    remote.payload = remote'.payload ↔ remote = remote' := by
  cases remote
  cases remote'
  simp [payload, and_comm, and_assoc]

@[simp] lemma namePayload_inj {name name' : String} :
    namePayload name = namePayload name' ↔ name = name' := by
  simp [namePayload]

@[simp] lemma groupEdit_inj {change change' : Json} :
    groupEdit change = groupEdit change' ↔ change = change' := by
  simp [groupEdit]

@[simp] lemma volumeEdit_inj {change change' : Json} :
    volumeEdit change = volumeEdit change' ↔ change = change' := by
  simp [volumeEdit]

@[simp] lemma volumeMembers_inj {ids ids' : List VolumeId} {remote remote' : Option RemoteGroup} :
    volumeMembers ids remote = volumeMembers ids' remote' ↔ ids = ids' ∧ remote = remote' := by
  cases remote <;> cases remote' <;>
    simp [volumeMembers, remoteMember, RemoteGroup.payload_inj, and_comm]

lemma creationPayload_inj {name name' : String} {size size' : UInt32}
    {remote remote' : Option RemoteGroup} :
    creationPayload name size remote = creationPayload name' size' remote' ↔
      name = name' ∧ size = size' ∧ remote = remote' := by
  cases remote <;> cases remote' <;>
    simp [creationPayload, remoteMember, RemoteGroup.payload_inj, and_comm, and_assoc]

/-- A change to a storage group. -/
inductive GroupEdit where
  /-- Adds a new volume. -/
  | create (name : String) (size : UInt32) (remote : Option RemoteGroup)
  /-- Adds volumes that exist. -/
  | add (ids : List VolumeId) (remote : Option RemoteGroup)
  /-- Removes volumes. -/
  | remove (ids : List VolumeId) (remote : Option RemoteGroup)

/-- The payload of a change to a storage group. -/
def GroupEdit.payload : GroupEdit → Json
  | .create name size remote => creationPayload name size remote
  | .add ids remote => additionPayload ids remote
  | .remove ids remote => removalPayload ids remote

lemma GroupEdit.payload_inj {edit edit' : GroupEdit} :
    edit.payload = edit'.payload ↔ edit = edit' := by
  refine ⟨fun h => ?_, congrArg payload⟩
  cases edit with
  | create name size remote =>
      cases edit' with
      | create name' size' remote' =>
          obtain ⟨rfl, rfl, rfl⟩ := creationPayload_inj.1 h
          rfl
      | _ => simp [payload, creationPayload, additionPayload, removalPayload] at h
  | add ids remote =>
      cases edit' with
      | add ids' remote' => simpa [payload, additionPayload] using h
      | _ => simp [payload, creationPayload, additionPayload, removalPayload] at h
  | remove ids remote =>
      cases edit' with
      | remove ids' remote' => simpa [payload, removalPayload] using h
      | _ => simp [payload, creationPayload, additionPayload, removalPayload] at h

/-- A change to a volume. -/
inductive VolumeEdit where
  /-- Gives it a new name. -/
  | rename (name : String)
  /-- Gives it a new size. -/
  | expand (size : UInt32)
  /-- Releases its tracks. -/
  | deallocate

/-- The payload of a change to a volume. -/
def VolumeEdit.payload : VolumeEdit → Json
  | .rename name => renamePayload name
  | .expand size => expansionPayload size
  | .deallocate => deallocationPayload

lemma VolumeEdit.payload_inj {edit edit' : VolumeEdit} :
    edit.payload = edit'.payload ↔ edit = edit' := by
  cases edit <;> cases edit' <;>
    simp [payload, renamePayload, expansionPayload, deallocationPayload]

end Volume

/-! ### Snapshots -/

namespace Snapshot

variable {sources sources' : List VolumeId} {generation generation' : UInt32}

@[simp] lemma deviceList_inj : deviceList sources = deviceList sources' ↔ sources = sources' := by
  simp only [deviceList, Json.array.injEq]
  refine List.map_inj_right fun id id' h => ?_
  simpa using h

lemma creationPayload_inj {hours hours' : Option UInt32} :
    creationPayload sources hours = creationPayload sources' hours' ↔
      sources = sources' ∧ hours = hours' := by
  cases hours <;> cases hours' <;> simp [creationPayload, UInt32.toNat_inj]

lemma changePayload_inj {action action' : SnapshotAction} :
    changePayload sources generation action = changePayload sources' generation' action' ↔
      sources = sources' ∧ generation = generation' ∧ action = action' := by
  cases action <;> cases action' <;>
    simp [changePayload, SnapshotAction.verb, UInt32.toNat_inj, and_comm, and_left_comm]

lemma deletionPayload_inj :
    deletionPayload sources generation = deletionPayload sources' generation' ↔
      sources = sources' ∧ generation = generation' := by
  simp [deletionPayload, UInt32.toNat_inj]

end Snapshot

/-! ### Replication -/

namespace Replication

lemma name_inj {mode mode' : ReplicationMode} : mode.name = mode'.name ↔ mode = mode' := by
  cases mode <;> cases mode' <;> simp [ReplicationMode.name]

lemma protectionPayload_inj {remoteArray remoteArray' : ArrayId} {remoteGroup remoteGroup' : String}
    {mode mode' : ReplicationMode} {number number' : UInt32} :
    protectionPayload remoteArray remoteGroup mode number =
        protectionPayload remoteArray' remoteGroup' mode' number' ↔
      remoteArray = remoteArray' ∧ remoteGroup = remoteGroup' ∧ mode = mode' ∧
        number = number' := by
  simp [protectionPayload, name_inj, UInt32.toNat_inj, and_comm, and_left_comm, and_assoc]

/-- The members of an action in order. -/
lemma actionPayload_eq (action : ReplicationAction) (force star : Bool) :
    actionPayload action force star =
      let option := ("executionOption", .string "ASYNCHRONOUS")
      let parameters :=
        (action.parameterKey, .object [("force", .bool force), ("star", .bool star)])
      .object (("action", .string action.name) ::
        if action = .establish then [parameters, option] else [option, parameters]) := by
  cases action <;> rfl

lemma actionPayload_inj {action action' : ReplicationAction} {force force' star star' : Bool} :
    actionPayload action force star = actionPayload action' force' star' ↔
      action = action' ∧ force = force' ∧ star = star' := by
  cases action <;> cases action' <;>
    simp [actionPayload_eq, ReplicationAction.name, ReplicationAction.parameterKey]

end Replication

end StorageArray
