import StorageArray.Volume.Basic
/-!
# Remote replication

A storage group is protected by binding it to a replication group, which pairs its volumes
with volumes of a storage group on a partner array.  The replication of a protected group
is started, stopped and turned around by actions on the whole group.
-/

namespace StorageArray

/-- How a protected storage group is replicated. -/
inductive ReplicationMode where
  /-- A write is complete when both arrays have it. -/
  | synchronous
  /-- Writes follow in consistent cycles. -/
  | asynchronous
  /-- Tracks follow in the background. -/
  | adaptiveCopy
  /-- Both sides can be read and written. -/
  | active
deriving DecidableEq, Repr

/-- The name of the mode on the wire. -/
def ReplicationMode.name : ReplicationMode → String
  | .synchronous => "Synchronous"
  | .asynchronous => "Asynchronous"
  | .adaptiveCopy => "Adaptive Copy"
  | .active => "Active"

/-- A change to the replication of a storage group. -/
inductive ReplicationAction where
  /-- Starts copying. -/
  | establish
  /-- Stops copying and keeps the pairs. -/
  | suspend
  /-- Goes on copying after a stop. -/
  | resume
  /-- Stops copying and opens both sides. -/
  | split
  /-- Moves the work to the partner. -/
  | failover
  /-- Moves the work back. -/
  | failback
deriving DecidableEq, Repr

namespace ReplicationAction

/-- All actions. -/
def all : List ReplicationAction := [.establish, .suspend, .resume, .split, .failover, .failback]

/-- The name of the action on the wire. -/
def name : ReplicationAction → String
  | .establish => "Establish"
  | .suspend => "Suspend"
  | .resume => "Resume"
  | .split => "Split"
  | .failover => "Failover"
  | .failback => "Failback"

/-- The key of the parameters of the action. -/
def parameterKey : ReplicationAction → String
  | .establish => "establish"
  | .suspend => "suspend"
  | .resume => "resume"
  | .split => "split"
  | .failover => "failover"
  | .failback => "failback"

/-- The states of a pair in which the action has taken effect. -/
def targetStates : ReplicationAction → List String
  | .establish | .resume | .failback =>
    ["Synchronized", "Consistent", "ActiveActive", "ActiveBias"]
  | .suspend => ["Suspended"]
  | .split => ["Split"]
  | .failover => ["Failed Over"]

end ReplicationAction

/-! ## Records -/

/-- What the array reports about a replication group. -/
structure ReplicationGroup where
  /-- The number. -/
  number : UInt32
  /-- The label. -/
  label : Option String
  /-- The partner array. -/
  remoteArray : Option ArrayId
  /-- The number on the partner. -/
  remoteNumber : Option UInt32
  /-- How many volumes are paired. -/
  deviceCount : UInt32
  /-- The modes in use. -/
  modes : List String
deriving DecidableEq

/-- How the record of a replication group is written. -/
def ReplicationGroup.shape : Shape ReplicationGroup :=
  .record "RdfGroup"
    (.cons "rdfgNumber" .required .word32 <|
      .cons "label" .defaulted (.optional .text) <|
      .cons "remoteSymmetrix" .defaulted (.optional (.identifier .array)) <|
      .cons "remoteRdfgNumber" .defaulted (.optional .word32) <|
      .cons "numDevices" .defaulted .word32 <|
      .cons "modes" .defaulted (.list .text) .nil)
    (fun (number, label, array, remoteNumber, count, modes, ()) =>
      ⟨number, label, array, remoteNumber, count, modes⟩)
    (fun g => (g.number, g.label, g.remoteArray, g.remoteNumber, g.deviceCount, g.modes, ()))
    (fun _ => rfl)

/-- What the array reports about the pair of a volume. -/
structure DevicePair where
  /-- The volume. -/
  localVolume : VolumeId
  /-- Its partner. -/
  remoteVolume : VolumeId
  /-- The partner array. -/
  remoteArray : ArrayId
  /-- The state of the pair. -/
  state : String
  /-- The mode of the pair. -/
  mode : String
  /-- The number of the replication group. -/
  localGroup : UInt32
  /-- Its number on the partner. -/
  remoteGroup : UInt32
deriving DecidableEq

/-- How the record of a pair is written. -/
def DevicePair.shape : Shape DevicePair :=
  .record "DevicePairInfo"
    (.cons "localVolumeName" .required (.identifier .volume) <|
      .cons "remoteVolumeName" .required (.identifier .volume) <|
      .cons "remoteSymmetrixId" .required (.identifier .array) <|
      .cons "rdfpairState" .defaulted .text <|
      .cons "rdfMode" .defaulted .text <|
      .cons "localRdfGroupNumber" .defaulted .word32 <|
      .cons "remoteRdfGroupNumber" .defaulted .word32 .nil)
    (fun (localVolume, remoteVolume, array, state, mode, localGroup, remoteGroup, ()) =>
      ⟨localVolume, remoteVolume, array, state, mode, localGroup, remoteGroup⟩)
    (fun p => (p.localVolume, p.remoteVolume, p.remoteArray, p.state, p.mode, p.localGroup,
      p.remoteGroup, ()))
    (fun _ => rfl)

/-- What the array reports about the replication of a storage group. -/
structure ReplicationState where
  /-- The storage group. -/
  group : String
  /-- The array that reports. -/
  array : Option ArrayId
  /-- The number of the replication group. -/
  number : UInt32
  /-- The states of the pairs. -/
  states : List String
  /-- The modes of the pairs. -/
  modes : List String
deriving DecidableEq

namespace ReplicationState

/-- How the record of a replication state is written. -/
def shape : Shape ReplicationState :=
  .record "StorageGroupRdfState"
    (.cons "storageGroupName" .required .text <|
      .cons "symmetrixId" .defaulted (.optional (.identifier .array)) <|
      .cons "rdfGroupNumber" .required .word32 <|
      .cons "states" .defaulted (.list .text) <|
      .cons "modes" .defaulted (.list .text) .nil)
    (fun (group, array, number, states, modes, ()) => ⟨group, array, number, states, modes⟩)
    (fun s => (s.group, s.array, s.number, s.states, s.modes, ()))
    (fun _ => rfl)

/-- There are pairs, and in all of them the action has taken effect. -/
def reflects (s : ReplicationState) (action : ReplicationAction) : Bool :=
  !s.states.isEmpty && s.states.all fun state =>
    action.targetStates.any fun target => Text.eqIgnoringAsciiCase state target

end ReplicationState

/-- One replication group in a listing. -/
structure ReplicationGroupEntry where
  /-- The number. -/
  number : UInt32
deriving DecidableEq

/-- How an entry of the listing is written. -/
def ReplicationGroupEntry.shape : Shape ReplicationGroupEntry :=
  .record "RdfGroupEntry" (.cons "rdfgNumber" .required .word32 .nil)
    (fun (number, ()) => ⟨number⟩) (fun e => (e.number, ())) (fun _ => rfl)

/-- The listing of the replication groups. -/
structure ReplicationGroupListing where
  /-- The entries. -/
  groups : List ReplicationGroupEntry
deriving DecidableEq

/-- How the listing is written. -/
def ReplicationGroupListing.shape : Shape ReplicationGroupListing :=
  .record "RdfGroupListing"
    (.cons "rdfGroupID" .defaulted (.list ReplicationGroupEntry.shape) .nil)
    (fun (groups, ()) => ⟨groups⟩) (fun l => (l.groups, ())) (fun _ => rfl)

/-! ## Payloads -/

namespace Replication

/-- Protects a storage group. -/
def protectionPayload (remoteArray : ArrayId) (remoteGroup : String) (mode : ReplicationMode)
    (number : UInt32) : Json :=
  .object [
    ("establish", .bool true),
    ("executionOption", .string "ASYNCHRONOUS"),
    ("rdfgNumber", .nat number.toNat),
    ("remoteStorageGroupName", .string remoteGroup),
    ("remoteSymmId", .string remoteArray.text),
    ("replicationMode", .string mode.name)]

/-- Carries out an action on a protected group. -/
def actionPayload (action : ReplicationAction) (force star : Bool) : Json :=
  .ofMembers [
    ("action", .string action.name),
    ("executionOption", .string "ASYNCHRONOUS"),
    (action.parameterKey, .object [("force", .bool force), ("star", .bool star)])]

end Replication

/-! ## Operations -/

namespace Client

open Volume (RemoteGroup)

/-- The path of the replication groups of a storage group. -/
def groupReplicationPath (c : Client) (group : String) : String :=
  c.replicationPath ("storagegroup/" ++ group ++ "/rdf_group")

/-- The path of the replication of a storage group through one replication group. -/
def replicationStatePath (c : Client) (group : String) (number : UInt32) : String :=
  c.groupReplicationPath group ++ "/" ++ toString number.toNat

/-- Binds a storage group to one on a partner array and starts copying. -/
def protectStorageGroup (c : Client) (group : String) (remoteArray : ArrayId)
    (remoteGroup : String) (mode : ReplicationMode) (number : UInt32) : Operation Unit :=
  c.execute (.post (c.groupReplicationPath group)
    (Replication.protectionPayload remoteArray remoteGroup mode number))
    ⟨"storage group replication", group⟩

/-- The replication of a storage group. -/
def getReplicationState (c : Client) (group : String) (number : UInt32) :
    Operation ReplicationState :=
  c.read (.get (c.replicationStatePath group number)) ⟨"storage group replication", group⟩
    "storage group replication state" ReplicationState.shape

/-- Carries out an action on the replication of a storage group.  A benign failure counts as
success when the state of the group shows that the action has taken effect. -/
def replicate (c : Client) (action : ReplicationAction) (group : String) (number : UInt32)
    (force star : Bool) : Operation Unit := do
  let request := Request.put (c.replicationStatePath group number)
    (Replication.actionPayload action force star)
  match ← (c.execute request ⟨"storage group replication", group⟩).settle with
  | .ok _ => pure ()
  | .error e =>
    if c.settings.benign.matchesError e then
      let state ← c.getReplicationState group number
      if state.reflects action then pure () else .fail e
    else .fail e

/-- The record of a replication group. -/
def getReplicationGroup (c : Client) (number : UInt32) : Operation ReplicationGroup :=
  c.read (.get (c.replicationPath ("rdf_group/" ++ toString number.toNat)))
    ⟨"RDF group", toString number.toNat⟩ "RDF group" ReplicationGroup.shape

/-- The numbers of all replication groups, each once. -/
def listReplicationGroups (c : Client) : Operation (List UInt32) := do
  let listing ← c.read (.get (c.replicationPath "rdf_group")) ⟨"RDF group", "*"⟩
    "RDF group listing" ReplicationGroupListing.shape
  pure (Listing.firstOccurrences (listing.groups.map (·.number)))

/-- The pair of a volume in a replication group. -/
def getDevicePair (c : Client) (number : UInt32) (id : VolumeId) : Operation DevicePair :=
  c.read
    (.get (c.replicationPath
      ("rdf_group/" ++ toString number.toNat ++ "/volume/" ++ id.text)))
    ⟨"replication pair", id.text⟩ "device pair" DevicePair.shape

/-- Creates a pair of volumes in a protected group and gives the identifier of the local
one. -/
def createProtectedVolume (c : Client) (remoteArray : ArrayId) (group remoteGroup : String)
    (name : String) (size : UInt32) : Operation VolumeId :=
  c.createVolumeIn group name size (some ⟨remoteArray, remoteGroup, false⟩)

/-- Adds volumes to a protected group and pairs them. -/
def addToProtectedGroup (c : Client) (group : String) (remoteArray : ArrayId)
    (remoteGroup : String) (ids : List VolumeId) (force : Bool) : Operation Unit :=
  c.addVolumesTo group ids (some ⟨remoteArray, remoteGroup, force⟩)

/-- Removes volumes from a protected group, and their partners. -/
def removeFromProtectedGroup (c : Client) (group : String) (remoteArray : ArrayId)
    (remoteGroup : String) (ids : List VolumeId) (force : Bool) : Operation Unit :=
  c.removeVolumesFrom group ids (some ⟨remoteArray, remoteGroup, force⟩)

end Client

end StorageArray
