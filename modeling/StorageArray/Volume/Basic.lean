import StorageArray.Job.Wait
import StorageArray.Listing
/-!
# Volumes

A volume has a device identifier given by the array, and perhaps a name.  This module holds
the record of a volume and the operations on it: looking it up, creating it inside a
storage group, moving it in and out of groups, renaming, expanding, releasing its tracks
and deleting it.
-/

namespace StorageArray

/-- A replication group through which a volume is paired. -/
structure VolumeReplication where
  /-- The number of the replication group. -/
  number : UInt32
  /-- Its label. -/
  label : Option String
deriving DecidableEq

/-- What the array reports about a volume. -/
structure Volume where
  /-- The device identifier. -/
  id : VolumeId
  /-- The name. -/
  name : Option String
  /-- The capacity in GB. -/
  capacity : Binary64
  /-- The storage groups that the volume is in. -/
  storageGroups : List String
  /-- The volume is the source of a snapshot. -/
  isSnapshotSource : Bool
  /-- The volume is linked as the target of a snapshot. -/
  isSnapshotTarget : Bool
  /-- The replication groups that pair the volume. -/
  replications : List VolumeReplication
  /-- The type of the device. -/
  type : Option String
deriving DecidableEq

/-- How the replication group of a volume is written. -/
def VolumeReplication.shape : Shape VolumeReplication :=
  .record "VolumeRdfGroup"
    (.cons "rdf_group_number" .required .word32 <|
      .cons "label" .defaulted (.optional .text) .nil)
    (fun (number, label, ()) => ⟨number, label⟩) (fun g => (g.number, g.label, ()))
    (fun _ => rfl)

namespace Volume

/-- How a record is written. -/
def shape : Shape Volume :=
  .record "Volume"
    (.cons "volumeId" .required (.identifier .volume) <|
      .cons "volume_identifier" .defaulted (.optional .text) <|
      .cons "cap_gb" .defaulted .real <|
      .cons "storageGroupId" .defaulted (.list .text) <|
      .cons "snapvx_source" .defaulted .flag <|
      .cons "snapvx_target" .defaulted .flag <|
      .cons "rdfGroupId" .defaulted (.list VolumeReplication.shape) <|
      .cons "type" .defaulted (.optional .text) .nil)
    (fun (id, name, capacity, groups, source, target, replications, type, ()) =>
      ⟨id, name, capacity, groups, source, target, replications, type⟩)
    (fun v => (v.id, v.name, v.capacity, v.storageGroups, v.isSnapshotSource,
      v.isSnapshotTarget, v.replications, v.type, ()))
    (fun _ => rfl)

/-- The volume is replicated: it is paired, or its type says so. -/
def isReplicated (v : Volume) : Bool :=
  !v.replications.isEmpty || (v.type.getD "").toList.take 3 == ['R', 'D', 'F']

/-- The volume is the source or the target of a snapshot. -/
def hasSnapshotRelation (v : Volume) : Bool := v.isSnapshotSource || v.isSnapshotTarget

/-! ## Payloads -/

/-- The remote half of a change to a replicated storage group. -/
structure RemoteGroup where
  /-- The partner array. -/
  array : ArrayId
  /-- The storage group there. -/
  group : String
  /-- The array is told to overrule objections. -/
  force : Bool

/-- The remote half in a payload. -/
def RemoteGroup.payload (r : RemoteGroup) : Json :=
  .object [
    ("force", .bool r.force),
    ("remote_symmetrix_1_id", .string r.array.text),
    ("remote_symmetrix_1_sgs", .array [.string r.group])]

/-- The member that carries the remote half, if there is one. -/
def remoteMember (remote : Option RemoteGroup) : List (String × Json) :=
  match remote with
  | none => []
  | some r => [("remoteSymmSGInfoParam", r.payload)]

/-- A change to a storage group. -/
def groupEdit (change : Json) : Json :=
  .object [
    ("editStorageGroupActionParam", change),
    ("executionOption", .string "ASYNCHRONOUS")]

/-- A change to a volume. -/
def volumeEdit (change : Json) : Json :=
  .object [
    ("editVolumeActionParam", change),
    ("executionOption", .string "ASYNCHRONOUS")]

/-- A name for a volume. -/
def namePayload (name : String) : Json :=
  .object [
    ("identifier_name", .string name),
    ("volumeIdentifierChoice", .string "identifier_name")]

/-- Adds one new volume to a group. -/
def creationPayload (name : String) (size : UInt32) (remote : Option RemoteGroup) : Json :=
  groupEdit <| .object [("expandStorageGroupParam", .object [("addVolumeParam",
    .object ([
      ("create_new_volumes", .bool true),
      ("emulation", .string "FBA")] ++ remoteMember remote ++ [
      ("volumeAttributes", .array [.object [
        ("capacityUnit", .string "GB"),
        ("num_of_vols", .nat 1),
        ("volumeIdentifier", namePayload name),
        ("volume_size", .string (toString size.toNat))]])]))])]

/-- The members that list volumes, with the remote half of the change. -/
def volumeMembers (ids : List VolumeId) (remote : Option RemoteGroup) : Json :=
  .object (remoteMember remote ++ [("volumeId", .strings (ids.map (·.text)))])

/-- Adds volumes that exist to a group. -/
def additionPayload (ids : List VolumeId) (remote : Option RemoteGroup) : Json :=
  groupEdit <| .object [("expandStorageGroupParam",
    .object [("addSpecificVolumeParam", volumeMembers ids remote)])]

/-- Removes volumes from a group. -/
def removalPayload (ids : List VolumeId) (remote : Option RemoteGroup) : Json :=
  groupEdit <| .object [("removeVolumeParam", volumeMembers ids remote)]

/-- Renames a volume. -/
def renamePayload (name : String) : Json :=
  volumeEdit <| .object [("modifyVolumeIdentifierParam",
    .object [("volumeIdentifier", namePayload name)])]

/-- Expands a volume. -/
def expansionPayload (size : UInt32) : Json :=
  volumeEdit <| .object [("expandVolumeParam", .object [("volumeAttribute", .object [
    ("capacityUnit", .string "GB"),
    ("volume_size", .string (toString size.toNat))])])]

/-- Releases the tracks of a volume. -/
def deallocationPayload : Json :=
  volumeEdit <| .object [("freeVolumeParam", .object [("free_volume", .bool true)])]

/-- A name that a volume may get. -/
def checkName (name : String) : Except ArrayError Unit :=
  if Text.allBlank name then .error (.validation "volume name must not be empty") else .ok ()

theorem checkName_eq_ok_iff {name : String} :
    checkName name = .ok () ↔ Text.allBlank name = false := by
  unfold checkName
  cases Text.allBlank name <;> simp

end Volume

/-! ## Operations -/

namespace Client

open Volume (RemoteGroup)

/-- The path of a volume. -/
def volumePath (c : Client) (id : VolumeId) : String := c.provisioningPath ("volume/" ++ id.text)

/-- The path of a storage group. -/
def storageGroupPath (c : Client) (group : String) : String :=
  c.provisioningPath ("storagegroup/" ++ group)

/-- Changes a volume. -/
def changeVolume (c : Client) (id : VolumeId) (payload : Json) : Operation Unit :=
  c.execute (.put (c.volumePath id) payload) ⟨"volume", id.text⟩

/-- Changes a storage group. -/
def changeStorageGroup (c : Client) (group : String) (payload : Json) : Operation Unit :=
  c.execute (.put (c.storageGroupPath group) payload) ⟨"storage group", group⟩

/-- The record of a volume. -/
def getVolume (c : Client) (id : VolumeId) : Operation Volume :=
  c.read (.get (c.volumePath id)) ⟨"volume", id.text⟩ "volume" Volume.shape

/-- The request that lists volumes with a name and in a group, as far as these are given. -/
def volumeQuery (c : Client) (name group : Option String) : Request :=
  { Request.get (c.provisioningPath "volume") with
    query := (name.map ("volume_identifier", ·)).toList ++
      (group.map ("storageGroupId", ·)).toList }

/-- The volumes with a name and in a group, as far as these are given, each once and in the
order of the array. -/
def findVolumes (c : Client) (name group : Option String) : Operation (List VolumeId) := do
  let body ← c.fetch (c.volumeQuery name group) ⟨"volume", name.getD "*"⟩
  let ids ← Operation.ofExcept (Listing.listed "volumeId" body)
  pure (Listing.firstOccurrences (ids.map Identifier.ofString))

/-- The volumes with a name. -/
def findVolumesByName (c : Client) (name : String) : Operation (List VolumeId) :=
  c.findVolumes (some name) none

/-- The one volume among those found under a name in a group. -/
def onlyVolume (group name : String) : List VolumeId → Except ArrayError VolumeId
  | [] => .error (.volumeNotFound name group)
  | [id] => .ok id
  | ids => .error (.validation (toString ids.length ++ " volumes named " ++ name
      ++ " in storage group " ++ group ++ ": " ++ ", ".intercalate (ids.map (·.text))))

/-- Creates a volume in a group, perhaps with a partner, and looks it up. -/
def createVolumeIn (c : Client) (group name : String) (size : UInt32)
    (remote : Option RemoteGroup) : Operation VolumeId := do
  .ofExcept (Volume.checkName name)
  if size = 0 then .fail (.validation ("volume " ++ name ++ " must be at least 1 GB"))
  else
    c.changeStorageGroup group (Volume.creationPayload name size remote)
    .ofExcept (onlyVolume group name (← c.findVolumes (some name) (some group)))

/-- Creates a volume in a group and gives its identifier. -/
def createVolume (c : Client) (group name : String) (size : UInt32) : Operation VolumeId :=
  c.createVolumeIn group name size none

/-- Adds volumes to a group, perhaps with their partners. -/
def addVolumesTo (c : Client) (group : String) (ids : List VolumeId)
    (remote : Option RemoteGroup) : Operation Unit :=
  c.changeStorageGroup group (Volume.additionPayload ids remote)

/-- Adds volumes to a group. -/
def addToGroup (c : Client) (group : String) (ids : List VolumeId) : Operation Unit :=
  c.addVolumesTo group ids none

/-- Removes volumes from a group, perhaps with their partners. -/
def removeVolumesFrom (c : Client) (group : String) (ids : List VolumeId)
    (remote : Option RemoteGroup) : Operation Unit :=
  c.changeStorageGroup group (Volume.removalPayload ids remote)

/-- Removes a volume from a group. -/
def removeFromGroup (c : Client) (group : String) (id : VolumeId) : Operation Unit :=
  c.removeVolumesFrom group [id] none

/-- Renames a volume. -/
def renameVolume (c : Client) (id : VolumeId) (name : String) : Operation Unit := do
  .ofExcept (Volume.checkName name)
  c.changeVolume id (Volume.renamePayload name)

/-- Expands a volume, and checks afterwards that it has the new size. -/
def expandVolume (c : Client) (id : VolumeId) (size : UInt32) : Operation Unit := do
  let before ← c.getVolume id
  let requested := Binary64.ofNat size.toNat
  if requested ≤ before.capacity then
    .fail (.validation ("volume " ++ id.text ++ " is " ++ before.capacity.textIn .capacity
      ++ " GB; expansion to " ++ toString size.toNat ++ " GB must grow it"))
  else
    c.changeVolume id (Volume.expansionPayload size)
    let after ← c.getVolume id
    if after.capacity.SameValue requested then pure ()
    else .fail (.sizeMismatch id size after.capacity)

/-- Releases the tracks of a volume; it counts as success when they are released already. -/
def deallocateVolume (c : Client) (id : VolumeId) : Operation Unit :=
  c.executeTolerant (.put (c.volumePath id) Volume.deallocationPayload) ⟨"volume", id.text⟩

/-- Deletes a volume. -/
def deleteVolume (c : Client) (id : VolumeId) : Operation Unit :=
  c.execute (.delete (c.volumePath id)) ⟨"volume", id.text⟩

end Client

end StorageArray
