import StorageArray.Job.Wait
import StorageArray.Listing
import StorageArray.Snapshot.Generation
import StorageArray.Text.Quoted
/-!
# Snapshots

A snapshot is a copy of source volumes at a point in time, known by its name.  Taking it
again under the same name makes a new generation 0 and counts the older ones up.  Every
change addresses one generation: it is linked to target volumes or unlinked from them, the
snapshot is renamed, or the sources are restored.
-/

namespace StorageArray

/-- A change to one generation of a snapshot. -/
inductive SnapshotAction where
  /-- Shows the generation on target volumes, perhaps copying the data there. -/
  | link (targets : List VolumeId) (copy : Bool)
  /-- Ends that. -/
  | unlink (targets : List VolumeId)
  /-- Gives the snapshot a new name. -/
  | rename (newName : String)
  /-- Takes the sources back to the generation. -/
  | restore
deriving DecidableEq

/-- The name of the action on the wire. -/
def SnapshotAction.verb : SnapshotAction → String
  | .link .. => "Link"
  | .unlink .. => "Unlink"
  | .rename .. => "Rename"
  | .restore => "Restore"

/-- What the array reports about a snapshot of one volume. -/
structure SnapshotInfo where
  /-- The name of the snapshot. -/
  name : String
  /-- The source volume. -/
  source : VolumeId
  /-- How many generations there are. -/
  generationCount : UInt32
deriving DecidableEq

/-- How the record of a snapshot is written. -/
def SnapshotInfo.shape : Shape SnapshotInfo :=
  .record "SnapshotInfo"
    (.cons "snapshotName" .required .text <|
      .cons "deviceName" .required (.identifier .volume) <|
      .cons "generationCount" .defaulted .word32 .nil)
    (fun (name, source, count, ()) => ⟨name, source, count⟩)
    (fun s => (s.name, s.source, s.generationCount, ()))
    (fun _ => rfl)

/-- A target volume of a generation. -/
structure LinkedDevice where
  /-- The target volume. -/
  target : VolumeId
  /-- The link is active. -/
  linked : Bool
  /-- The link copies the data. -/
  copy : Bool
  /-- Every track is defined on the target. -/
  defined : Bool
deriving DecidableEq

/-- How a target volume is written. -/
def LinkedDevice.shape : Shape LinkedDevice :=
  .record "LinkedDevice"
    (.cons "targetDevice" .required (.identifier .volume) <|
      .cons "linked" .defaulted .flag <|
      .cons "copy" .defaulted .flag <|
      .cons "defined" .defaulted .flag .nil)
    (fun (target, linked, copy, defined, ()) => ⟨target, linked, copy, defined⟩)
    (fun d => (d.target, d.linked, d.copy, d.defined, ()))
    (fun _ => rfl)

/-- What the array reports about one generation of a snapshot. -/
structure GenerationInfo where
  /-- The name of the snapshot. -/
  name : String
  /-- The source volume. -/
  source : VolumeId
  /-- The number of the generation. -/
  generation : UInt32
  /-- When it was taken, in the words of the array. -/
  timestamp : Option String
  /-- The targets of the generation. -/
  linkedDevices : List LinkedDevice
deriving DecidableEq

namespace GenerationInfo

/-- How the record of a generation is written. -/
def shape : Shape GenerationInfo :=
  .record "GenerationInfo"
    (.cons "snapshotName" .required .text <|
      .cons "deviceName" .required (.identifier .volume) <|
      .cons "generation" .required .word32 <|
      .cons "timestamp" .defaulted (.optional .text) <|
      .cons "linkedDevices" .defaulted (.list LinkedDevice.shape) .nil)
    (fun (name, source, generation, timestamp, devices, ()) =>
      ⟨name, source, generation, timestamp, devices⟩)
    (fun g => (g.name, g.source, g.generation, g.timestamp, g.linkedDevices, ()))
    (fun _ => rfl)

/-- The generation is linked to the target. -/
def isLinkedTo (g : GenerationInfo) (target : VolumeId) : Bool :=
  g.linkedDevices.any fun device => device.target == target && device.linked

end GenerationInfo

namespace Snapshot

/-! ## Arguments and payloads -/

/-- Arguments that name a snapshot and at least one source. -/
def checkArguments (name : String) (sources : List VolumeId) : Except ArrayError Unit :=
  if Text.allBlank name then .error (.validation "snapshot name must not be empty")
  else if sources.isEmpty then
    .error (.validation ("snapshot " ++ name ++ " needs at least one source volume"))
  else .ok ()

theorem checkArguments_eq_ok_iff {name : String} {sources : List VolumeId} :
    checkArguments name sources = .ok () ↔ Text.allBlank name = false ∧ sources ≠ [] := by
  unfold checkArguments
  cases Text.allBlank name <;> cases sources <;> simp

/-- At least one target. -/
def checkTargets (name : String) (targets : List VolumeId) : Except ArrayError Unit :=
  if targets.isEmpty then
    .error (.validation ("snapshot " ++ name ++ " link changes need at least one target volume"))
  else .ok ()

theorem checkTargets_eq_ok_iff {name : String} {targets : List VolumeId} :
    checkTargets name targets = .ok () ↔ targets ≠ [] := by
  unfold checkTargets
  cases targets <;> simp

/-- An action that can be carried out on a snapshot with this name. -/
def checkAction (name : String) : SnapshotAction → Except ArrayError Unit
  | .link targets _ => checkTargets name targets
  | .unlink targets => checkTargets name targets
  | .rename newName =>
    if Text.allBlank newName then .error (.validation "new snapshot name must not be empty")
    else .ok ()
  | .restore => .ok ()

/-- Volumes in a payload. -/
def deviceList (ids : List VolumeId) : Json :=
  .array (ids.map fun id => .object [("name", .string id.text)])

/-- Takes a snapshot that expires after some hours, or never. -/
def creationPayload (sources : List VolumeId) (hours : Option UInt32) : Json :=
  .object ([
    ("deviceNameListSource", deviceList sources),
    ("executionOption", .string "ASYNCHRONOUS")] ++
    match hours with
    | none => []
    | some n => [("timeInHours", .bool true), ("timeToLive", .nat n.toNat)])

/-- Carries out an action on a generation. -/
def changePayload (sources : List VolumeId) (generation : UInt32) (action : SnapshotAction) :
    Json :=
  let copy := match action with
    | .link _ copy => [("copy", .bool copy)]
    | _ => []
  let targets := match action with
    | .link targets _ | .unlink targets => [("deviceNameListTarget", deviceList targets)]
    | _ => []
  let newName := match action with
    | .rename newName => [("newsnapshotname", .string newName)]
    | _ => []
  .object ([("action", .string action.verb)] ++ copy
    ++ [("deviceNameListSource", deviceList sources)] ++ targets
    ++ [("executionOption", .string "ASYNCHRONOUS"), ("generation", .nat generation.toNat)]
    ++ newName)

/-- Deletes a generation. -/
def deletionPayload (sources : List VolumeId) (generation : UInt32) : Json :=
  .object [
    ("deviceNameListSource", deviceList sources),
    ("executionOption", .string "ASYNCHRONOUS"),
    ("generation", .nat generation.toNat)]

/-- The generation that a text of a listing denotes. -/
def generationOf (text : String) : Except ArrayError UInt32 :=
  (Generation.ofText text).mapError fun e =>
    .unexpectedResponse "snapshot generations" (Text.quoted text ++ ": " ++ e.message)

end Snapshot

/-! ## Operations -/

namespace Client

/-- The path of a snapshot. -/
def snapshotPath (c : Client) (name : String) : String := c.replicationPath ("snapshot/" ++ name)

/-- The path of a generation. -/
def generationPath (c : Client) (name : String) (generation : UInt32) : String :=
  c.snapshotPath name ++ "/generation/" ++ toString generation.toNat

/-- The path of the snapshots of a volume. -/
def sourcePath (c : Client) (source : VolumeId) : String :=
  c.replicationPath ("volume/" ++ source.text ++ "/snapshot")

/-- Takes a snapshot of volumes. -/
def createSnapshot (c : Client) (name : String) (sources : List VolumeId)
    (hours : Option UInt32) : Operation Unit := do
  .ofExcept (Snapshot.checkArguments name sources)
  c.execute (.post (c.snapshotPath name) (Snapshot.creationPayload sources hours))
    ⟨"snapshot", name⟩

/-- The names of the snapshots of a volume, each once. -/
def listSnapshots (c : Client) (source : VolumeId) : Operation (List String) := do
  let body ← c.fetch (.get (c.sourcePath source)) ⟨"volume", source.text⟩
  pure (Listing.firstOccurrences (← Operation.ofExcept (Listing.listed "snapshotName" body)))

/-- The record of a snapshot of a volume. -/
def getSnapshot (c : Client) (name : String) (source : VolumeId) : Operation SnapshotInfo :=
  c.read (.get (c.sourcePath source ++ "/" ++ name)) ⟨"snapshot", name⟩ "snapshot"
    SnapshotInfo.shape

/-- The generations of a snapshot of a volume in ascending order, each once. -/
def listGenerations (c : Client) (name : String) (source : VolumeId) :
    Operation (List UInt32) := do
  let body ← c.fetch (.get (c.sourcePath source ++ "/" ++ name ++ "/generation"))
    ⟨"snapshot", name⟩
  let texts ← Operation.ofExcept (Listing.listed "generation" body)
  pure (Generation.canonical (← Operation.ofExcept (texts.mapM Snapshot.generationOf)))

/-- The record of a generation. -/
def getGeneration (c : Client) (name : String) (source : VolumeId) (generation : UInt32) :
    Operation GenerationInfo :=
  c.read (.get (c.sourcePath source ++ "/" ++ name ++ "/generation/" ++ toString generation.toNat))
    ⟨"snapshot", name⟩ "snapshot generation" GenerationInfo.shape

/-- Carries out an action on a generation.  To rename a snapshot to the name it has,
nothing is sent. -/
def modifySnapshot (c : Client) (name : String) (sources : List VolumeId)
    (generation : UInt32) (action : SnapshotAction) : Operation Unit := do
  .ofExcept (Snapshot.checkArguments name sources)
  .ofExcept (Snapshot.checkAction name action)
  if action = .rename name then pure ()
  else
    c.execute (.put (c.generationPath name generation)
      (Snapshot.changePayload sources generation action)) ⟨"snapshot", name⟩

/-- Links a generation to targets. -/
def linkSnapshot (c : Client) (name : String) (sources : List VolumeId)
    (generation : UInt32) (targets : List VolumeId) (copy : Bool) : Operation Unit :=
  c.modifySnapshot name sources generation (.link targets copy)

/-- Unlinks a generation from targets. -/
def unlinkSnapshot (c : Client) (name : String) (sources : List VolumeId)
    (generation : UInt32) (targets : List VolumeId) : Operation Unit :=
  c.modifySnapshot name sources generation (.unlink targets)

/-- Renames a snapshot. -/
def renameSnapshot (c : Client) (name : String) (sources : List VolumeId)
    (generation : UInt32) (newName : String) : Operation Unit :=
  c.modifySnapshot name sources generation (.rename newName)

/-- Takes the sources back to a generation. -/
def restoreSnapshot (c : Client) (name : String) (sources : List VolumeId)
    (generation : UInt32) : Operation Unit :=
  c.modifySnapshot name sources generation .restore

/-- Deletes a generation. -/
def deleteSnapshot (c : Client) (name : String) (sources : List VolumeId)
    (generation : UInt32) : Operation Unit := do
  .ofExcept (Snapshot.checkArguments name sources)
  c.execute ((Request.delete (c.generationPath name generation)).withBody
    (Snapshot.deletionPayload sources generation)) ⟨"snapshot", name⟩

end Client

end StorageArray
