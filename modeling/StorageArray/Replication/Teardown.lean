import StorageArray.Replication.Basic
import StorageArray.Volume.Teardown
/-!
# Tearing a replicated volume down

The pair of the volume is looked up and broken first; then the volume and its partner are
torn down, the partner through the client of its own array and whatever became of the
volume.
-/

namespace StorageArray

/-- A teardown that ended like this deleted its volume. -/
def deletedBy : Except ArrayError Unit → Bool
  | .ok _ => true
  | .error (.teardown _ deleted _) => deleted
  | .error _ => false

namespace Client

/-- The pair of a volume; it has its own error when there is none. -/
def requirePair (c : Client) (number : UInt32) (id : VolumeId) : Operation DevicePair := do
  match ← (c.getDevicePair number id).settle with
  | .ok pair => pure pair
  | .error e => .fail (if e.isNotFound then .pairNotFound id number else e)

/-- Tears down a replicated volume and its partner. -/
def teardownProtectedVolume (c remote : Client) (number : UInt32)
    (group remoteGroup : String) (id : VolumeId) : Operation Unit := do
  let pair ← c.requirePair number id
  if pair.remoteArray ≠ remote.arrayId then
    .fail (.validation ("volume " ++ id.text ++ " is paired with array "
      ++ pair.remoteArray.text ++ ", not " ++ remote.arrayId.text))
  else
    c.removeVolumesFrom group [id] (some ⟨remote.arrayId, remoteGroup, true⟩)
    let here ← (c.teardownVolume id).settle
    let there ← (remote.teardownVolume pair.remoteVolume).settle
    let errors := errorOf here ++ errorOf there
    if errors.isEmpty then pure ()
    else
      let fate := if deletedBy there then "deleted" else "kept"
      .fail (.teardown ("replicated volume " ++ id.text ++ " (partner "
        ++ pair.remoteVolume.text ++ " " ++ fate ++ ")") (deletedBy here) errors)

end Client

end StorageArray
