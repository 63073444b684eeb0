import StorageArray.Volume.Basic
/-!
# Tearing a volume down

A teardown takes a volume out of service in four steps: it is marked by its name, removed
from every storage group, freed of its tracks, and deleted.  Marking and removing go on
after a failure.  The tracks are released only when the volume has left every group, and
the volume is deleted only when they have been released.
-/

namespace StorageArray

/-- What the name of a volume starts with while it is torn down. -/
def deletionPrefix : String := "_DEL"

/-- The name that marks a volume as being torn down. -/
def deletionMarker (id : VolumeId) : String := deletionPrefix ++ id.text

/-- The error of a step, if it failed. -/
def errorOf {α : Type} : Except ArrayError α → List ArrayError
  | .ok _ => []
  | .error e => [e]

/-- The step has done its work, or there was nothing to do it on. -/
def doneOrGone : Except ArrayError Unit → Bool
  | .ok _ => true
  | .error e => e.isNotFound

namespace Client

/-- Marks a volume for deletion unless it is marked; gives the errors. -/
def markForDeletion (c : Client) (volume : Volume) (id : VolumeId) :
    Operation (List ArrayError) := do
  if volume.name = some (deletionMarker id) then pure []
  else pure (errorOf (← (c.renameVolume id (deletionMarker id)).settle))

/-- Removes a volume from groups, one after the other; gives the errors.  A group that is
gone is no error. -/
def detachFrom (c : Client) (id : VolumeId) : List String → Operation (List ArrayError)
  | [] => pure []
  | group :: rest => do
    let result ← (c.removeFromGroup group id).settle
    let errors ← c.detachFrom id rest
    pure (if doneOrGone result then errors else errorOf result ++ errors)

/-- Releases the tracks of a volume and deletes it; says whether it was deleted, and gives
the errors. -/
def releaseAndDelete (c : Client) (id : VolumeId) : Operation (Bool × List ArrayError) := do
  match ← (c.deallocateVolume id).settle with
  | .error e => pure (false, [e])
  | .ok _ =>
    match ← (c.deleteVolume id).settle with
    | .error e => pure (false, [e])
    | .ok _ => pure (true, [])

/-- Tears a volume down. -/
def teardownVolume (c : Client) (id : VolumeId) : Operation Unit := do
  let volume ← c.getVolume id
  let marking ← c.markForDeletion volume id
  let detaching ← c.detachFrom id volume.storageGroups
  let (deleted, deleting) ←
    if detaching.isEmpty then c.releaseAndDelete id else pure (false, [])
  let errors := marking ++ detaching ++ deleting
  if errors.isEmpty then pure ()
  else .fail (.teardown ("volume " ++ id.text) deleted errors)

end Client

end StorageArray
