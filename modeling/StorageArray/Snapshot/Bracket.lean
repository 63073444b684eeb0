import StorageArray.Snapshot.Basic
/-!
# Work between a link and its unlink

A step that needs a snapshot on target volumes runs between a link and an unlink.  Once the
link is there the unlink is sent whatever becomes of the step, and no error is lost.
-/

namespace StorageArray

/-- The result of a step and of the unlink after it, `resource` naming what was linked. -/
def Snapshot.bracketResult {α : Type} (resource : String) :
    Except ArrayError α → Except ArrayError Unit → Except ArrayError α
  | .ok a, .ok () => .ok a
  | .error e, .ok () => .error e
  | .ok _, .error e => .error e
  | .error e, .error e' => .error (.teardown resource false [e, e'])

/-- Links a generation to targets, runs a step, and unlinks again. -/
def Client.linkDuring {α : Type} (c : Client) (name : String) (sources : List VolumeId)
    (generation : UInt32) (targets : List VolumeId) (step : Operation α) : Operation α := do
  c.linkSnapshot name sources generation targets false
  let outcome ← step.settle
  let unlinked ← (c.unlinkSnapshot name sources generation targets).settle
  .ofExcept (Snapshot.bracketResult
    ("link of snapshot " ++ name ++ " generation " ++ toString generation.toNat) outcome unlinked)

end StorageArray
