import StorageArray.Resource.Basic
/-!
# Storage groups

A storage group is a named set of volumes under one provisioning policy: a pool, a service
level and a workload.  A group without pool and service level is not managed.
-/

namespace StorageArray

/-- What the array reports about a storage group. -/
structure StorageGroup where
  /-- The name. -/
  name : String
  /-- The storage resource pool. -/
  pool : Option String
  /-- The service level. -/
  serviceLevel : Option String
  /-- The workload. -/
  workload : Option String
  /-- How many volumes are in the group. -/
  volumeCount : UInt32
  /-- The capacity of all volumes in GB. -/
  capacity : Binary64
  /-- The masking views that expose the group. -/
  maskingViews : List String
  /-- `some false` when the group is bound to a replication group. -/
  unprotected : Option Bool
deriving DecidableEq

/-- The attributes of a new storage group. -/
structure StorageGroupSpec where
  /-- The storage resource pool. -/
  pool : Option String := none
  /-- The service level. -/
  serviceLevel : Option String := none
  /-- The workload. -/
  workload : Option String := none
deriving DecidableEq

/-- The attributes of a group in a pool at a service level, without a workload. -/
def StorageGroupSpec.managed (pool serviceLevel : String) : StorageGroupSpec :=
  { pool := some pool, serviceLevel := some serviceLevel }

namespace StorageGroup

/-- How a record is written. -/
def shape : Shape StorageGroup :=
  .record "StorageGroup"
    (.cons "storageGroupId" .required .text <|
      .cons "srp" .defaulted (.optional .text) <|
      .cons "slo" .defaulted (.optional .text) <|
      .cons "workload" .defaulted (.optional .text) <|
      .cons "num_of_vols" .defaulted .word32 <|
      .cons "cap_gb" .defaulted .real <|
      .cons "maskingview" .defaulted (.list .text) <|
      .cons "unprotected" .defaulted (.optional .flag) .nil)
    (fun (name, pool, level, workload, count, capacity, views, unprotected, ()) =>
      ⟨name, pool, level, workload, count, capacity, views, unprotected⟩)
    (fun g => (g.name, g.pool, g.serviceLevel, g.workload, g.volumeCount, g.capacity,
      g.maskingViews, g.unprotected, ()))
    (fun _ => rfl)

/-- The group is replicated. -/
def isProtected (g : StorageGroup) : Bool := g.unprotected == some false

/-- A policy attribute that is missing, or named as none. -/
def isNone (policy : Option String) : Bool :=
  match policy with
  | none => true
  | some s => Text.eqIgnoringAsciiCase s "none"

/-- The group has neither pool nor service level. -/
def isNonManaged (g : StorageGroup) : Bool := isNone g.pool && isNone g.serviceLevel

/-- The payload that creates an empty group. -/
def payload (name : String) (spec : StorageGroupSpec) : Json :=
  .object [
    ("create_empty_storage_group", .bool true),
    ("emulation", .string "FBA"),
    ("executionOption", .string "ASYNCHRONOUS"),
    ("sloBasedStorageGroupParam", .array [.object [
      ("sloId", .string (spec.serviceLevel.getD "None")),
      ("volumeAttributes", .array [.object [
        ("capacityUnit", .string "GB"),
        ("num_of_vols", .nat 0),
        ("volume_size", .string "0")]]),
      ("workloadSelection", .string (spec.workload.getD "None"))]]),
    ("srpId", .string (spec.pool.getD "None")),
    ("storageGroupId", .string name)]

/-- The class of storage groups. -/
def resources : ResourceClass StorageGroup StorageGroupSpec where
  kind := "storage group"
  collection := "storagegroup"
  idKey := "storageGroupId"
  shape := shape
  payload := payload
  nameOf := name

end StorageGroup

end StorageArray
