import StorageArray.Resource.Basic
/-!
# Masking views

A masking view gives a host access to the volumes of a storage group through the ports of
a port group.
-/

namespace StorageArray

/-- What the array reports about a masking view. -/
structure MaskingView where
  /-- The name. -/
  name : String
  /-- The host with access. -/
  host : Option String
  /-- The ports of the access. -/
  portGroup : String
  /-- The volumes that are exposed. -/
  storageGroup : String
deriving DecidableEq

/-- What a new masking view binds together; all three exist already. -/
structure MaskingViewSpec where
  /-- The host. -/
  host : String
  /-- The port group. -/
  portGroup : String
  /-- The storage group. -/
  storageGroup : String
deriving DecidableEq

namespace MaskingView

/-- How a record is written. -/
def shape : Shape MaskingView :=
  .record "MaskingView"
    (.cons "maskingViewId" .required .text <|
      .cons "hostId" .defaulted (.optional .text) <|
      .cons "portGroupId" .required .text <|
      .cons "storageGroupId" .required .text .nil)
    (fun (name, host, ports, group, ()) => ⟨name, host, ports, group⟩)
    (fun v => (v.name, v.host, v.portGroup, v.storageGroup, ()))
    (fun _ => rfl)

/-- The payload that creates a masking view. -/
def payload (name : String) (spec : MaskingViewSpec) : Json :=
  .object [
    ("executionOption", .string "ASYNCHRONOUS"),
    ("hostOrHostGroupSelection",
      .object [("useExistingHostParam", .object [("hostId", .string spec.host)])]),
    ("maskingViewId", .string name),
    ("portGroupSelection",
      .object [("useExistingPortGroupParam", .object [("portGroupId", .string spec.portGroup)])]),
    ("storageGroupSelection",
      .object [("useExistingStorageGroupParam",
        .object [("storageGroupId", .string spec.storageGroup)])])]

/-- The class of masking views. -/
def resources : ResourceClass MaskingView MaskingViewSpec where
  kind := "masking view"
  collection := "maskingview"
  idKey := "maskingViewId"
  shape := shape
  payload := payload
  nameOf := name

end MaskingView

/-- The names of the masking views that expose a storage group. -/
def Client.listMaskingViews (c : Client) (storageGroup : String) :
    Operation (List String) := do
  .ofExcept (Listing.listed MaskingView.resources.idKey
    (← c.fetch
      ((Request.get (c.provisioningPath MaskingView.resources.collection)).withQuery
        "storage_group_name" storageGroup)
      ⟨MaskingView.resources.kind, storageGroup⟩))

end StorageArray
