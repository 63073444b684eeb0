import StorageArray.Resource.Basic
/-!
# Hosts

A host owns initiators, the ports through which it reaches the array.  No initiator belongs
to two hosts, so an initiator leads to its host.
-/

namespace StorageArray

/-- What the array reports about a host. -/
structure Host where
  /-- The name. -/
  name : String
  /-- The initiators of the host. -/
  initiators : List String
  /-- The masking views that give the host access. -/
  maskingViews : List String
  /-- How many initiators the array counts. -/
  initiatorCount : UInt32
deriving DecidableEq

/-- The attributes of a new host. -/
structure HostSpec where
  /-- The initiators to register. -/
  initiators : List String := []
deriving DecidableEq

namespace Host

/-- How a record is written. -/
def shape : Shape Host :=
  .record "Host"
    (.cons "hostId" .required .text <|
      .cons "initiator" .defaulted (.list .text) <|
      .cons "maskingview" .defaulted (.list .text) <|
      .cons "num_of_initiators" .defaulted .word32 .nil)
    (fun (name, initiators, views, count, ()) => ⟨name, initiators, views, count⟩)
    (fun h => (h.name, h.initiators, h.maskingViews, h.initiatorCount, ()))
    (fun _ => rfl)

/-- The payload that creates a host. -/
def payload (name : String) (spec : HostSpec) : Json :=
  .object [
    ("executionOption", .string "ASYNCHRONOUS"),
    ("hostId", .string name),
    ("initiatorId", .strings spec.initiators)]

/-- The class of hosts. -/
def resources : ResourceClass Host HostSpec where
  kind := "host"
  collection := "host"
  idKey := "hostId"
  shape := shape
  payload := payload
  nameOf := name

end Host

/-- What the array reports about an initiator. -/
structure Initiator where
  /-- The host that owns it. -/
  host : Option String
deriving DecidableEq

/-- How the record of an initiator is written. -/
def Initiator.shape : Shape Initiator :=
  .record "InitiatorRecord" (.cons "host" .defaulted (.optional .text) .nil)
    (fun (host, ()) => ⟨host⟩) (fun i => (i.host, ())) (fun _ => rfl)

/-- The host that owns an initiator, found through the listing and the record of the
initiator. -/
def Client.findHostByInitiator (c : Client) (initiator : String) : Operation Host := do
  let subject : Subject := ⟨"initiator", initiator⟩
  let listing ← c.fetch
    ((Request.get (c.provisioningPath "initiator")).withQuery "initiator_hba" initiator) subject
  match ← Operation.ofExcept (Listing.listed "initiatorId" listing) with
  | [] => .fail (.notFound subject.kind subject.name)
  | id :: _ =>
    let record ← c.read (.get (c.provisioningPath ("initiator/" ++ id))) subject "initiator"
      Initiator.shape
    match record.host with
    | none => .fail (.notFound "host for initiator" initiator)
    | some host =>
      if host = "" then .fail (.notFound "host for initiator" initiator)
      else c.getResource Host.resources host

end StorageArray
