import StorageArray.Resource.Basic
import StorageArray.Text.Quoted
/-!
# Port groups

A port group is a named set of front-end ports.  A port is written `director:port`; the
director is what stands before the first colon.
-/

namespace StorageArray

/-- A front-end port. -/
structure PortKey where
  /-- The director. -/
  director : String
  /-- The port of the director. -/
  port : String
deriving DecidableEq

namespace PortKey

/-- The port as a text. -/
def text (k : PortKey) : String := k.director ++ ":" ++ k.port

/-- The port written in a text: two parts that are not blank, around the first colon. -/
def ofText (s : String) : Except ArrayError PortKey :=
  match Text.splitFirst ':' s.toList with
  | some (director, port) =>
    if director.all Text.isBlank || port.all Text.isBlank then
      .error (.validation ("port key " ++ Text.quoted s ++ " is not director:port"))
    else
      .ok ⟨String.ofList (Text.trimList director), String.ofList (Text.trimList port)⟩
  | none => .error (.validation ("port key " ++ Text.quoted s ++ " is not director:port"))

/-- How a port is written in records and payloads. -/
def shape : Shape PortKey :=
  .record "PortKey" (.cons "directorId" .required .text <| .cons "portId" .required .text .nil)
    (fun (director, port, ()) => ⟨director, port⟩) (fun k => (k.director, k.port, ()))
    (fun _ => rfl)

end PortKey

/-- What the array reports about a port group. -/
structure PortGroup where
  /-- The name. -/
  name : String
  /-- The ports of the group. -/
  ports : List PortKey
  /-- The masking views that use the group. -/
  maskingViews : List String
deriving DecidableEq

/-- The attributes of a new port group. -/
structure PortGroupSpec where
  /-- The ports of the group. -/
  ports : List PortKey := []
deriving DecidableEq

namespace PortGroup

/-- How a record is written. -/
def shape : Shape PortGroup :=
  .record "PortGroup"
    (.cons "portGroupId" .required .text <|
      .cons "symmetrixPortKey" .defaulted (.list PortKey.shape) <|
      .cons "maskingview" .defaulted (.list .text) .nil)
    (fun (name, ports, views, ()) => ⟨name, ports, views⟩)
    (fun g => (g.name, g.ports, g.maskingViews, ()))
    (fun _ => rfl)

/-- The payload that creates a port group. -/
def payload (name : String) (spec : PortGroupSpec) : Json :=
  .object [
    ("executionOption", .string "ASYNCHRONOUS"),
    ("portGroupId", .string name),
    ("symmetrixPortKey", .array (spec.ports.map PortKey.shape.encode))]

/-- The class of port groups. -/
def resources : ResourceClass PortGroup PortGroupSpec where
  kind := "port group"
  collection := "portgroup"
  idKey := "portGroupId"
  shape := shape
  payload := payload
  nameOf := name

end PortGroup

end StorageArray
