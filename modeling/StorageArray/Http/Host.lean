import StorageArray.Http.Address
import StorageArray.Http.Name
import StorageArray.Http.Percent
/-!
# Hosts of endpoints

A host is a name, an IPv4 address or, between brackets, an IPv6 address.  Each has one
normal form, which `normalHost` gives.  Where names mean nothing, a host is any text without
the characters that part an address; `opaqueHost` reads it.
-/

namespace StorageArray.Http

/-- Why a text is not an address. -/
inductive UrlError where
  /-- There is no scheme. -/
  | relative
  /-- There is no host. -/
  | emptyHost
  /-- The port is not a number of 16 bits. -/
  | invalidPort
  /-- The host is not a name. -/
  | invalidName
  /-- The host ends like an IPv4 address and is none. -/
  | invalidIpv4
  /-- What stands between the brackets is not an IPv6 address. -/
  | invalidIpv6
  /-- The host contains a character that parts an address. -/
  | invalidCharacter
deriving DecidableEq, Repr

/-- The cause as a text. -/
def UrlError.message : UrlError → String
  | .relative => "relative URL without a base"
  | .emptyHost => "empty host"
  | .invalidPort => "invalid port number"
  | .invalidName => "invalid international domain name"
  | .invalidIpv4 => "invalid IPv4 address"
  | .invalidIpv6 => "invalid IPv6 address"
  | .invalidCharacter => "invalid domain character"

/-- The normal form of an IPv6 address behind its opening bracket. -/
def bracketed (rest : List Char) : Except UrlError (List Char) :=
  match rest.getLast?, ipv6? rest.dropLast with
  | some ']', some pieces => .ok ("[" ++ ipv6Text pieces ++ "]").toList
  | _, _ => .error .invalidIpv6

/-- The normal form of a name or an IPv4 address. -/
def normalName (host : List Char) : Except UrlError (List Char) :=
  match Name.ascii? (Text.decodeLossy (decodedBytes host)) with
  | none => .error .invalidName
  | some [] => .error .emptyHost
  | some name =>
    if endsInNumber name then (ipv4? name).elim (.error .invalidIpv4) .ok else .ok name

/-- The normal form of a host. -/
def normalHost (host : List Char) : Except UrlError (List Char) :=
  match host with
  | '[' :: rest => bracketed rest
  | [] => .error .emptyHost
  | _ => normalName host

/-- Characters that part an address. -/
def isParting (c : Char) : Bool := "\x00\t\n\r #/:<>?@[\\]^|".toList.contains c

/-- The normal form of a host that need not be a name. -/
def opaqueHost (host : List Char) : Except UrlError (List Char) :=
  match host with
  | '[' :: rest => bracketed rest
  | _ =>
    if host.any isParting then .error .invalidCharacter
    else .ok (host.flatMap (percentEncode []))

end StorageArray.Http
