import StorageArray.Http.Host
/-!
# Addresses of endpoints

An address is read from a text and kept in normal form: the scheme and the host in lower
case, no port where it goes without saying, no dot segments in the path, and percent signs
in place of characters that cannot stand for themselves.  What an address looks like depends
on the kind of its scheme.  `Url.ofText` reads an address and `Url.text` writes it.
-/

namespace StorageArray.Http

/-- The kinds of schemes. -/
inductive SchemeKind where
  /-- A host has to be given; the port may go without saying. -/
  | network (port : Nat)
  /-- Files of a host, perhaps of this one. -/
  | files
  /-- Anything else. -/
  | other
deriving DecidableEq

namespace SchemeKind

/-- The kind of a scheme. -/
def ofScheme (scheme : List Char) : SchemeKind :=
  match String.ofList scheme with
  | "http" | "ws" => .network 80
  | "https" | "wss" => .network 443
  | "ftp" => .network 21
  | "file" => .files
  | _ => .other

/-- The character parts segments: a slash, and with most kinds a backslash. -/
def isSlash (kind : SchemeKind) (c : Char) : Bool := c == '/' || (kind != .other && c == '\\')

/-- The port that goes without saying. -/
def usualPort? : SchemeKind → Option Nat
  | network port => some port
  | _ => none

end SchemeKind

/-- What stands between the scheme and the path of an address. -/
structure Authority where
  /-- The name of a user. -/
  username : List Char := []
  /-- The password of the user. -/
  password : Option (List Char) := none
  /-- The host in normal form; empty when there is none. -/
  host : List Char := []
  /-- The port, unless it goes without saying. -/
  port : Option Nat := none

/-- The address of a resource at an endpoint. -/
structure Url where
  /-- The scheme. -/
  scheme : List Char
  /-- Who answers, if there is a place for it in the address. -/
  authority : Option Authority
  /-- The path, its slashes included. -/
  path : List Char
  /-- What follows the question mark. -/
  query : Option (List Char)
  /-- What follows the number sign. -/
  fragment : Option (List Char)

namespace Url

/-! ## Characters that cannot stand for themselves -/

/-- What cannot stand in a fragment. -/
def fragmentSet : List Char := " \"<>\x60".toList

/-- What cannot stand in a query. -/
def querySet (kind : SchemeKind) : List Char :=
  if kind = .other then " \"#<>".toList else " \"#<>'".toList

/-- What cannot stand in a path. -/
def pathSet : List Char := " \"#<>?\x60\x7b\x7d".toList

/-- What cannot stand in the name or the password of a user. -/
def userSet : List Char := pathSet ++ "/:;=@[\\]^|".toList

/-! ## Paths -/

/-- The segment stands for the directory itself. -/
def isSingleDot (segment : List Char) : Bool :=
  [".", "%2e"].contains (String.ofList (segment.map Text.lowerAscii))

/-- The segment stands for the directory above. -/
def isDoubleDot (segment : List Char) : Bool :=
  ["..", ".%2e", "%2e.", "%2e%2e"].contains (String.ofList (segment.map Text.lowerAscii))

/-- The segment is the letter of a drive. -/
def isDrive (segment : List Char) : Bool :=
  match segment with
  | [letter, mark] => letter.isAlpha && (mark == ':' || mark == '|')
  | _ => false

/-- The segments of the directory above, last first.  Nothing is above a drive. -/
def above : List (List Char) → List (List Char)
  | [] => []
  | segment :: rest => if isDrive segment then segment :: rest else rest

/-- Adds segments to those that are there, last first; dot segments lead up or stay. -/
def addSegments (done : List (List Char)) : List (List Char) → List (List Char)
  | [] => done
  | [last] =>
    if isDoubleDot last then [] :: above done
    else if isSingleDot last then [] :: done
    else last :: done
  | segment :: rest =>
    if isDoubleDot segment then addSegments (above done) rest
    else if isSingleDot segment then addSegments done rest
    else addSegments (segment :: done) rest

/-- A path in normal form, with a slash before every segment. -/
def normalPath (kind : SchemeKind) (path : List Char) : List Char :=
  let slashed := path.map fun c => if kind.isSlash c then '/' else c
  let segments := match slashed with
    | '/' :: rest => Text.split '/' rest
    | rest => Text.split '/' rest
  let normal := (addSegments [] segments).reverse.flatMap fun segment =>
    '/' :: segment.flatMap (percentEncode pathSet)
  match kind with
  | .network _ => normal
  | .files => '/' :: normal.dropWhile (· == '/')
  | .other => if path.isEmpty then [] else normal

/-! ## Authorities -/

/-- The port in a text, if it is not the usual one. -/
def portOf (usual : Option Nat) (text : List Char) : Except UrlError (Option Nat) :=
  match Text.numberIn 10 text with
  | none => .error .invalidPort
  | some n =>
    if 65535 < n then .error .invalidPort
    else .ok (if text.isEmpty || some n = usual then none else some n)

/-- The parts of an authority before and after the last `@`, if there is one. -/
def splitUser (text : List Char) : Option (List Char) × List Char :=
  match Text.splitFirst '@' text.reverse with
  | some (site, user) => (some user.reverse, site.reverse)
  | none => (none, text)

/-- The host in a part of an authority and, after a colon, the port. -/
def hostAndPort (site : List Char) : List Char × List Char :=
  match site with
  | '[' :: _ =>
    let host := site.takeWhile (· != ']')
    match site.dropWhile (· != ']') with
    | ']' :: ':' :: port => (host ++ [']'], port)
    | ']' :: rest => (host ++ ']' :: rest, [])
    | _ => (site, [])
  | _ =>
    match Text.splitFirst ':' site with
    | some (host, port) => (host, port)
    | none => (site, [])

/-- The authority in a text. -/
def authorityOf (kind : SchemeKind) (text : List Char) : Except UrlError Authority := do
  let (user, site) := splitUser text
  let (host, port) := hostAndPort site
  let host ← if kind = .other then opaqueHost host else normalHost host
  if host.isEmpty && !text.isEmpty then throw .emptyHost
  let port ← portOf kind.usualPort? port
  let (username, password) := match Text.splitFirst ':' (user.getD []) with
    | some (username, password) => (username, password)
    | none => (user.getD [], [])
  let encoded := (·.flatMap (percentEncode userSet))
  pure {
    username := encoded username
    password := if password.isEmpty then none else some (encoded password)
    host, port }

/-- The authority and the path in what follows the scheme of files. -/
def filePlace (rest : List Char) : Except UrlError (Authority × List Char) :=
  let isSlash := SchemeKind.files.isSlash
  match rest with
  | a :: b :: after =>
    let host := after.takeWhile (!isSlash ·)
    if !(isSlash a && isSlash b) || host.isEmpty || isDrive host then
      pure ({}, if isSlash a && isSlash b then after else rest)
    else do
      let host ← normalHost host
      pure ({ host := if host = "localhost".toList then [] else host },
        after.dropWhile (!isSlash ·))
  | _ => pure ({}, rest)

/-! ## Reading -/

/-- Characters of a scheme after the first. -/
def isSchemeChar (c : Char) : Bool := c.isAlphanum || c == '+' || c == '-' || c == '.'

/-- The scheme of a text in lower case, and what follows the colon. -/
def schemeOf (text : List Char) : Option (List Char × List Char) :=
  match text, text.dropWhile isSchemeChar with
  | c :: _, ':' :: rest =>
    if c.isAlpha then some ((text.takeWhile isSchemeChar).map Text.lowerAscii, rest) else none
  | _, _ => none

/-- The text without controls and spaces at its ends, and without line controls inside. -/
def stripped (text : List Char) : List Char :=
  let isEdge (c : Char) : Bool := c.toNat ≤ 0x20
  (((text.dropWhile isEdge).reverse.dropWhile isEdge).reverse).filter fun c =>
    !(c == '\t' || c == '\n' || c == '\r')

/-- The authority and the path in what follows a scheme. -/
def place (kind : SchemeKind) (rest : List Char) :
    Except UrlError (Option Authority × List Char) := do
  let spanned (text : List Char) : Except UrlError (Option Authority × List Char) := do
    let authority ← authorityOf kind (text.takeWhile (!kind.isSlash ·))
    pure (some authority, normalPath kind (text.dropWhile (!kind.isSlash ·)))
  match kind, rest with
  | .network _, rest => spanned (rest.dropWhile kind.isSlash)
  | .files, rest =>
    let (authority, path) ← filePlace rest
    pure (some authority, normalPath kind path)
  | .other, '/' :: '/' :: rest => spanned rest
  | .other, '/' :: rest => pure (none, normalPath kind ('/' :: rest))
  | .other, rest => pure (none, rest.flatMap (percentEncode []))

/-- The address that a text denotes. -/
def ofText (text : List Char) : Except UrlError Url :=
  match schemeOf (stripped text) with
  | none => .error .relative
  | some (scheme, rest) => do
    let kind := SchemeKind.ofScheme scheme
    let (rest, fragment) := match Text.splitFirst '#' rest with
      | some (a, b) => (a, some b)
      | none => (rest, none)
    let (rest, query) := match Text.splitFirst '?' rest with
      | some (a, b) => (a, some b)
      | none => (rest, none)
    let (authority, path) ← place kind rest
    pure {
      scheme, authority, path
      query := query.map (·.flatMap (percentEncode (querySet kind)))
      fragment := fragment.map (·.flatMap (percentEncode fragmentSet)) }

/-! ## Writing -/

/-- An optional part behind its mark. -/
def behind (mark : Char) : Option (List Char) → List Char
  | none => []
  | some part => mark :: part

/-- The authority as a text. -/
def authorityText (a : Authority) : List Char :=
  let user :=
    if a.username.isEmpty && a.password.isNone then []
    else a.username ++ behind ':' a.password ++ ['@']
  user ++ a.host ++ behind ':' (a.port.map fun n => (toString n).toList)

/-- The address as a text.  Two slashes at the start of a path are not taken for an
authority. -/
def text (u : Url) : String :=
  let authority := match u.authority, u.path with
    | some a, _ => "//".toList ++ authorityText a
    | none, '/' :: '/' :: _ => "/.".toList
    | none, _ => []
  String.ofList (u.scheme ++ ':' :: authority ++ u.path ++ behind '?' u.query
    ++ behind '#' u.fragment)

/-! ## Use -/

/-- The address names a host. -/
def hasHost (u : Url) : Bool := u.authority.any fun a => !a.host.isEmpty

/-- The scheme is one of the two for web endpoints. -/
def isWeb (u : Url) : Bool := ["http", "https"].contains (String.ofList u.scheme)

/-- How many bytes an address can have that is sent. -/
def longest : Nat := 65534

/-- A character of a name that a message cannot carry. -/
def isUnsendable (c : Char) : Bool := "\"\x60\x7b\x7d".toList.contains c

/-- The address can be sent as it is written. -/
def isSendable (u : Url) : Bool :=
  !(u.authority.any fun a => a.host.any isUnsendable) && u.text.utf8ByteSize ≤ longest

/-- The characters with percent signs stand for a text. -/
def isReadable (cs : List Char) : Bool := (Text.decodeStrict (decodedBytes cs)).isSome

/-- The address without its user, as far as the name and the password can be read. -/
def anonymous (u : Url) : Url :=
  match u.authority with
  | none => u
  | some a =>
    if isReadable a.username && (!a.username.isEmpty || a.password.any isReadable) then
      { u with authority := some { a with username := [], password := none } }
    else u

/-! ## Parameters -/

/-- Characters of a parameter that stand for themselves. -/
def isFormChar (b : UInt8) : Bool :=
  let c := Char.ofNat b.toNat
  c.isAlphanum || c == '*' || c == '-' || c == '.' || c == '_'

/-- A name or a value of a parameter as it is written in a query. -/
def formEncode (s : String) : List Char :=
  (Text.encode s).flatMap fun b =>
    if b == 0x20 then ['+']
    else if isFormChar b then [Char.ofNat b.toNat]
    else '%' :: hexByte b

/-- The address with parameters added to its query. -/
def withParameters (u : Url) (parameters : List (String × String)) : Url :=
  if parameters.isEmpty then u
  else
    let pairs := parameters.map fun (name, value) => formEncode name ++ '=' :: formEncode value
    let added := ['&'].intercalate pairs
    let query := match u.query with
      | none | some [] => added
      | some q => q ++ '&' :: added
    { u with query := some query }

end Url

end StorageArray.Http
