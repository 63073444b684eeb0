import StorageArray.Config.Connection
import StorageArray.Http.Url
import StorageArray.Json.Reader
import StorageArray.Program
/-!
# One exchange with an endpoint

A request becomes a message to an address below the root of the management interface, with
the credentials of the connection.  What comes of it depends on the link to the endpoint:
it is out of reach, it breaks, it stays silent, or it delivers a status with some bytes.
The bytes are decoded as JSON; an error page that is not JSON is kept as a text, so that
its status is not lost.
-/

namespace StorageArray.Http

/-- What becomes of a message on its way to the endpoint and back. -/
inductive Link where
  /-- The endpoint cannot be reached, for this reason. -/
  | unreachable (reason : String)
  /-- The connection is closed without an answer. -/
  | dropped
  /-- There is no answer in time. -/
  | silent
  /-- The endpoint answers. -/
  | answers (status : Nat) (bytes : List UInt8)

/-- A message as it leaves for the endpoint. -/
structure Message where
  /-- The verb. -/
  method : Method
  /-- The address, with the parameters. -/
  url : String
  /-- The name of the user and the password, a colon between them. -/
  credentials : String
  /-- The payload. -/
  body : Option Json

/-- The kind of content that is asked for and sent. -/
def contentType : String := "application/json"

/-- The root of the management interface at an endpoint. -/
def restRoot (baseUrl : String) : String :=
  String.ofList (baseUrl.toList.reverse.dropWhile (· == '/')).reverse ++ "/univmax/restapi"

/-- The address of a request, before it is brought into normal form. -/
def endpointOf (baseUrl : String) (request : Request) : String :=
  restRoot baseUrl ++ "/" ++ String.ofList (request.path.toList.dropWhile (· == '/'))

/-- Why a request does not become a message. -/
inductive Obstacle where
  /-- The text is not an address. -/
  | notAnAddress (cause : UrlError)
  /-- The address is not that of a web endpoint. -/
  | foreign (address : Url)
  /-- The address cannot be written into a message. -/
  | notSendable (address : Url)

/-- The obstacle as a text. -/
def Obstacle.message : Obstacle → String
  | .notAnAddress cause => "builder error: " ++ cause.message
  | .foreign address =>
    "builder error for url (" ++ address.text ++ "): URL scheme is not allowed"
  | .notSendable address =>
    "builder error for url (" ++ address.text ++ "): Parsed Url is not a valid Uri"

/-- The address for a request.  Credentials in the address are not used. -/
def addressFor (connection : Connection) (request : Request) : Except Obstacle Url := do
  let given ← (Url.ofText (endpointOf connection.baseUrl request).toList).mapError .notAnAddress
  if !given.hasHost then throw (.foreign given)
  let url := given.anonymous.withParameters request.query
  if !url.isWeb then throw (.foreign url)
  if !url.isSendable then throw (.notSendable url)
  pure url

/-- The message for a request. -/
def messageFor (connection : Connection) (request : Request) : Except Obstacle Message := do
  pure {
    method := request.method
    url := (← addressFor connection request).text
    credentials := connection.username ++ ":" ++ connection.password
    body := request.body }

/-- White space of ASCII. -/
def isAsciiSpace (b : UInt8) : Bool := b == 0x20 || b == 0x09 || b == 0x0a || b == 0x0c || b == 0x0d

/-- The body of an answer.  Nothing but white space is null; what is not JSON is an error
after a success, and the text of a refusal otherwise. -/
def decodeReply (endpoint : String) (status : Nat) (bytes : List UInt8) :
    Except TransportError Json :=
  if bytes.all isAsciiSpace then .ok .null
  else match Json.ofBytes bytes with
    | .ok value => .ok value
    | .error e =>
      if 200 ≤ status && status < 300 then .error ⟨.decode, endpoint, e.message⟩
      else
        let text := String.ofList (Text.trimList (Text.decodeLossy bytes))
        .ok (.object [("message", .string text)])

/-- Statuses after which no body follows. -/
def hasNoBody (status : Nat) : Bool := status = 204 || status = 304

/-- Exchanges a request over a link: the message, if one arrived, and the answer. -/
def exchange (connection : Connection) (link : Link) (request : Request) :
    Option Message × Answer :=
  let endpoint := endpointOf connection.baseUrl request
  match messageFor connection request with
  | .error obstacle => (none, .error ⟨.request, endpoint, obstacle.message⟩)
  | .ok message =>
    let sending := "error sending request for url (" ++ message.url ++ "): "
    match link with
    | .unreachable reason =>
      (none, .error ⟨.connect, endpoint,
        sending ++ "error trying to connect: tcp connect error: " ++ reason⟩)
    | .dropped =>
      (some message, .error ⟨.request, endpoint,
        sending ++ "connection closed before message completed"⟩)
    | .silent => (some message, .error ⟨.timedOut, endpoint, sending ++ "operation timed out"⟩)
    | .answers status bytes =>
      (some message, (decodeReply endpoint status (if hasNoBody status then [] else bytes)).map
        fun body => ⟨status, body⟩)

/-- Links for the next exchanges, and the messages of those before. -/
structure Line where
  /-- The links of the next exchanges, in order. -/
  links : List Link := []
  /-- The link of every exchange after them. -/
  afterwards : Link
  /-- The messages that arrived, the last one first. -/
  arrived : List Message := []

/-- Answers requests over a line; both sites share the endpoint. -/
def Line.answer (connection : Connection) : Program.Answerer Line := fun _ request line =>
  let link := line.links.headD line.afterwards
  let (message, a) := exchange connection link request
  (a, { line with links := line.links.tail, arrived := message.toList ++ line.arrived })

end StorageArray.Http
