import StorageArray.Benign
import StorageArray.Job.Record
import StorageArray.Program
import StorageArray.Text.Lowercase
import StorageArray.Text.Search
/-!
# The client of one array

A client knows which array it manages, at which site, and the settings under which it
works.  It builds the paths of requests below that array and classifies what comes back:
a completed request, a request deferred to a job, or an error.
-/

namespace StorageArray

/-- How a client works. -/
structure Settings where
  /-- The version segment in front of every path. -/
  apiVersion : String
  /-- The pause between two polls of a job. -/
  pollInterval : Duration
  /-- How long a job is waited for. -/
  jobTimeout : Duration
  /-- How many transient failures in a row are tolerated while polling. -/
  maxPollRetries : Nat
  /-- How often a lookup is followed by an attempt to create. -/
  maxCreateAttempts : Nat
  /-- Failures that count as success. -/
  benign : BenignFailures

/-- Settings for version 100: a poll every three seconds for five minutes, and three
attempts each. -/
def Settings.default : Settings where
  apiVersion := "100"
  pollInterval := .ofSeconds 3
  jobTimeout := .ofSeconds 300
  maxPollRetries := 3
  maxCreateAttempts := 3
  benign := .builtin

/-- The client of one array. -/
structure Client where
  /-- The site whose endpoint gets the requests. -/
  site : Site
  /-- The array that is managed. -/
  arrayId : ArrayId
  /-- How the client works. -/
  settings : Settings

/-- What a request is about, for the errors that name it. -/
structure Subject where
  /-- The kind of resource. -/
  kind : String
  /-- Its name. -/
  name : String

/-- The subject as a text. -/
def Subject.text (s : Subject) : String := s.kind ++ " " ++ s.name

/-- The answer to a request that was accepted. -/
inductive Reply where
  /-- The request was carried out, with this body. -/
  | complete (body : Json)
  /-- The request goes on as a job. -/
  | deferred (job : JobRecord)

/-- A body as a value of a shape; the error names what was being read. -/
def decodeBody {α : Type} (context : String) (shape : Shape α) (body : Json) :
    Except ArrayError α :=
  (shape.decode body).mapError fun e => .unexpectedResponse context e.message

namespace Reply

/-- The reason that the body of a refusal gives. -/
def refusalText : Json → String
  | .null => ""
  | .string s => s
  | body => match body.member? "message" with
    | some (.string s) => s
    | _ => body.compact

/-- The body is an object that describes a job. -/
def isJobHandle (body : Json) : Bool :=
  (body.member? "jobId").isSome && (body.member? "status").isSome

/-- What a response means for a request with this verb and subject.  Reads are never
deferred; a refusal is told apart by its status and, where the resource exists already, by
its text. -/
def classify (method : Method) (response : Response) (subject : Subject) :
    Except ArrayError Reply :=
  if response.isSuccess then
    if method = .get then .ok (.complete response.body)
    else if isJobHandle response.body then
      (decodeBody "job handle" JobRecord.shape response.body).map .deferred
    else if response.status = 202 then
      .error (.unexpectedResponse subject.text "accepted response did not carry a job handle")
    else .ok (.complete response.body)
  else
    let text := refusalText response.body
    if response.status = 404 then .error (.notFound subject.kind subject.name)
    else if response.status = 409 || Text.contains (Text.lowercase text) "already exists" then
      .error (.conflict subject.kind subject.name text)
    else .error (.rejected response.status text)

end Reply

namespace Operation

variable {α : Type}

/-- An operation that sends nothing and has this result. -/
def ofExcept (result : Except ArrayError α) : Operation α := ExceptT.mk (.done result)

/-- An operation that sends nothing and fails. -/
def fail (e : ArrayError) : Operation α := ofExcept (.error e)

end Operation

namespace Client

/-- A path below the provisioning of the client's array. -/
def provisioningPath (c : Client) (tail : String) : String :=
  c.settings.apiVersion ++ "/sloprovisioning/symmetrix/" ++ c.arrayId.text ++ "/" ++ tail

/-- A path below the replication of the client's array. -/
def replicationPath (c : Client) (tail : String) : String :=
  c.settings.apiVersion ++ "/replication/symmetrix/" ++ c.arrayId.text ++ "/" ++ tail

/-- A path outside any array. -/
def systemPath (c : Client) (tail : String) : String :=
  c.settings.apiVersion ++ "/system/" ++ tail

/-- Sends a request and classifies the response. -/
def submit (c : Client) (request : Request) (subject : Subject) : Operation Reply := do
  let response ← Operation.ask c.site request
  .ofExcept (Reply.classify request.method response subject)

/-- Sends a request that has to be carried out at once, and gives its body. -/
def fetch (c : Client) (request : Request) (subject : Subject) : Operation Json := do
  match ← c.submit request subject with
  | .complete body => pure body
  | .deferred job =>
    .fail (.unexpectedResponse request.path ("read request was deferred as job " ++ job.id.text))

/-- Reads a value of a shape; `context` names it in errors about the body. -/
def read {α : Type} (c : Client) (request : Request) (subject : Subject) (context : String)
    (shape : Shape α) : Operation α := do
  .ofExcept (decodeBody context shape (← c.fetch request subject))

end Client

end StorageArray
