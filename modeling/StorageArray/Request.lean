import StorageArray.Json.Basic
/-!
# Requests, responses and failures in between

A request addresses a path below the root of the management interface.  Sending one gives
either a response with a status and a body, or a transport error.
-/

namespace StorageArray

/-- The verb of a request. -/
inductive Method where
  /-- Reads a resource or a collection. -/
  | get
  /-- Creates a resource or submits an action. -/
  | post
  /-- Changes a resource. -/
  | put
  /-- Removes a resource. -/
  | delete
deriving DecidableEq, Repr

/-- The verb in capitals. -/
def Method.name : Method → String
  | .get => "GET"
  | .post => "POST"
  | .put => "PUT"
  | .delete => "DELETE"

/-- A request to the management interface. -/
structure Request where
  /-- The verb. -/
  method : Method
  /-- The path below the root, the version first. -/
  path : String
  /-- The parameters of the query, in order. -/
  query : List (String × String) := []
  /-- The payload, if there is one. -/
  body : Option Json := none

namespace Request

/-- Reads a path. -/
def get (path : String) : Request := { method := .get, path }

/-- Submits a payload to a path. -/
def post (path : String) (body : Json) : Request := { method := .post, path, body := some body }

/-- Changes what is at a path. -/
def put (path : String) (body : Json) : Request := { method := .put, path, body := some body }

/-- Removes what is at a path. -/
def delete (path : String) : Request := { method := .delete, path }

/-- The request with a payload in place of any it had. -/
def withBody (r : Request) (body : Json) : Request := { r with body := some body }

/-- The request with one more query parameter at the end. -/
def withQuery (r : Request) (name value : String) : Request :=
  { r with query := r.query ++ [(name, value)] }

/-- The first query parameter with a name. -/
def queryValue? (r : Request) (name : String) : Option String :=
  (r.query.find? fun pair => pair.1 == name).map (·.2)

end Request

/-- The answer to a request. -/
structure Response where
  /-- The status code. -/
  status : Nat
  /-- The decoded body, null when it was empty. -/
  body : Json

/-- The status says that the request was carried out. -/
def Response.isSuccess (r : Response) : Bool := 200 ≤ r.status && r.status < 300

/-- What went wrong between the two ends. -/
inductive TransportFault where
  /-- The endpoint could not be reached. -/
  | connect
  /-- There was no answer in time. -/
  | timedOut
  /-- The body of the answer is not JSON. -/
  | decode
  /-- The request could not be built, or sent to its end. -/
  | request
deriving DecidableEq, Repr

/-- A request that was not answered. -/
structure TransportError where
  /-- What went wrong. -/
  fault : TransportFault
  /-- The endpoint that was to be reached. -/
  endpoint : String
  /-- The details. -/
  detail : String
deriving DecidableEq, Repr

namespace TransportError

/-- The error as a text. -/
def message (e : TransportError) : String :=
  match e.fault with
  | .connect => "connection to " ++ e.endpoint ++ " failed: " ++ e.detail
  | .timedOut => "request to " ++ e.endpoint ++ " timed out: " ++ e.detail
  | .decode => "failed to decode response from " ++ e.endpoint ++ ": " ++ e.detail
  | .request => "request to " ++ e.endpoint ++ " failed: " ++ e.detail

/-- The same request may succeed when it is sent again. -/
def isTransient (e : TransportError) : Bool :=
  match e.fault with
  | .connect | .timedOut => true
  | .decode | .request => false

end TransportError

end StorageArray
