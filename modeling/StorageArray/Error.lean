import StorageArray.Identifier
import StorageArray.Json.Writer
import StorageArray.Request
import StorageArray.Time
/-!
# What can go wrong in an operation

Every operation on an array ends in a value or in an `ArrayError`.  The errors are causes;
`ArrayError.message` gives their texts.  A teardown that could not do all its steps carries
the errors of the steps, so errors nest.
-/

namespace StorageArray

/-- Why an operation failed. -/
inductive ArrayError where
  /-- The resource does not exist. -/
  | notFound (kind name : String)
  /-- Another creator of the same resource was faster. -/
  | conflict (kind name detail : String)
  /-- The array reported a job as failed, with this result. -/
  | jobFailed (job : JobId) (detail : String)
  /-- A job did not end before its deadline. -/
  | timeout (job : JobId) (waited : Duration)
  /-- After an expansion the volume has another capacity than the requested one. -/
  | sizeMismatch (volume : VolumeId) (requested : UInt32) (reported : Binary64)
  /-- Arguments, or a state of the array that does not allow them. -/
  | validation (detail : String)
  /-- A volume that has just been created cannot be found. -/
  | volumeNotFound (name group : String)
  /-- The volume is not paired through the replication group. -/
  | pairNotFound (volume : VolumeId) (group : UInt32)
  /-- The array refused the request. -/
  | rejected (status : Nat) (detail : String)
  /-- A response does not have the expected shape. -/
  | unexpectedResponse (context detail : String)
  /-- The request was not answered. -/
  | transport (error : TransportError)
  /-- Steps of a teardown failed; `deleted` says whether its last step was reached and
  succeeded. -/
  | teardown (resource : String) (deleted : Bool) (errors : List ArrayError)
  /-- The configuration does not allow the operation. -/
  | config (detail : String)

namespace ArrayError

mutual

/-- The error as a text. -/
def message : ArrayError → String
  | .notFound kind name => kind ++ " " ++ name ++ " not found"
  | .conflict kind name detail => kind ++ " " ++ name ++ " already exists: " ++ detail
  | .jobFailed job detail => "job " ++ job.text ++ " failed: " ++ detail
  | .timeout job waited =>
    "timed out after " ++ waited.text ++ " waiting for job " ++ job.text
  | .sizeMismatch volume requested reported =>
    "volume " ++ volume.text ++ " reports " ++ reported.textIn .capacity
      ++ " GB after expansion to " ++ toString requested.toNat ++ " GB"
  | .validation detail => "validation failed: " ++ detail
  | .volumeNotFound name group => "volume " ++ name ++ " not found in storage group " ++ group
  | .pairNotFound volume group =>
    "no replication pair for volume " ++ volume.text ++ " in RDF group " ++ toString group.toNat
  | .rejected status detail =>
    "array rejected request with status " ++ toString status ++ ": " ++ detail
  | .unexpectedResponse context detail =>
    "unexpected response for " ++ context ++ ": " ++ detail
  | .transport error => error.message
  | .teardown resource deleted errors =>
    "teardown of " ++ resource ++ " incomplete (deleted: " ++ Json.boolText deleted ++ "): "
      ++ joined errors
  | .config detail => "configuration error: " ++ detail

/-- The texts of several errors, in order. -/
def joined : List ArrayError → String
  | [] => ""
  | [e] => e.message
  | e :: rest => e.message ++ "; " ++ joined rest

end

/-- The error reports something that does not exist. -/
def isNotFound : ArrayError → Bool
  | .notFound .. | .volumeNotFound .. | .pairNotFound .. => true
  | _ => false

/-- The error reports that another creator was faster. -/
def isConflict : ArrayError → Bool
  | .conflict .. => true
  | _ => false

/-- The same request may succeed when it is sent again: the endpoint was not reached in
time, or a gateway in front of it said so. -/
def isTransient : ArrayError → Bool
  | .transport error => error.isTransient
  | .rejected status _ => 502 ≤ status && status ≤ 504
  | _ => false

end ArrayError

end StorageArray
