import StorageArray.Error
import StorageArray.Wire.Decode
/-!
# Job records

The array does long work in jobs.  A record tells how far a job has come; once its status
is terminal the record has an outcome.
-/

namespace StorageArray

/-- How far a job has come. -/
inductive JobStatus where
  /-- Accepted, not yet scheduled. -/
  | created
  /-- Waiting to be executed. -/
  | scheduled
  /-- Its parameters are being checked. -/
  | validating
  /-- Being executed. -/
  | running
  /-- Ended well. -/
  | succeeded
  /-- Ended with an error. -/
  | failed
  /-- Some status without a meaning here; the job has not ended. -/
  | unknown
deriving DecidableEq, Repr

namespace JobStatus

/-- The name of the status on the wire. -/
def name : JobStatus → String
  | .created => "CREATED"
  | .scheduled => "SCHEDULED"
  | .validating => "VALIDATING"
  | .running => "RUNNING"
  | .succeeded => "SUCCEEDED"
  | .failed => "FAILED"
  | .unknown => "UNKNOWN"

/-- The status with a name; every name without one is unknown. -/
def ofName (name : String) : JobStatus :=
  if name = "CREATED" then .created
  else if name = "SCHEDULED" then .scheduled
  else if name = "VALIDATING" then .validating
  else if name = "RUNNING" then .running
  else if name = "SUCCEEDED" then .succeeded
  else if name = "FAILED" then .failed
  else .unknown

@[simp] theorem ofName_name (s : JobStatus) : ofName s.name = s := by
  cases s <;> decide

/-- How a status is written. -/
def shape : Shape JobStatus := .choice ofName name ofName_name

/-- The job has ended. -/
def isTerminal : JobStatus → Bool
  | .succeeded | .failed => true
  | _ => false

end JobStatus

/-- What the array reports about a job. -/
structure JobRecord where
  /-- The identifier. -/
  id : JobId
  /-- The name of the task. -/
  name : Option String
  /-- How far the job has come. -/
  status : JobStatus
  /-- The result in words; for a failed job, the reason. -/
  result : Option String
  /-- The resource that the job worked on. -/
  resourceLink : Option String
  /-- When the job ended, in milliseconds. -/
  completed : Option UInt64
deriving DecidableEq

namespace JobRecord

/-- How a record is written. -/
def shape : Shape JobRecord :=
  .record "JobRecord"
    (.cons "jobId" .required (.identifier .job) <|
      .cons "name" .defaulted (.optional .text) <|
      .cons "status" .required JobStatus.shape <|
      .cons "result" .defaulted (.optional .text) <|
      .cons "resourceLink" .defaulted (.optional .text) <|
      .cons "completed_date_milliseconds" .defaulted (.optional .word64) .nil)
    (fun (id, name, status, result, link, completed, ()) =>
      ⟨id, name, status, result, link, completed⟩)
    (fun r => (r.id, r.name, r.status, r.result, r.resourceLink, r.completed, ()))
    (fun _ => rfl)

/-- The outcome of a job that has ended: its record, or its failure with the result word
for word. -/
def outcome? (r : JobRecord) : Option (Except ArrayError JobRecord) :=
  match r.status with
  | .succeeded => some (.ok r)
  | .failed => some (.error (.jobFailed r.id (r.result.getD "")))
  | _ => none

theorem isSome_outcome? (r : JobRecord) : r.outcome?.isSome = r.status.isTerminal := by
  unfold outcome? JobStatus.isTerminal
  cases r.status <;> rfl

end JobRecord

end StorageArray
