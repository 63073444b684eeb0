import StorageArray.Client
/-!
# Waiting for jobs

`getJob` reads a job record once.  `waitOnJob` polls it until the job has ended, at fixed
pauses and up to a deadline; some transient failures in a row are tolerated on the way.
The clock of the wait is the time left: a request takes none of it, and a pause takes the
polling interval or what is left, whichever is shorter.

Whether a clock has an instant for the deadline cannot be seen from the time left, so this is the
wait on a clock that has one.  A program that waits without one is stopped;
`Client.waitOnJobFrom?` and `Settings.performOnClock` in `StorageArray.Job.Clock` say where.
-/

namespace StorageArray

/-- What the result of one poll means for a wait. -/
inductive PollVerdict where
  /-- The wait ends with this result. -/
  | ended (result : Except ArrayError JobRecord)
  /-- The wait goes on after this many transient failures in a row. -/
  | goOn (failures : Nat)

/-- Judges the result of one poll after `failures` transient failures in a row, of which
`retries` are tolerated. -/
def PollVerdict.of (retries failures : Nat) (result : Except ArrayError JobRecord) :
    PollVerdict :=
  match result with
  | .ok record => match record.outcome? with
    | some outcome => .ended outcome
    | none => .goOn 0
  | .error e =>
    if e.isTransient && failures < retries then .goOn (failures + 1) else .ended (.error e)

/-- How long the next pause lasts when `left` nanoseconds are left.  With an empty interval there is
no pause between polls; it counts as one nanosecond here, so that time passes and the wait has an
end.  Accepted configurations have no such interval. -/
def Settings.pause (s : Settings) (left : Nat) : Nat :=
  max 1 (min s.pollInterval.nanoseconds left)

/-- The instant at which a wait started at `now` gives up, if the clock has one. -/
def Settings.deadline? (s : Settings) (now : Instant) : Option Instant :=
  now.after? s.jobTimeout

namespace Client

/-- Reads the record of a job. -/
def getJob (c : Client) (job : JobId) : Operation JobRecord :=
  c.read (.get (c.systemPath ("job/" ++ job.text))) ⟨"job", job.text⟩ "job record" JobRecord.shape

/-- Polls a job after `failures` transient failures in a row with `left` nanoseconds left. -/
def pollJob (c : Client) (job : JobId) (failures left : Nat) : Operation JobRecord := do
  match PollVerdict.of c.settings.maxPollRetries failures (← (c.getJob job).settle) with
  | .ended result => .ofExcept result
  | .goOn failures =>
    if left = 0 then .fail (.timeout job c.settings.jobTimeout)
    else c.pollJob job failures (left - c.settings.pause left)
  termination_by left
  decreasing_by simp only [Settings.pause]; omega

/-- Polls a job until it has ended or the deadline has passed, on a clock that has an instant for
the deadline. -/
def waitOnJob (c : Client) (job : JobId) : Operation JobRecord :=
  c.pollJob job 0 c.settings.jobTimeout.nanoseconds

/-- Sends a request that changes something, and waits for the job if it starts one, on a clock
that has an instant for the deadline. -/
def execute (c : Client) (request : Request) (subject : Subject) : Operation Unit := do
  match ← c.submit request subject with
  | .complete _ => pure ()
  | .deferred job =>
    match job.outcome? with
    | some outcome => discard (.ofExcept outcome)
    | none => discard (c.waitOnJob job.id)

/-- Like `execute`, but a benign failure counts as success. -/
def executeTolerant (c : Client) (request : Request) (subject : Subject) :
    Operation Unit := do
  match ← (c.execute request subject).settle with
  | .ok _ => pure ()
  | .error e => if c.settings.benign.matchesError e then pure () else .fail e

end Client

end StorageArray
