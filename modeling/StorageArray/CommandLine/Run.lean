import StorageArray.CommandLine.Arguments
import StorageArray.Config.Sources
import StorageArray.Http.Exchange
import StorageArray.Job.Clock
import StorageArray.Volume.Teardown
/-!
# Running the command line

A run reads the command first, then the configuration, and carries the command out against
the configured endpoint.  It prints one value, or one line that says what went wrong.
-/

namespace StorageArray

/-- What a command does from an instant on, and the value that it prints.  A command that begins
with a wait does nothing when the clock has no instant for the deadline. -/
def Command.operation? (c : Client) (now : Instant) : Command → Option (Operation Json)
  | .showJob job => some do pure (JobRecord.shape.encode (← c.getJob (.ofString job)))
  | .waitForJob job => (c.waitOnJobFrom? now (.ofString job)).map fun wait => do
    pure (JobRecord.shape.encode (← wait))
  | .showStorageGroup name => some do
    pure (StorageGroup.shape.encode (← c.getResource StorageGroup.resources name))
  | .createStorageGroup name spec => some do
    pure (StorageGroup.shape.encode (← c.createOrGet StorageGroup.resources name spec))
  | .deleteStorageGroup name optional => some do
    let deleted ←
      if optional then c.deleteIfExists StorageGroup.resources name
      else do
        c.deleteResource StorageGroup.resources name
        pure true
    pure (.object [("deleted", .bool deleted), ("storageGroupId", .string name)])
  | .listVolumes name group => some do
    pure (.strings ((← c.findVolumes name group).map (·.text)))
  | .teardownVolume volume => some do
    let id : VolumeId := .ofString volume
    c.teardownVolume id
    pure (.object [("deleted", .bool true), ("volumeId", .string id.text)])

namespace CommandLine

/-- What a run leaves behind. -/
structure Result where
  /-- The exit status: 0 for success, 1 for a failure, 2 for arguments that are no command, 101
  for a process that is stopped. -/
  exit : Nat
  /-- The output. -/
  output : String := ""
  /-- The complaint. -/
  complaint : String := ""

/-- A failure in one line. -/
def failed (message : String) : Result := { exit := 1, complaint := message ++ "\n" }

/-- The process is stopped because the clock has no instant for a deadline.  Of the report that a
stopped process leaves the complaint has the reason and nothing else; the thread, the place in the
program and the calls that led there are left out. -/
def stopped : Result :=
  { exit := 101, complaint := "overflow when adding duration to instant\n" }

/-- What is left behind of an operation that has a result, or none. -/
def resultOf : Option (Except ArrayError Json) → Result
  | none => stopped
  | some (.ok value) => { exit := 0, output := value.pretty ++ "\n" }
  | some (.error e) => failed e.message

/-- Carries out a command of a client over a line to its endpoint; the clock shows `now`. -/
def perform (client : Client) (connection : Connection) (now : Instant) (command : Command)
    (line : Http.Line) : Result × Http.Line :=
  match command.operation? client now with
  | none => (stopped, line)
  | some operation =>
    let (result, line) := client.settings.performOnClock (fun _ => now)
      (Http.Line.answer connection) operation line
    (resultOf result, line)

/-- Runs the arguments with loaded values over a line to the endpoint; the clock shows `now`. -/
def run (args : List String) (loaded : Except ConfigError Config) (now : Instant)
    (line : Http.Line) : Result × Http.Line :=
  match Command.ofArguments args with
  | .error (.help page) => ({ exit := 0, output := page }, line)
  | .error (.incomplete page) => ({ exit := 2, complaint := page }, line)
  | .error (.usage detail) => ({ exit := 2, complaint := "error: " ++ detail ++ "\n" }, line)
  | .ok command =>
    match loaded with
    | .error e => (failed e.toArrayError.message, line)
    | .ok config => match config.client with
      | .error e => (failed e.message, line)
      | .ok client => perform client config.connection now command line

end CommandLine

end StorageArray
