import StorageArray.CommandLine.Run
import StorageArray.Config.Chain
/-!
# The program

Collects the values of the environment and of the configuration file, runs the command line
over them, and prints what is left behind.  The program has no network of its own: its line
to the endpoint reports that nothing is within reach.
-/

namespace StorageArray.CommandLine

/-- What the names of the variables start with. -/
def variableStem : String := "ARRAYCTL_"

/-- The variables that are set, without the stem of their names. -/
def setVariables : IO (List (String × String)) := do
  let names := Config.shape.names.map fun key => key.map Char.toUpper
  names.filterMapM fun name => do
    pure ((← IO.getEnv (variableStem ++ name)).map fun value => (name, value))

/-- The text of the file at a place, if it is there. -/
def textOf (place : String) : IO (Option String) :=
  try some <$> IO.FS.readFile place catch _ => pure none

/-- How many files can extend each other. -/
def longestChain : Nat := 64

/-- The values of the configuration file; none when there is no such file. -/
def fileValues : IO (Except ConfigError (List (String × Json))) := do
  let place := (← IO.getEnv (variableStem ++ "CONFIG_PATH")).getD "arrayctl.toml"
  match ← textOf place with
  | none => pure (.ok [])
  | some _ => Config.File.chain textOf longestChain place

end StorageArray.CommandLine

open StorageArray in
/-- Runs the command line. -/
def main (args : List String) : IO UInt32 := do
  let environment ← CommandLine.setVariables
  let file ← CommandLine.fileValues
  let loaded := file >>= (Config.load · environment)
  let line : Http.Line := { afterwards := .unreachable "Network is unreachable (os error 101)" }
  let now := Instant.ofReading (← IO.monoNanosNow)
  let (result, _) := CommandLine.run args loaded now line
  IO.print result.output
  IO.eprint result.complaint
  pure (.ofNat result.exit)
