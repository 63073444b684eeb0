import StorageArray.CommandLine.Help
import StorageArray.Resource.StorageGroup
/-!
# Arguments of the command line

The command line has three groups of commands, for jobs, storage groups and volumes.  A
command takes at most one positional argument, and options that start with two hyphens; the
value of an option follows it or an equals sign.  `Command.ofArguments` reads a command, and
refuses whatever is missing, repeated or unknown.
-/

namespace StorageArray

/-- What the command line can be asked to do. -/
inductive Command where
  /-- Prints the record of a job. -/
  | showJob (job : String)
  /-- Waits for a job and prints its last record. -/
  | waitForJob (job : String)
  /-- Prints a storage group. -/
  | showStorageGroup (name : String)
  /-- Creates a storage group unless there is one, and prints it. -/
  | createStorageGroup (name : String) (spec : StorageGroupSpec)
  /-- Deletes a storage group; if `optional`, it need not exist. -/
  | deleteStorageGroup (name : String) (optional : Bool)
  /-- Lists volumes with a name and in a group, as far as these are given. -/
  | listVolumes (name group : Option String)
  /-- Tears a volume down. -/
  | teardownVolume (volume : String)
deriving DecidableEq

namespace CommandLine

/-- Why there is no command to carry out. -/
inductive Refusal where
  /-- The arguments ask for this page of help. -/
  | help (page : String)
  /-- The arguments end before a command does; this page says how to go on. -/
  | incomplete (page : String)
  /-- The arguments are no command. -/
  | usage (detail : String)
deriving DecidableEq, Repr

/-- An option with a value. -/
structure Valued where
  /-- What follows the two hyphens. -/
  name : String
  /-- What stands for the value in a page of help. -/
  placeholder : String
  /-- What the option means. -/
  meaning : String

/-- What a command takes. -/
structure Grammar where
  /-- The words that name the command. -/
  words : String
  /-- What the command does. -/
  summary : String
  /-- What else there is to say about it. -/
  details : List String := []
  /-- The positional argument and its meaning, if there is one. -/
  positional : Option Entry := none
  /-- The options that take a value. -/
  options : List Valued := []
  /-- The options that take none, each with its meaning. -/
  flags : List Entry := []

/-- The option that asks for help, on a page with details or without. -/
def helpEntry (inFull hasDetails : Bool) : Entry :=
  let hint := match hasDetails, inFull with
    | false, _ => ""
    | true, false => " (see more with '--help')"
    | true, true => " (see a summary with '-h')"
  ⟨"-h, --help", "Print help" ++ hint⟩

/-- The page of help on a command. -/
def Grammar.page (g : Grammar) (inFull : Bool) : String :=
  let options := g.options.map fun o =>
      Entry.mk ("    --" ++ o.name ++ " <" ++ o.placeholder ++ ">") o.meaning
  let flags := g.flags.map fun f => Entry.mk ("    --" ++ f.label) f.meaning
  let positional := g.positional.toList.map fun p => Entry.mk ("<" ++ p.label ++ ">") p.meaning
  let optional := if (options ++ flags).isEmpty then [] else ["[OPTIONS]"]
  let page : Page := {
    summary := g.summary
    details := g.details
    usage := " ".intercalate (g.words :: optional ++ positional.map (·.label))
    sections := (if positional.isEmpty then [] else [("Arguments", positional)])
      ++ [("Options", options ++ flags ++ [helpEntry inFull (!g.details.isEmpty)])] }
  page.text inFull

/-- What was found among the arguments of a command. -/
structure Found where
  /-- The positional arguments, the last one first. -/
  positional : List String := []
  /-- The options with their values. -/
  options : List (String × String) := []
  /-- The options without values. -/
  flags : List String := []

/-- The value of an option. -/
def Found.value? (f : Found) (option : String) : Option String :=
  (f.options.find? fun pair => pair.1 == option).map (·.2)

/-- Adds a positional argument. -/
def Found.addPositional (g : Grammar) (f : Found) (arg : String) : Except Refusal Found :=
  if f.positional.length < g.positional.toList.length then
    .ok { f with positional := arg :: f.positional }
  else .error (.usage ("unexpected argument '" ++ arg ++ "' found"))

/-- Adds the value of an option. -/
def Found.addOption (f : Found) (option value : String) : Except Refusal Found :=
  if (f.value? option).isSome then
    .error (.usage ("the argument '--" ++ option ++ "' cannot be used multiple times"))
  else .ok { f with options := f.options ++ [(option, value)] }

/-- Adds an option without a value. -/
def Found.addFlag (f : Found) (flag : String) : Except Refusal Found :=
  if f.flags.contains flag then
    .error (.usage ("the argument '--" ++ flag ++ "' cannot be used multiple times"))
  else .ok { f with flags := flag :: f.flags }

/-- An argument that asks for help, and whether it asks for the full page. -/
def helpAsked? (arg : String) : Option Bool :=
  if arg = "--help" then some true
  else match arg.toList with
    | '-' :: 'h' :: _ => some false
    | _ => none

/-- An argument that starts like an option. -/
def isOptionLike (arg : String) : Bool :=
  match arg.toList with
  | '-' :: _ :: _ => true
  | _ => false

/-- The error of an option without its value. -/
def missingValue (option : String) : Refusal :=
  .usage ("a value is required for '--" ++ option ++ "' but none was supplied")

/-- Reads arguments up to the end; after two hyphens, `onlyPositional`, every argument is
positional. -/
def scan (g : Grammar) (onlyPositional : Bool) (f : Found) : List String → Except Refusal Found
  | [] => .ok f
  | arg :: rest =>
    if onlyPositional then do scan g true (← f.addPositional g arg) rest
    else if arg = "--" then scan g true f rest
    else match helpAsked? arg, arg.toList with
      | some inFull, _ => .error (.help (g.page inFull))
      | none, '-' :: '-' :: long =>
        let (name, value) := match Text.splitFirst '=' long with
          | some (n, v) => (String.ofList n, some (String.ofList v))
          | none => (String.ofList long, none)
        if g.flags.any (·.label == name) then
          match value with
          | some _ => .error (.usage ("unexpected value for '--" ++ name ++ "' found"))
          | none => do scan g false (← f.addFlag name) rest
        else if g.options.any (·.name == name) then
          match value with
          | some v => do scan g false (← f.addOption name v) rest
          | none => match rest with
            | [] => .error (missingValue name)
            | v :: others =>
              if isOptionLike v then .error (missingValue name)
              else do scan g false (← f.addOption name v) others
        else .error (.usage ("unexpected argument '--" ++ name ++ "' found"))
      | none, '-' :: _ :: _ => .error (.usage ("unexpected argument '" ++ arg ++ "' found"))
      | none, _ => do scan g false (← f.addPositional g arg) rest

/-- Reads the arguments of a command. -/
def found (g : Grammar) (args : List String) : Except Refusal Found := do
  let f ← scan g false {} args
  match g.positional with
  | some p =>
    if f.positional.isEmpty then
      .error (.usage ("the following required arguments were not provided: <" ++ p.label ++ ">"))
    else pure f
  | none => pure f

/-- An option that is of use only together with another one. -/
def requires (f : Found) (option other : String) : Except Refusal Unit :=
  if (f.value? option).isSome && (f.value? other).isNone then
    .error (.usage ("the argument '--" ++ option ++ "' needs '--" ++ other ++ "'"))
  else .ok ()

/-- A command of a group: what it takes, and what it makes of what was found. -/
structure Verb where
  /-- The name within the group. -/
  name : String
  /-- What the command takes. -/
  grammar : Grammar
  /-- The command to carry out. -/
  build : Found → Except Refusal Command

/-- A command that takes nothing but one positional argument. -/
def Verb.ofPositional (words name summary : String) (argument : Entry)
    (command : String → Command) : Verb where
  name := name
  grammar := { words := words, summary := summary, positional := some argument }
  build := fun f => .ok (command (f.positional.headD ""))

/-- The positional argument of the commands on jobs. -/
def jobArgument : Entry := ⟨"JOB_ID", "Job identifier"⟩

/-- The positional argument of the commands on storage groups. -/
def groupArgument : Entry := ⟨"NAME", "Storage group name"⟩

/-- Creates a storage group. -/
def creation : Verb where
  name := "create"
  grammar := {
    words := "arrayctl sg create"
    summary := "Create a storage group unless one with the same name exists"
    details := ["An existing group is printed unchanged, even when its pool or service "
      ++ "level differ from the flags."]
    positional := some groupArgument
    options := [
      ⟨"srp", "SRP", "Storage resource pool; omit for a non-managed group"⟩,
      ⟨"slo", "SLO", "Service level, for example `Diamond`"⟩,
      ⟨"workload", "WORKLOAD", "Workload type"⟩] }
  build := fun f => do
    requires f "slo" "srp"
    requires f "workload" "slo"
    pure (.createStorageGroup (f.positional.headD "")
      ⟨f.value? "srp", f.value? "slo", f.value? "workload"⟩)

/-- Deletes a storage group. -/
def deletion : Verb where
  name := "delete"
  grammar := {
    words := "arrayctl sg delete"
    summary := "Delete a storage group"
    positional := some groupArgument
    flags := [⟨"if-exists", "Succeed when the group does not exist"⟩] }
  build := fun f =>
    .ok (.deleteStorageGroup (f.positional.headD "") (f.flags.contains "if-exists"))

/-- Lists volumes. -/
def listing : Verb where
  name := "list"
  grammar := {
    words := "arrayctl volume list"
    summary := "List volume identifiers"
    options := [
      ⟨"name", "NAME", "Only volumes with this name"⟩,
      ⟨"group", "GROUP", "Only volumes in this storage group"⟩] }
  build := fun f => .ok (.listVolumes (f.value? "name") (f.value? "group"))

/-- A group of commands. -/
structure Group where
  /-- The first word of each of them. -/
  name : String
  /-- What they are about. -/
  summary : String
  /-- The commands. -/
  verbs : List Verb

/-- All commands. -/
def groups : List Group := [
  ⟨"job", "Inspect asynchronous jobs", [
    .ofPositional "arrayctl job show" "show" "Print the current record of a job" jobArgument
      .showJob,
    .ofPositional "arrayctl job wait" "wait"
      "Wait for a job to finish and print its final record" jobArgument .waitForJob]⟩,
  ⟨"sg", "Manage storage groups", [
    .ofPositional "arrayctl sg show" "show" "Print a storage group" groupArgument
      .showStorageGroup,
    creation, deletion]⟩,
  ⟨"volume", "Inspect and tear down volumes", [
    listing,
    .ofPositional "arrayctl volume teardown" "teardown"
      "Remove a volume from its groups, release its tracks and delete it"
      ⟨"VOLUME_ID", "Volume identifier, for example `0012A`"⟩ .teardownVolume]⟩]

/-- The word that asks for a page of help, and what it is for. -/
def helpWord : Entry := ⟨"help", "Print this message or the help of the given subcommand(s)"⟩

/-- A page of help with the words that can come next. -/
def menu (words summary : String) (entries : List Entry) : String :=
  let page : Page := {
    summary := summary
    usage := words ++ " <COMMAND>"
    sections := [("Commands", entries ++ [helpWord]), ("Options", [helpEntry false false])] }
  page.brief

/-- The page of help on the word that asks for help after other words. -/
def helpOnHelp (words : String) : String :=
  let page : Page := {
    summary := helpWord.meaning
    usage := words ++ " " ++ helpWord.label ++ " [COMMAND]..."
    sections := [("Arguments", [⟨"[COMMAND]...", "Print help for the subcommand(s)"⟩])] }
  page.brief

/-- The page of help on a group. -/
def Group.page (g : Group) : String :=
  menu ("arrayctl " ++ g.name) g.summary
    (g.verbs.map fun v => Entry.mk v.name v.grammar.summary)

/-- The page of help on all commands. -/
def overview : String :=
  menu "arrayctl" "Provision storage groups and volumes on a block-storage array"
    (groups.map fun g => Entry.mk g.name g.summary)

/-- The error of a word that names nothing. -/
def unknownWord (word : String) : Refusal :=
  .usage ("unrecognized subcommand '" ++ word ++ "'")

/-- A page that no further word may ask for a part of. -/
def lastTopic (page : String) : List String → Refusal
  | [] => .help page
  | word :: _ => unknownWord word

/-- The page that the words after `help` ask for within a group. -/
def Group.topic (g : Group) : List String → Refusal
  | [] => .help g.page
  | name :: rest =>
    if name = helpWord.label then lastTopic (helpOnHelp ("arrayctl " ++ g.name)) rest
    else match g.verbs.find? (·.name == name) with
      | some v => lastTopic (v.grammar.page true) rest
      | none => unknownWord name

/-- The page that the words after `help` ask for. -/
def topic : List String → Refusal
  | [] => .help overview
  | name :: rest =>
    if name = helpWord.label then lastTopic (helpOnHelp "arrayctl") rest
    else match groups.find? (·.name == name) with
      | some g => g.topic rest
      | none => unknownWord name

/-- Chooses a command of a group by the next argument. -/
def Group.choose (g : Group) : List String → Except Refusal Command
  | [] => .error (.incomplete g.page)
  | name :: rest =>
    if (helpAsked? name).isSome then .error (.help g.page)
    else if name = helpWord.label then .error (g.topic rest)
    else match g.verbs.find? (·.name == name) with
      | some v => do v.build (← found v.grammar rest)
      | none => .error (unknownWord name)

end CommandLine

/-- The command that arguments ask for. -/
def Command.ofArguments : List String → Except CommandLine.Refusal Command
  | [] => .error (.incomplete CommandLine.overview)
  | name :: rest =>
    if (CommandLine.helpAsked? name).isSome then .error (.help CommandLine.overview)
    else if name = CommandLine.helpWord.label then .error (CommandLine.topic rest)
    else match CommandLine.groups.find? (·.name == name) with
      | some g => g.choose rest
      | none => .error (CommandLine.unknownWord name)

end StorageArray
