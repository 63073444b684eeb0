/-!
# Help pages

A page says what a command does, how it is written, and what its arguments mean.  A page
with more than one paragraph has two forms: a brief one, with the first paragraph and one
line an argument, and a full one.  Any other page has the brief form only.
-/

namespace StorageArray.CommandLine

/-- Something that can be written on the command line, and its meaning. -/
structure Entry where
  /-- How it is written. -/
  label : String
  /-- What it means. -/
  meaning : String

/-- A page of help. -/
structure Page where
  /-- What the command does, in a few words. -/
  summary : String
  /-- What else there is to say about it. -/
  details : List String := []
  /-- How the command is written. -/
  usage : String
  /-- What the command takes, in titled groups. -/
  sections : List (String × List Entry)

namespace Page

/-- A text followed by as many spaces as `width` asks for. -/
def padded (width : Nat) (text : String) : String :=
  text ++ String.ofList (List.replicate (width - text.length) ' ')

/-- The length of the longest label. -/
def widest (entries : List Entry) : Nat :=
  entries.foldl (fun width entry => max width entry.label.length) 0

/-- A group of entries, each on a line, with the meanings in one column. -/
def briefSection (title : String) (entries : List Entry) : String :=
  title ++ ":\n" ++ String.join (entries.map fun entry =>
    "  " ++ padded (widest entries) entry.label ++ "  " ++ entry.meaning ++ "\n")

/-- A group of entries, each meaning on a line below its label. -/
def fullSection (title : String) (entries : List Entry) : String :=
  title ++ ":\n" ++ "\n".intercalate (entries.map fun entry =>
    "  " ++ entry.label ++ "\n          " ++ entry.meaning ++ "\n")

/-- How the usage is announced. -/
def usageLine (p : Page) : String := "Usage: " ++ p.usage ++ "\n"

/-- The page with one line an entry. -/
def brief (p : Page) : String :=
  "\n".intercalate ((p.summary ++ "\n") :: p.usageLine
    :: p.sections.map fun (title, entries) => briefSection title entries)

/-- The page with all that there is to say. -/
def full (p : Page) : String :=
  "\n".intercalate ((p.summary ++ ".\n") :: p.details.map (· ++ "\n") ++ p.usageLine
    :: p.sections.map fun (title, entries) => fullSection title entries)

/-- The text of the page, in full if that is asked for and there are details. -/
def text (p : Page) (inFull : Bool) : String :=
  if inFull && !p.details.isEmpty then p.full else p.brief

end Page

end StorageArray.CommandLine
