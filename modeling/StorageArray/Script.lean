import StorageArray.Program
/-!
# Scripted sites

A script answers requests with prepared answers, in order, and with a fallback after the
last one.  Two scripts, one for each site, and a record of everything that was sent make
up a stage on which programs run without an array.
-/

namespace StorageArray

/-- Prepared answers to requests. -/
structure Script where
  /-- The answers to the next requests, in order. -/
  queued : List Answer := []
  /-- The answer when none is queued. -/
  fallback : Option Response := none

namespace Script

/-- The answer to a request, and the script after it. -/
def answer (s : Script) (request : Request) : Answer × Script :=
  match s.queued with
  | a :: rest => (a, { s with queued := rest })
  | [] => match s.fallback with
    | some response => (.ok response, s)
    | none => (.error ⟨.request, request.path, "no scripted response available"⟩, s)

/-- The script with more answers at its end. -/
def append (s : Script) (answers : List Answer) : Script :=
  { s with queued := s.queued ++ answers }

end Script

/-- Both sites under scripts. -/
structure Stage where
  /-- The script of the home site. -/
  home : Script := {}
  /-- The script of the remote site. -/
  remote : Script := {}
  /-- What was sent so far, the last request first. -/
  sent : List (Site × Request) := []

namespace Stage

/-- The script of a site. -/
def script (s : Stage) : Site → Script
  | .home => s.home
  | .remote => s.remote

/-- The stage with another script at a site. -/
def withScript (s : Stage) (site : Site) (script : Script) : Stage :=
  match site with
  | .home => { s with home := script }
  | .remote => { s with remote := script }

/-- Answers a request from the script of its site and records it. -/
def answer : Program.Answerer Stage := fun site request s =>
  let (a, script) := (s.script site).answer request
  let s := s.withScript site script
  (a, { s with sent := (site, request) :: s.sent })

/-- Runs an operation on the stage. -/
def perform {α : Type} (s : Stage) (op : Operation α) : Except ArrayError α × Stage :=
  Program.run answer op.run s

end Stage

end StorageArray
