import StorageArray.Config.File
/-!
# Files that extend other files

A configuration file can name another one that it extends: the values of that file hold
where it has none of its own.  The file that is named has to be there, and can extend a
further one in turn.  A chain of such files ends; one that comes back to a file it has
passed is too long.
-/

namespace StorageArray.Config.File

/-- The file that a file with these values extends, by its name. -/
def extended? (values : List (String × Json)) : Except ConfigError (Option String) :=
  match Json.find? "extends" values with
  | none => .ok none
  | some (.string name) =>
    if name.isEmpty then .error (.unreadable "extends must not be empty")
    else .ok (some name)
  | some _ => .error (.unreadable "extends must be a text")

/-- A file without the key extends nothing. -/
theorem extended?_of_find?_eq_none {values : List (String × Json)}
    (h : Json.find? "extends" values = none) : extended? values = .ok none := by
  simp only [extended?, h]

/-- The error when a file that is named is not there. -/
def missingFile (place : String) : ConfigError := .unreadable ("there is no file " ++ place)

/-- The place of a file that is named in the file at another place: a name that does not
start at the root counts from the folder of that file. -/
def beside (place name : String) : String :=
  if name.toList.head? = some '/' then name
  else String.ofList (place.toList.reverse.dropWhile (· != '/')).reverse ++ name

/-- The values of the file at a place, behind the ones of the files that it extends.  The
chain has at most so many files; `textOf` finds the text of a file, if it is there. -/
def chain {m : Type → Type} [Monad m] (textOf : String → m (Option String)) :
    Nat → String → m (Except ConfigError (List (String × Json)))
  | 0, place => pure (.error (.unreadable ("too many files are extended before " ++ place)))
  | bound + 1, place => do
    match ← textOf place with
    | none => pure (.error (missingFile place))
    | some text =>
      match read text with
      | .error e => pure (.error e)
      | .ok values => match extended? values with
        | .error e => pure (.error e)
        | .ok none => pure (.ok values)
        | .ok (some name) => do
          let below ← chain textOf bound (beside place name)
          pure (below.map (· ++ values))

/-- A file can hold this value: a whole number has 64 bits with a sign, and a text is without
the one control that is written as itself and not read, the delete character. -/
def holds : Json → Bool
  | .number (.whole n) => isSigned n
  | .string s => !s.toList.contains '\x7f'
  | _ => true

/-- The values of a file that was written from values, with no other file for it to extend. -/
def ofValues (values : List (String × Json)) : Except ConfigError (List (String × Json)) :=
  match values.find? fun (_, value) => !holds value with
  | some (key, _) => .error (.unreadable ("the value of " ++ key ++ " cannot be read"))
  | none => do
    match ← extended? values with
    | none => pure values
    | some name => .error (missingFile name)

/-- A file gives back the values that it was written from, when it can be read. -/
theorem eq_of_ofValues {values found : List (String × Json)} (h : ofValues values = .ok found) :
    found = values := by
  unfold ofValues at h
  split at h
  · contradiction
  · rcases he : extended? values with e | _ | name
    · simp [he, bind, Except.bind] at h
    · simpa [he, bind, Except.bind, pure, Except.pure] using h.symm
    · simp [he, bind, Except.bind] at h

end StorageArray.Config.File
