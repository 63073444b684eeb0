import StorageArray.Config.Basic
import StorageArray.Config.Variable
/-!
# Where configured values come from

Values come from built-in defaults, a file and the environment, the later ones first in
rank.  Values of a file have types; a variable is text, and is read as the kind of value
that it looks like.  Whether certificates are verified is not up to any of them: a loaded
configuration never asks for it.
-/

namespace StorageArray.Config

/-- The values that need not be given. -/
def defaults : List (String × Json) := [
  ("api_version", .string "100"),
  ("request_timeout_secs", .nat 120),
  ("job_poll_interval_secs", .nat 3),
  ("job_timeout_secs", .nat 300),
  ("max_poll_retries", .nat 3),
  ("max_create_attempts", .nat 3)]

/-- The values of the variables of the environment, with their keys. -/
def ofVariables (environment : List (String × String)) : List (String × Json) :=
  environment.filterMap fun (name, raw) => Variable.entry? name raw

/-- The configuration of a file and the environment, not checked yet. -/
def load (file : List (String × Json)) (environment : List (String × String)) :
    Except ConfigError Config :=
  let values := Json.ofMembers (defaults ++ file ++ ofVariables environment
    ++ [("verify_tls", .bool false)])
  (shape.decode values).mapError fun e => .unreadable e.message

end StorageArray.Config
