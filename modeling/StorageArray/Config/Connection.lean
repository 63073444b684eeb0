import StorageArray.Config.Basic
import StorageArray.Text.Quoted
/-!
# Connections, and configured things at a glance

The connection settings below a client, and the texts in which a client and a connection
are shown to someone who inspects them.  A password is never shown.
-/

namespace StorageArray

/-- How an endpoint is reached. -/
structure Connection where
  /-- The endpoint. -/
  baseUrl : String
  /-- The name of the user. -/
  username : String
  /-- The password of the user. -/
  password : String
  /-- The certificate of the endpoint has to be valid. -/
  verifyTls : Bool
  /-- The longest time for one request. -/
  requestTimeout : Duration
deriving DecidableEq

/-- The connection that a configuration describes. -/
def Config.connection (c : Config) : Connection where
  baseUrl := Text.trim c.baseUrl
  username := c.username
  password := c.password
  verifyTls := c.verifyTls
  requestTimeout := .ofSeconds c.requestTimeout.toNat

/-- A name with its fields. -/
def inspected (name : String) (fields : List (String × String)) : String :=
  name ++ " \x7b " ++ ", ".intercalate (fields.map fun (field, text) => field ++ ": " ++ text)
    ++ " \x7d"

/-- The connection at a glance, its password left out. -/
def Connection.inspect (c : Connection) : String :=
  inspected "HttpTransportSettings" [
    ("base_url", Text.quoted c.baseUrl),
    ("username", Text.quoted c.username),
    ("password", Text.quoted "<redacted>"),
    ("verify_tls", Json.boolText c.verifyTls),
    ("request_timeout", c.requestTimeout.text)]

/-- The patterns at a glance. -/
def BenignFailures.inspect (b : BenignFailures) : String :=
  inspected "BenignFailures" [
    ("patterns", "[" ++ ", ".intercalate (b.patterns.map Text.quoted) ++ "]")]

/-- The settings at a glance. -/
def Settings.inspect (s : Settings) : String :=
  inspected "ClientSettings" [
    ("api_version", Text.quoted s.apiVersion),
    ("job_poll_interval", s.pollInterval.text),
    ("job_timeout", s.jobTimeout.text),
    ("max_poll_retries", toString s.maxPollRetries),
    ("max_create_attempts", toString s.maxCreateAttempts),
    ("benign", s.benign.inspect)]

/-- The client at a glance. -/
def Client.inspect (c : Client) : String :=
  "ArrayClient \x7b array_id: ArrayId(" ++ Text.quoted c.arrayId.text ++ "), settings: "
    ++ c.settings.inspect ++ ", .. \x7d"

end StorageArray
