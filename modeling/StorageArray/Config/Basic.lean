import StorageArray.Client
/-!
# Configuration

A configuration names the endpoint, the credentials and the arrays, and bounds the waiting
and retrying.  `Config.check` says what is missing or out of range; a configuration that
passes it gives the settings of a client and of the connection below it.
-/

namespace StorageArray

/-- What a client is configured with. -/
structure Config where
  /-- The endpoint. -/
  baseUrl : String
  /-- The name of the user. -/
  username : String
  /-- The password of the user. -/
  password : String
  /-- The array that is managed. -/
  arrayId : String
  /-- Its replication partner. -/
  remoteArrayId : Option String
  /-- The version segment of every path. -/
  apiVersion : String
  /-- The certificate of the endpoint has to be valid. -/
  verifyTls : Bool
  /-- The longest time for one request, in seconds. -/
  requestTimeout : UInt64
  /-- The pause between two polls of a job, in seconds. -/
  pollInterval : UInt64
  /-- How long a job is waited for, in seconds. -/
  jobTimeout : UInt64
  /-- How many transient failures in a row are tolerated while polling. -/
  maxPollRetries : UInt32
  /-- How often a lookup is followed by an attempt to create. -/
  maxCreateAttempts : UInt32
  /-- The texts of benign failures, with commas between them. -/
  benignMessages : Option String
deriving DecidableEq

/-- Why a configuration cannot be used. -/
inductive ConfigError where
  /-- A value that has to be given is missing. -/
  | missingField (detail : String)
  /-- A value is out of range. -/
  | invalid (detail : String)
  /-- The values cannot be read. -/
  | unreadable (detail : String)
deriving DecidableEq, Repr

/-- The error as a text. -/
def ConfigError.message : ConfigError → String
  | .missingField detail => "missing configuration field: " ++ detail
  | .invalid detail => "invalid configuration value: " ++ detail
  | .unreadable detail => "configuration parsing failed: " ++ detail

/-- The error of an operation that needs the configuration. -/
def ConfigError.toArrayError (e : ConfigError) : ArrayError := .config e.message

namespace Config

/-- How the values of a configuration are named and written. -/
def shape : Shape Config :=
  .record "ArrayConfig"
    (.cons "base_url" .required .text <|
      .cons "username" .required .text <|
      .cons "password" .required .text <|
      .cons "array_id" .required .text <|
      .cons "remote_array_id" .defaulted (.optional .text) <|
      .cons "api_version" .required .text <|
      .cons "verify_tls" .required .flag <|
      .cons "request_timeout_secs" .required .word64 <|
      .cons "job_poll_interval_secs" .required .word64 <|
      .cons "job_timeout_secs" .required .word64 <|
      .cons "max_poll_retries" .required .word32 <|
      .cons "max_create_attempts" .required .word32 <|
      .cons "benign_job_messages" .defaulted (.optional .text) .nil)
    (fun (baseUrl, username, password, arrayId, remote, version, tls, request, interval,
        timeout, retries, attempts, benign, ()) =>
      ⟨baseUrl, username, password, arrayId, remote, version, tls, request, interval, timeout,
        retries, attempts, benign⟩)
    (fun c => (c.baseUrl, c.username, c.password, c.arrayId, c.remoteArrayId, c.apiVersion,
      c.verifyTls, c.requestTimeout, c.pollInterval, c.jobTimeout, c.maxPollRetries,
      c.maxCreateAttempts, c.benignMessages, ()))
    (fun _ => rfl)

/-- A text that must not be blank, and where it can be given. -/
def requireText (value description envName key : String) : Except ConfigError Unit :=
  if Text.allBlank value then
    .error (.missingField ("missing " ++ description ++ ": set " ++ envName ++ " or add " ++ key
      ++ " to arrayctl.toml"))
  else .ok ()

/-- A number that must not be zero. -/
def requirePositive (value : Nat) (key : String) : Except ConfigError Unit :=
  if value = 0 then .error (.invalid (key ++ " must be greater than zero")) else .ok ()

/-- A partner that must not be blank when there is one. -/
def requirePartner (remote : Option String) : Except ConfigError Unit :=
  match remote with
  | none => .ok ()
  | some id =>
    if Text.allBlank id then .error (.invalid "remote_array_id must not be blank when set")
    else .ok ()

/-- The configuration can be used; otherwise the first reason why not. -/
def check (c : Config) : Except ConfigError Unit := do
  requireText c.baseUrl "management endpoint URL" "ARRAYCTL_BASE_URL" "base_url"
  requireText c.username "management user name" "ARRAYCTL_USERNAME" "username"
  requireText c.password "management password" "ARRAYCTL_PASSWORD" "password"
  requireText c.arrayId "array serial number" "ARRAYCTL_ARRAY_ID" "array_id"
  requireText c.apiVersion "REST API version" "ARRAYCTL_API_VERSION" "api_version"
  requirePartner c.remoteArrayId
  requirePositive c.requestTimeout.toNat "request_timeout_secs"
  requirePositive c.pollInterval.toNat "job_poll_interval_secs"
  requirePositive c.jobTimeout.toNat "job_timeout_secs"
  requirePositive c.maxCreateAttempts.toNat "max_create_attempts"

/-- The texts of benign failures, if the configuration gives any list of them. -/
def benignTexts (c : Config) : Option (List String) :=
  c.benignMessages.map fun raw =>
    ((Text.pieces ',' raw).map Text.trim).filter fun text => !text.toList.isEmpty

/-- The settings of a client. -/
def settings (c : Config) : Settings where
  apiVersion := Text.trim c.apiVersion
  pollInterval := .ofSeconds c.pollInterval.toNat
  jobTimeout := .ofSeconds c.jobTimeout.toNat
  maxPollRetries := c.maxPollRetries.toNat
  maxCreateAttempts := c.maxCreateAttempts.toNat
  benign := match c.benignTexts with
    | none => .builtin
    | some texts => .ofList texts

/-- The client of the configured array. -/
def client (c : Config) : Except ArrayError Client := do
  c.check.mapError ConfigError.toArrayError
  pure ⟨.home, .ofString c.arrayId, c.settings⟩

/-- The client of the configured partner. -/
def remoteClient (c : Config) : Except ArrayError Client := do
  c.check.mapError ConfigError.toArrayError
  match c.remoteArrayId with
  | some id => pure ⟨.remote, .ofString id, c.settings⟩
  | none => .error (.config
      ("remote_array_id is required for replication: set ARRAYCTL_REMOTE_ARRAY_ID "
        ++ "or add remote_array_id to arrayctl.toml"))

end Config

end StorageArray
