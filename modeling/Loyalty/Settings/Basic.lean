import Loyalty.Authority.Client
import Loyalty.Number.Power
import Loyalty.Reconciliation.System

/-!
# Settings

The settings of the program, in sections. `normalize` takes blanks from
around the addresses and slashes from behind the address of the authority;
`faults` lists what keeps settings from being used. From the settings come
those of the authority and of the reconciliation, and the lifetime of a
session.
-/

namespace Loyalty

open Loyalty.Text

namespace Settings

/-- Where requests are taken, and how large their bodies may be. -/
structure Server where
  address : String := "localhost:8081"
  maxBodyBytes : Nat := 65536
  deriving DecidableEq, Repr

/-- How the authority is reached, and how long it may ask for a pause. -/
structure Authority where
  baseUrl : String := "http://localhost:8080"
  requestTimeoutMs : Nat := 5000
  /-- the pause in seconds where none is named -/
  defaultPauseSecs : Nat := 60
  /-- the longest pause in seconds -/
  longestPauseSecs : Nat := 3600
  deriving DecidableEq, Repr

/-- Where the ledger is kept; in memory, if no address is given. -/
structure Database where
  url : String := ""
  maxConnections : Nat := 10
  deriving DecidableEq, Repr

/-- How orders are brought to the authority. -/
structure Reconciling where
  pollIntervalMs : Nat := 1000
  workers : Nat := 16
  queueCapacity : Nat := 1024
  errorCapacity : Nat := 1024
  reportTimeoutMs : Nat := 1000
  deriving DecidableEq, Repr

/-- How passwords and sessions are secured. -/
structure Sessions where
  secret : String := ""
  lifetimeHours : Nat := 96
  passwordRounds : Nat := 100000
  deriving DecidableEq, Repr

/-- What is logged, and how. -/
structure Logging where
  level : String := "info"
  json : Bool := false
  deriving DecidableEq, Repr

end Settings

/-- All settings. -/
structure Settings where
  server : Settings.Server := {}
  authority : Settings.Authority := {}
  database : Settings.Database := {}
  reconciling : Settings.Reconciling := {}
  sessions : Settings.Sessions := {}
  logging : Settings.Logging := {}
  deriving DecidableEq, Repr

/-- What keeps settings from being used. -/
inductive SettingsFault
  | noAddress
  | noBaseUrl
  | longestPauseTooShort
  | noWorkers
  | noQueue
  | noErrorQueue
  | noPollInterval
  | noSecret
  | noLifetime
  deriving DecidableEq, Repr

/-- The text of a fault. -/
def SettingsFault.message : SettingsFault → String
  | noAddress => "server.address must be set"
  | noBaseUrl => "accrual.base_url must be set"
  | longestPauseTooShort =>
    "accrual.max_retry_after_secs must not be below default_retry_after_secs"
  | noWorkers => "reconciliation.workers must be positive"
  | noQueue => "reconciliation.queue_capacity must be positive"
  | noErrorQueue => "reconciliation.error_queue_capacity must be positive"
  | noPollInterval => "reconciliation.poll_interval_ms must be positive"
  | noSecret => "auth.secret_key must be set"
  | noLifetime => "auth.token_ttl_hours must be positive"

namespace Settings

/-- The settings where nothing else is said. -/
def standard : Settings := {}

/-- An address of a service: without blanks around it, then without slashes
    behind it. -/
def cleanUrl (url : String) : String :=
  .ofList (AuthoritySettings.withoutSlashes (trimChars url.toList))

/-- The settings with clean addresses. -/
def normalize (s : Settings) : Settings :=
  { s with
    server := { s.server with address := trim s.server.address }
    authority := { s.authority with baseUrl := cleanUrl s.authority.baseUrl }
    database := { s.database with url := trim s.database.url } }

/-- What keeps the settings from being used, each fault with its condition. -/
def checks (s : Settings) : List (Bool × SettingsFault) :=
  [(s.server.address.isEmpty, .noAddress),
   (s.authority.baseUrl.isEmpty, .noBaseUrl),
   (s.authority.longestPauseSecs < s.authority.defaultPauseSecs, .longestPauseTooShort),
   (s.reconciling.workers = 0, .noWorkers),
   (s.reconciling.queueCapacity = 0, .noQueue),
   (s.reconciling.errorCapacity = 0, .noErrorQueue),
   (s.reconciling.pollIntervalMs = 0, .noPollInterval),
   (s.sessions.secret.isEmpty, .noSecret),
   (s.sessions.lifetimeHours = 0, .noLifetime)]

/-- The faults of the settings, in a fixed order. -/
def faults (s : Settings) : List SettingsFault :=
  s.checks.filterMap fun (holds, fault) => if holds then some fault else none

/-! ## What the settings mean -/

/-- How the authority is reached. -/
def toAuthority (s : Settings) : AuthoritySettings :=
  { baseUrl := s.authority.baseUrl
    requestTimeout := .milliseconds s.authority.requestTimeoutMs
    defaultPause := .seconds s.authority.defaultPauseSecs
    longestPause := .seconds s.authority.longestPauseSecs }

/-- How orders are brought to the authority. -/
def toReconciliation (s : Settings) : Reconciliation.Setup :=
  { pollInterval := .milliseconds s.reconciling.pollIntervalMs
    workers := s.reconciling.workers
    queueCapacity := s.reconciling.queueCapacity
    errorCapacity := s.reconciling.errorCapacity
    reportTimeout := .milliseconds s.reconciling.reportTimeoutMs }

/-- The seconds that a session lasts, in 64 bits. -/
def sessionSeconds (s : Settings) : Nat := s.sessions.lifetimeHours * 3600 % twoTo 64

end Settings
end Loyalty
