import Loyalty.Settings.Basic
import Loyalty.Settings.Layers

/-!
# Settings as data

Each setting has a name in its section. A section is read from a table, where
names that are no settings are passed over, or from a list of its settings in
order. Some settings may be left out; the others must be there.
`toDatum` writes settings with all their names, `ofDatum?` reads them.
-/

namespace Loyalty.Settings

open Loyalty.Text

/-- A named part of a draft `σ`. -/
structure Field (σ : Type) where
  name : String
  /-- whether it must be there -/
  required : Bool
  /-- how it is written -/
  write : σ → Datum
  /-- how it is read into a draft -/
  read : Datum → Option (σ → σ)

variable {σ : Type}

/-- The data of a draft under their names. -/
def write (fields : List (Field σ)) (draft : σ) : List (String × Datum) :=
  fields.map fun f => (f.name, f.write draft)

/-- A draft with a field read from a datum, if there is one. -/
def readField (f : Field σ) (given : Option Datum) (draft : σ) : Option σ :=
  match given with
  | some d => (f.read d).map fun change => change draft
  | none => if f.required then none else some draft

/-- A draft with fields read from the entries of a table. -/
def readEntries (fields : List (Field σ)) (entries : List (String × Datum)) (draft : σ) :
    Option σ :=
  fields.foldlM (fun draft f => readField f (entries.lookup f.name) draft) draft

/-- A draft with fields read from the items of a list. -/
def readItems : List (Field σ) → List Datum → σ → Option σ
  | [], _, draft => some draft
  | f :: fields, [], draft => (readField f none draft).bind (readItems fields [])
  | f :: fields, d :: ds, draft => (readField f (some d) draft).bind (readItems fields ds)

/-- A draft with fields read from a table or a list. -/
def readFields (fields : List (Field σ)) (draft : σ) : Datum → Option σ
  | .table entries => readEntries fields entries draft
  | .list items => readItems fields items draft
  | _ => none

/-- A text of a section. -/
def textField (name : String) (required : Bool) (get : σ → String) (set : String → σ → σ) :
    Field σ :=
  ⟨name, required, fun s => .text (get s), fun d => d.text?.map set⟩

/-- A natural number of a section, of at most `top`. -/
def numberField (name : String) (required : Bool) (top : Nat) (get : σ → Nat)
    (set : Nat → σ → σ) : Field σ :=
  ⟨name, required, fun s => .integer (get s), fun d => (d.natural?.filter (· ≤ top)).map set⟩

/-- A flag of a section. -/
def flagField (name : String) (required : Bool) (get : σ → Bool) (set : Bool → σ → σ) :
    Field σ :=
  ⟨name, required, fun s => .flag (get s), fun d => d.flag?.map set⟩

/-- A section of a draft. -/
def sectionField {τ : Type} (name : String) (fields : List (Field τ)) (empty : τ) (get : σ → τ)
    (set : τ → σ → σ) : Field σ :=
  ⟨name, true, fun s => .table (write fields (get s)),
    fun d => (readFields fields empty d).map set⟩

/-! ## The sections -/

/-- The settings of the server. -/
def serverFields : List (Field Server) :=
  [textField "address" true (·.address) fun v s => { s with address := v },
   numberField "max_body_bytes" false word64Max (·.maxBodyBytes)
    fun v s => { s with maxBodyBytes := v }]

/-- The settings of the authority. -/
def authorityFields : List (Field Authority) :=
  [textField "base_url" true (·.baseUrl) fun v s => { s with baseUrl := v },
   numberField "request_timeout_ms" true word64Max (·.requestTimeoutMs)
    fun v s => { s with requestTimeoutMs := v },
   numberField "default_retry_after_secs" true word64Max (·.defaultPauseSecs)
    fun v s => { s with defaultPauseSecs := v },
   numberField "max_retry_after_secs" false word64Max (·.longestPauseSecs)
    fun v s => { s with longestPauseSecs := v }]

/-- The settings of the database. -/
def databaseFields : List (Field Database) :=
  [textField "url" false (·.url) fun v s => { s with url := v },
   numberField "max_connections" false word32Max (·.maxConnections)
    fun v s => { s with maxConnections := v }]

/-- The settings of the reconciliation. -/
def reconcilingFields : List (Field Reconciling) :=
  [numberField "poll_interval_ms" true word64Max (·.pollIntervalMs)
    fun v s => { s with pollIntervalMs := v },
   numberField "workers" true word64Max (·.workers) fun v s => { s with workers := v },
   numberField "queue_capacity" true word64Max (·.queueCapacity)
    fun v s => { s with queueCapacity := v },
   numberField "error_queue_capacity" true word64Max (·.errorCapacity)
    fun v s => { s with errorCapacity := v },
   numberField "error_report_timeout_ms" true word64Max (·.reportTimeoutMs)
    fun v s => { s with reportTimeoutMs := v }]

/-- The settings of passwords and sessions. -/
def sessionFields : List (Field Sessions) :=
  [textField "secret_key" true (·.secret) fun v s => { s with secret := v },
   numberField "token_ttl_hours" true word64Max (·.lifetimeHours)
    fun v s => { s with lifetimeHours := v },
   numberField "password_iterations" false word32Max (·.passwordRounds)
    fun v s => { s with passwordRounds := v }]

/-- The settings of the log. -/
def loggingFields : List (Field Logging) :=
  [textField "level" false (·.level) fun v s => { s with level := v },
   flagField "json" false (·.json) fun v s => { s with json := v }]

/-- The sections of the settings. -/
def sections : List (Field Settings) :=
  [sectionField "server" serverFields {} (·.server) fun v s => { s with server := v },
   sectionField "accrual" authorityFields {} (·.authority) fun v s => { s with authority := v },
   sectionField "database" databaseFields {} (·.database) fun v s => { s with database := v },
   sectionField "reconciliation" reconcilingFields {} (·.reconciling)
    fun v s => { s with reconciling := v },
   sectionField "auth" sessionFields {} (·.sessions) fun v s => { s with sessions := v },
   sectionField "logging" loggingFields {} (·.logging) fun v s => { s with logging := v }]

/-! ## Writing and reading -/

/-- The settings under their names. -/
def toDatum (s : Settings) : Datum := .table (write sections s)

/-- The settings that a datum holds. -/
def ofDatum? (d : Datum) : Option Settings := readFields sections {} d

/-- The settings under their full names: section, point, name. -/
def flat (s : Settings) : List (String × Datum) :=
  (write sections s).flatMap fun (name, part) =>
    part.entries.map fun (key, value) => (name ++ "." ++ key, value)

end Loyalty.Settings
