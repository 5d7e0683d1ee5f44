import Loyalty.Settings.Basic
import Loyalty.Text.Split

/-!
# The command line

Options with a value, and flags without one, each under a long name and most
of them under a letter too. A value stands in the same argument as its option,
behind an equals sign or, after a letter, without one, or it is the next
argument, unless that begins with a hyphen. An option whose value stands in an
argument of its own is *pending* until the next option or the end: only then is
it found out that its value is missing, or that the option was given before.
What is neither an option nor a value is refused.

Some options have a variable of the environment, which counts where the option
is not given. `apply` puts the options over settings.
-/

namespace Loyalty

open Loyalty.Text

/-- What is said on the command line, or in its variables. -/
structure CommandLine where
  address : Option String
  authorityAddress : Option String
  databaseUri : Option String
  configDir : String
  inMemory : Bool
  deriving DecidableEq, Repr

/-- Why a command line is not followed. -/
inductive CommandFault
  | unknownArgument
  | missingValue
  | repeated
  | unneededValue
  /-- help is asked for -/
  | help
  /-- the version is asked for -/
  | version
  deriving DecidableEq, Repr

/-- The text of a fault. -/
def CommandFault.message : CommandFault → String
  | unknownArgument => "unknown argument"
  | missingValue => "an option has no value"
  | repeated => "an option is given twice"
  | unneededValue => "a flag has a value"
  | help => "help"
  | version => "version"

namespace CommandLine

/-! ## Options -/

/-- The options and flags. -/
inductive Switch
  | address
  | authorityAddress
  | databaseUri
  | configDir
  | inMemory
  | help
  | version
  deriving DecidableEq, Repr

/-- The long names. -/
def longNames : List (String × Switch) :=
  [("address", .address), ("accrual-address", .authorityAddress),
   ("database-uri", .databaseUri), ("config-dir", .configDir), ("in-memory", .inMemory),
   ("help", .help), ("version", .version)]

/-- The letters. -/
def letters : List (Char × Switch) :=
  [('a', .address), ('r', .authorityAddress), ('d', .databaseUri), ('c', .configDir),
   ('h', .help), ('V', .version)]

/-- The variables that stand for options. -/
def variableNames : List (Switch × String) :=
  [(.address, "RUN_ADDRESS"), (.authorityAddress, "ACCRUAL_SYSTEM_ADDRESS"),
   (.databaseUri, "DATABASE_URI")]

/-- Whether an option has a value. -/
def Switch.takesValue : Switch → Bool
  | inMemory => false
  | help => false
  | version => false
  | _ => true

/-! ## Arguments -/

/-- The kinds of arguments. -/
inductive Argument
  /-- two hyphens: no option follows -/
  | ending
  | long (name : String) (value : Option String)
  | short (letter : Char) (attached : List Char)
  | plain (text : String)
  deriving DecidableEq, Repr

/-- The kind of an argument. -/
def Argument.ofString (s : String) : Argument :=
  match s.toList with
  | ['-', '-'] => .ending
  | '-' :: '-' :: rest =>
    match splitFirst '=' rest with
    | some (name, value) => .long (.ofList name) (some (.ofList value))
    | none => .long (.ofList rest) none
  | '-' :: letter :: attached => .short letter attached
  | _ => .plain s

/-- The value that is attached to a letter. -/
def attachedValue? : List Char → Option String
  | [] => none
  | '=' :: value => some (.ofList value)
  | value => some (.ofList value)

/-! ## Reading -/

/-- What was read so far: the options with their values, and the option that is
    pending, with its value or without. -/
structure Draft where
  given : List (Switch × String)
  pending : Option (Switch × Option String)

/-- Takes an option down, which may not have been given before. -/
def Draft.add (draft : Draft) (switch : Switch) (value : String) : Except CommandFault Draft :=
  if (draft.given.lookup switch).isSome then .error .repeated
  else .ok { draft with given := draft.given ++ [(switch, value)] }

/-- Takes the pending option down. -/
def Draft.settle (draft : Draft) : Except CommandFault Draft :=
  match draft.pending with
  | none => .ok draft
  | some (_, none) => .error .missingValue
  | some (switch, some value) => { draft with pending := none }.add switch value

/-- Reads an option with what is attached to it. -/
def Draft.option (draft : Draft) (switch : Switch) (attached : Option String) :
    Except CommandFault Draft := do
  let draft ← draft.settle
  match switch, attached with
  | .help, _ => .error .help
  | .version, _ => .error .version
  | .inMemory, _ => draft.add .inMemory ""
  | switch, some value => draft.add switch value
  | switch, none => .ok { draft with pending := some (switch, none) }

/-- Reads one argument. -/
def Draft.read (draft : Draft) (argument : Argument) : Except CommandFault Draft :=
  match argument with
  | .ending => .ok draft
  | .long name value =>
    match longNames.lookup name with
    | none => .error .unknownArgument
    | some switch =>
      if !switch.takesValue && value.isSome then .error .unneededValue
      else draft.option switch value
  | .short letter attached =>
    match letters.lookup letter with
    | none => .error .unknownArgument
    | some switch => draft.option switch (attachedValue? attached)
  | .plain text =>
    match draft.pending with
    | some (switch, none) => .ok { draft with pending := some (switch, some text) }
    | _ => .error .unknownArgument

/-- Reads all arguments; nothing may stand behind the two hyphens. -/
def readAll : List Argument → Draft → Except CommandFault Draft
  | [], draft => draft.settle
  | [.ending], draft => draft.settle
  | .ending :: _, _ => .error .unknownArgument
  | argument :: rest, draft => (draft.read argument).bind (readAll rest)

/-- The value of an option: the one given, or that of its variable. -/
def Draft.value? (draft : Draft) (environment : List (String × String)) (switch : Switch) :
    Option String :=
  draft.given.lookup switch <|>
    (variableNames.lookup switch).bind fun name => environment.lookup name

/-- Reads a command line and the variables of the environment. -/
def read (arguments : List String) (environment : List (String × String)) :
    Except CommandFault CommandLine := do
  let draft ← readAll (arguments.map Argument.ofString) ⟨[], none⟩
  let value? := draft.value? environment
  return {
    address := value? .address
    authorityAddress := value? .authorityAddress
    databaseUri := value? .databaseUri
    configDir := (value? .configDir).getD "config"
    inMemory := (value? .inMemory).isSome }

/-- The text of the version. -/
def versionText : String := "points-ledger 0.1.0\n"

/-- The text of the help. -/
def helpText : String :=
  "Loyalty points ledger with accrual reconciliation\n\n" ++
  "Usage: points-ledger [OPTIONS]\n\nOptions:\n" ++
  "  -a, --address <ADDRESS>                  HTTP listen address (host:port)\n" ++
  "  -r, --accrual-address <ACCRUAL_ADDRESS>  Accrual system base URL\n" ++
  "  -d, --database-uri <DATABASE_URI>        PostgreSQL connection URL\n" ++
  "  -c, --config-dir <CONFIG_DIR>            Config directory\n" ++
  "      --in-memory                          Keep all data in memory\n" ++
  "  -h, --help                               Print help\n" ++
  "  -V, --version                            Print version\n"

/-! ## Settings -/

/-- The characters between the scheme of an address and its rest. -/
def schemeMark : List Char := [':', '/', '/']

/-- An address without blanks around it, and with a scheme. -/
def withScheme (address : String) : String :=
  let cs := trimChars address.toList
  .ofList (if hasPart schemeMark cs then cs else "http://".toList ++ cs)

/-- Settings with those of the command line, and with clean addresses. -/
def apply (c : CommandLine) (s : Settings) : Settings :=
  let settings : Settings :=
    { s with
      server := { s.server with address := c.address.getD s.server.address }
      authority :=
        { s.authority with
          baseUrl := (c.authorityAddress.map withScheme).getD s.authority.baseUrl }
      database := { s.database with url := c.databaseUri.getD s.database.url } }
  settings.normalize

end CommandLine
end Loyalty
