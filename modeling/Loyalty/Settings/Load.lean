import Loyalty.Ini
import Loyalty.Json.Datum
import Loyalty.Json5
import Loyalty.Ron
import Loyalty.Settings.Fields
import Loyalty.Toml.Document
import Loyalty.Yaml.Node

/-!
# Loading settings

Settings are loaded from what is built in, from the file `default.toml`, from
the file of a profile, and from variables, each put over those before.

A file is looked for under its name. If there is none, it is looked for with
each extension of a format behind its name; the empty name is that of no file.
A file that is not found is no fault; one that is found and cannot be read is
one. The name of the profile is in the variable `LEDGER_ENV`.

A variable whose name begins with `LEDGER__` brings a setting: two underscores
in its name stand for a point, and the case of its letters does not count.
-/

namespace Loyalty.Settings

open Loyalty.Text

/-- Why settings are not loaded. -/
inductive LoadFault
  /-- a file is not of its format -/
  | unreadable (file : String)
  /-- a value does not fit its setting, or is missing -/
  | unfit
  deriving DecidableEq, Repr

/-- The text of a fault. -/
def LoadFault.message : LoadFault → String
  | unreadable file => "cannot read the settings in " ++ file
  | unfit => "a setting has a value that does not fit"

/-! ## Files -/

/-- The formats of files. -/
inductive Format
  | toml
  | json
  | json5
  | yaml
  | ini
  | ron
  deriving DecidableEq, Repr

/-- The formats by the extension of a file. -/
def extensions : List (String × Format) :=
  [("toml", .toml), ("json", .json), ("json5", .json5), ("yaml", .yaml), ("yml", .yaml),
    ("ini", .ini), ("ron", .ron)]

/-- The entries of a file. -/
def Format.read? (format : Format) (content : String) : Option (List (String × Datum)) :=
  match format with
  | toml => Toml.read? content
  | json => Json.readTable? content
  | json5 => Json5.read? content
  | yaml => Yaml.read? content
  | ini => Ini.read? content
  | ron => Ron.read? content

/-- The format that the extension of a name tells. -/
def formatOf? (name : String) : Option Format := do
  let (stem, extension) ← splitLast '.' name.toList
  if stem.isEmpty then none else extensions.lookup (.ofList extension)

/-- The names under which a file is looked for, each with its format. -/
def candidates (name : String) : List (String × Format) :=
  extensions.map fun (extension, format) => (name ++ "." ++ extension, format)

/-- The file of a name: its full name, its format and its content. -/
def findFile? (files : List (String × String)) (name : String) :
    Option (String × Format × String) :=
  if name.isEmpty then none
  else
    match files.lookup name with
    | some content => (formatOf? name).map fun format => (name, format, content)
    | none =>
      (candidates name).findSome? fun (full, format) =>
        (files.lookup full).map fun content => (full, format, content)

/-- Settings with a file put over them, if there is one. -/
def putFile (files : List (String × String)) (d : Datum) (name : String) :
    Except LoadFault Datum :=
  match findFile? files name with
  | none => .ok d
  | some (full, format, content) =>
    match format.read? content with
    | some entries => .ok (d.putLayer entries)
    | none => .error (.unreadable full)

/-! ## Variables -/

/-- A name with a point for every two underscores. -/
def pointed : List Char → List Char
  | '_' :: '_' :: rest => '.' :: pointed rest
  | c :: rest => c :: pointed rest
  | [] => []

/-- The key of the setting that a variable brings. -/
def keyOfVariable? (name : String) : Option String :=
  (dropStart? "ledger__".toList (name.toList.map smallLetter)).map fun rest =>
    .ofList (pointed rest)

/-- The settings that variables bring. -/
def ofVariables (environment : List (String × String)) : List (String × Datum) :=
  environment.filterMap fun (name, value) =>
    (keyOfVariable? name).map fun key => (key, .ofVariable value)

/-- The name of the variable that brings the setting of a full name. -/
def variableOf (name : String) : String :=
  .ofList ("LEDGER__".toList ++ name.toList.flatMap fun c =>
    if c = '.' then ['_', '_'] else [c.toUpper])

/-- The names of all variables that bring settings. -/
def variableNames : List String := standard.flat.map fun (name, _) => variableOf name

/-- The name of the profile. -/
def profile (environment : List (String × String)) : String :=
  (environment.lookup "LEDGER_ENV").getD "development"

/-! ## All layers -/

/-- The names of the files that are looked for, in their order. -/
def fileNames (environment : List (String × String)) : List String :=
  ["default.toml", profile environment]

/-- All names under which those files are looked for. -/
def possibleFiles (environment : List (String × String)) : List String :=
  (fileNames environment).flatMap fun name =>
    if name.isEmpty then [] else name :: (candidates name).map (·.1)

/-- The settings from files and variables, with clean addresses. -/
def load (files environment : List (String × String)) : Except LoadFault Settings := do
  let d ← (fileNames environment).foldlM (putFile files) standard.toDatum
  match ofDatum? (d.putLayer (ofVariables environment)) with
  | some s => .ok s.normalize
  | none => .error .unfit

end Loyalty.Settings
