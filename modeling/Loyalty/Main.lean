import Loyalty.CommandLine
import Loyalty.Settings.Load

/-!
# The program

Loads the settings that the command line, the environment and the files of the
configuration make, and prints them, or what keeps them from being used.
-/

namespace Loyalty

/-- The variables of the environment that count, as far as they are set. -/
def readEnvironment : IO (List (String × String)) := do
  let names :=
    "LEDGER_ENV" :: Settings.variableNames ++ CommandLine.variableNames.map fun (_, name) => name
  names.filterMapM fun name => return (← IO.getEnv name).map fun value => (name, value)

/-- The files of a directory that count, as far as they can be read. -/
def readFiles (directory : String) (names : List String) : IO (List (String × String)) :=
  names.filterMapM fun name => do
    let path : String := directory ++ "/" ++ name
    try return some (name, ← IO.FS.readFile path)
    catch _ => return none

/-- Loads the settings and prints them. -/
def run (arguments : List String) : IO UInt32 := do
  let environment ← readEnvironment
  match CommandLine.read arguments environment with
  | .error .help => IO.print CommandLine.helpText; return 0
  | .error .version => IO.print CommandLine.versionText; return 0
  | .error fault => IO.eprintln fault.message; return 2
  | .ok line =>
    let files ← readFiles line.configDir (Settings.possibleFiles environment)
    match Settings.load files environment with
    | .error fault => IO.eprintln fault.message; return 1
    | .ok loaded =>
      let settings := line.apply loaded
      for (name, d) in settings.flat do
        IO.println (name ++ " = " ++ d.text?.getD "")
      for fault in settings.faults do
        IO.eprintln ("Invalid configuration: " ++ fault.message)
      return if settings.faults.isEmpty then 0 else 1

end Loyalty

/-- The program's entry. -/
def main (arguments : List String) : IO UInt32 := Loyalty.run arguments
