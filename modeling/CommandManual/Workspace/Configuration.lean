import CommandManual.Config
import CommandManual.Toml.Value
import CommandManual.Workspace.Basic

/-!
# Configuration files

The configuration is read from a TOML file: the one that is asked for, or else one of the two that
the directory may have. In a project's file it has a table of its own.

## Main definitions

* `Workspace.findConfig`: the file in a directory.
* `Workspace.askedConfig`: the file that is asked for, or else the one that is found.
* `Workspace.readConfig`: the value in a file, not yet checked.
* `Workspace.loadConfig`: the configuration.
-/

namespace CommandManual

/-- Why no configuration can be read. -/
inductive ConfigFault where
  | access (f : AccessFault)
  /-- The path that is asked for begins in a home directory that is not known. -/
  | noHome
  /-- The file that is asked for is not there. -/
  | missing (path : Text)
  /-- The file cannot be opened, or is not TOML. -/
  | unreadable (path : Text)
  | encoding (f : Utf8.Fault)
  /-- A number in the file is too long, or values stand too deep in each other. -/
  | limit (f : Toml.Fault)
  /-- What should hold the configuration's table has no entries. -/
  | noTable
  | content (f : Config.Fault)

/-- The wording of a fault. -/
def ConfigFault.message : ConfigFault → Text
  | .access f => f.message
  | .noHome => "Could not determine home directory.".toList
  | .missing path => "Config file not found: ".toList ++ path
  | .unreadable path => "Failed to load config from ".toList ++ path
  | .encoding f => f.message
  | .limit f => f.message
  | .noTable => []
  | .content f => f.message

namespace Config

/-- The name of a file that holds nothing but a configuration. -/
def fileName : Text := ".clidoc.toml".toList

/-- The name of a project's file. -/
def projectFileName : Text := "pyproject.toml".toList

/-- The keys of the tables around the configuration in a project's file. -/
def projectKeys : List Text := ["tool".toList, "clidoc".toList]

/-- The value behind keys, an empty table where there is none. -/
def under : List Text → Value → Option Value
  | [], v => some v
  | k :: ks, .map es => under ks ((Value.lookup (.text k) es).getD (.map []))
  | _ :: _, _ => none

end Config

namespace Workspace

variable (w : Workspace)

/-- The configuration file in a directory. -/
def findConfig (directory : Path) : Except AccessFault (Option Path) := do
  let own : Path := { directory with names := directory.names ++ [Config.fileName] }
  if ← w.disk.isFile w.here own then return some own
  let project : Path := { directory with names := directory.names ++ [Config.projectFileName] }
  if ← w.disk.isFile w.here project then return some project
  return none

/-- The configuration file that is asked for, or else the one in a directory. -/
def askedConfig (asked : Option Path) (directory : Path) : Except ConfigFault (Option Path) :=
  match asked with
  | some asked => do
    let p ← (w.fromHome? asked).elim (.error .noHome) .ok
    if ← (w.disk.isFile w.here p).mapError ConfigFault.access then return some p
    throw (.missing p.text)
  | none => (w.findConfig directory).mapError .access

/-- The value that a file has for the configuration. -/
def readConfig (p : Path) : Except ConfigFault Value := do
  let bytes ← (w.disk.read w.here p).mapError fun _ => .unreadable p.text
  let t ← (Utf8.decode bytes).mapError .encoding
  let table ← (Toml.read t).mapError fun
    | .malformed => .unreadable p.text
    | f => .limit f
  if p.name = Config.projectFileName then
    match Config.under Config.projectKeys (.map table) with
    | some v => return v
    | none => throw .noTable
  return .map table

/-- The configuration of a file that is asked for, or else of the one in a directory, or else the
usual one. -/
def loadConfig (asked : Option Path) (directory : Path) : Except ConfigFault Config := do
  match ← w.askedConfig asked directory with
  | none => return {}
  | some p => (Config.ofValue (← w.readConfig p)).mapError .content

end Workspace

end CommandManual
