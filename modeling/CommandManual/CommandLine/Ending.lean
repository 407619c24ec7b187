import CommandManual.Command.Flag
import CommandManual.CommandLine.Interface
import CommandManual.Declaration.Registry
import CommandManual.Text.Control
import CommandManual.Workspace.Configuration
import CommandManual.Workspace.Definition
import CommandManual.Workspace.Injection

/-!
# How a run ends

A run of the program ends in one of a few ways, and each has its exit code and its output. Most
problems are reported in a line of text; those that the program does not expect end the run too,
but are not worded.

## Main definitions

* `Problem`: what can go wrong, with its cause.
* `Complaint`: how a problem is reported. `Problem.complaint`: what it is for each.
* `Ending`: how a run ends, with `Ending.exitCode`, `Ending.stdout` and `Ending.stderr`.
-/

namespace CommandManual

namespace CommandLine

/-- What can go wrong in a run. -/
inductive Problem where
  /-- The application is not named by exactly one of the two options for it. -/
  | sources
  /-- Only one of the two delimiters is given. -/
  | tagPair
  | config (f : ConfigFault)
  | registry (f : Registry.Fault)
  | declaration (f : FlagFault)
  | definition (f : DefinitionFault)
  | document (f : DocumentFault)
  | file (f : FileFault)

/-- How a problem is reported. -/
inductive Complaint where
  /-- The command line is wrong. -/
  | usage (message : Text)
  /-- The problem has a message of its own. -/
  | plain (message : Text)
  /-- The file to be changed is not there. -/
  | noTarget
  /-- A file does not hold text. -/
  | encoding (f : Utf8.Fault)
  | access (f : AccessFault)
  /-- The program does not expect the problem. -/
  | unexpected

/-- The complaint about a failed access to a file. Only what the system refuses is expected. -/
def accessComplaint (f : AccessFault) : Complaint :=
  if f.refusal.number?.isNone then .unexpected else .access f

/-- The complaint about a failed access to a file and the like. -/
def fileComplaint : FileFault → Complaint
  | .access f => accessComplaint f
  | .noTarget _ => .noTarget
  | .nothingToLock _ | .nameless _ | .timeoutKind | .timeoutRange | .timeoutDigits | .tags _ =>
    .unexpected
  | .locked o t s => .plain (FileFault.locked o t s).message
  | .encoding f => .encoding f
  | .missingTag m source => .plain (m.message source)

/-- The complaint about a definition that cannot be read. -/
def definitionComplaint : DefinitionFault → Complaint
  | .missing path => .plain (DefinitionFault.missing path).message
  | .access f => accessComplaint f
  | .encoding f => .encoding f
  | .yaml path .malformed => .plain (DefinitionFault.yaml path .malformed).message
  | .yaml .. => .unexpected
  | .content .keyKind | .content .digits | .content .tooDeep => .unexpected
  | .content f => .plain f.message

/-- The complaint about a document that cannot be made. -/
def documentComplaint : DocumentFault → Complaint
  | .manualSection _ | .view _ => .unexpected
  | .template .notText | .template .wrongKind => .unexpected
  | .template f => .plain f.message
  | .conversion f => .plain f.message

/-- The complaint about a configuration that cannot be read. -/
def configComplaint : ConfigFault → Complaint
  | .missing path => .plain (ConfigFault.missing path).message
  | .unreadable path => .plain (ConfigFault.unreadable path).message
  | .content .noKeys | .content .notMapping | .content .digits => .unexpected
  | .content f => .plain f.message
  | .access _ | .noHome | .encoding _ | .limit _ | .noTable => .unexpected

/-- How a problem is reported. -/
def Problem.complaint : Problem → Complaint
  | .sources => .usage "Specify exactly one of --app or --definition".toList
  | .tagPair => .usage "--start-tag and --end-tag must be given together".toList
  | .config f => configComplaint f
  | .registry .relative => .unexpected
  | .registry f => .plain f.message
  | .declaration _ => .unexpected
  | .definition f => definitionComplaint f
  | .document f => documentComplaint f
  | .file f => fileComplaint f

/-- How a run ends. -/
inductive Ending where
  /-- The help of a command is shown. -/
  | help
  /-- The version is shown. -/
  | version
  /-- A document is printed. -/
  | printed (document : Text)
  /-- A document is written to a file. -/
  | wrote (path : Text)
  /-- A document is in a file now; was the file changed for it? -/
  | injected (file : Text) (changed : Bool)
  /-- A file has the document that it should have. -/
  | current (file : Text)
  /-- A file has not the document that it should have. -/
  | stale (file : Text) (difference : Option Text)
  /-- The command line is wrong; a message tells why if it can be read at all. -/
  | misused (message : Option Text)
  | failed (message : Text)
  /-- A problem that the program does not expect. -/
  | broken (p : Problem)

namespace Ending

/-- The exit code of the program. -/
def exitCode : Ending → Nat
  | .help | .version | .printed _ | .wrote _ | .injected .. | .current _ => 0
  | .stale .. | .failed _ | .broken _ => 1
  | .misused _ => 2

/-- What the program has to print. The help of a command is not modelled. -/
def output : Ending → Text
  | .version => Interface.versionLine
  | .printed document => document
  | .injected file true => "✓ Updated ".toList ++ file ++ ['\n']
  | .injected file false => "✓ ".toList ++ file ++ " already up to date\n".toList
  | .current file => "✓ ".toList ++ file ++ " is up to date\n".toList
  | _ => []

/-- What the program has to report. -/
def report : Ending → Text
  | .wrote path => "✓ Wrote ".toList ++ path ++ ['\n']
  | .stale file _ =>
    "✗ Documentation in ".toList ++ file ++ " is out of date. Run: ".toList ++ Interface.program
      ++ " inject ".toList ++ file ++ ['\n']
  | .misused none => "Error: the arguments cannot be read\n".toList
  | .misused (some message) | .failed message => "Error: ".toList ++ message ++ ['\n']
  | _ => []

/-- What the program prints: no orders to a terminal. -/
def stdout (e : Ending) : Text := Text.withoutControls e.output

/-- What the program reports: no orders to a terminal. -/
def stderr (e : Ending) : Text := Text.withoutControls e.report

/-- The difference that is shown in front of the report. -/
def difference? : Ending → Option Text
  | .stale _ d => d
  | _ => none

end Ending

end CommandLine

end CommandManual
