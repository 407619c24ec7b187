import CommandManual.Command.Definition
import CommandManual.Workspace.Basic
import CommandManual.Yaml.Value

/-!
# Definition files

A tree of commands is defined in a YAML file.
-/

namespace CommandManual

/-- Why no tree of commands can be read from a file. -/
inductive DefinitionFault where
  /-- The file is not there. -/
  | missing (path : Text)
  | access (f : AccessFault)
  | encoding (f : Utf8.Fault)
  | yaml (path : Text) (f : Yaml.Fault)
  | content (f : Definition.Fault)

/-- The fault of a text, for the file that holds it. -/
def DefinitionFault.ofYaml (path : Text) : Yaml.Fault → DefinitionFault
  | .encoding f => .encoding f
  | f => .yaml path f

/-- The wording of a fault. -/
def DefinitionFault.message : DefinitionFault → Text
  | .missing path => "Definition file not found: ".toList ++ path
  | .access f => f.message
  | .encoding f => f.message
  | .yaml path .malformed => "Invalid YAML in ".toList ++ path
  | .yaml _ f => f.message
  | .content f => f.message

/-- The tree of commands that a file defines. -/
def Workspace.loadDefinition (w : Workspace) (p : Path) : Except DefinitionFault Command := do
  let bytes ← (w.disk.read w.here p).mapError fun f =>
    if f.refusal = .notFound then .missing p.text else .access f
  let (t, broken) := Utf8.decodePieces bytes
  let v ← (Yaml.read w.setOrder t broken).mapError (DefinitionFault.ofYaml p.text)
  (Command.ofDefinition v).mapError .content

end CommandManual
