import CommandManual.Text.Quoted
import CommandManual.View.Document

/-!
# Values that a template can name

A template sees a view as named fields: texts, numbers, truth values, lists, and records with
fields of their own.

## Main definitions

* `Datum`: the values.
* `Datum.shown`, `Datum.isTruthy`, `Datum.kindName`: the text of a value, whether it counts as
  true, and its kind as messages name it.
* `fieldsOfView`: the fields of a view. `standing`: what is there besides them.
-/

namespace CommandManual

namespace Template

/-- The records of a view. -/
inductive RecordKind where
  | flag
  | group
  | command
  | loop
  deriving DecidableEq, Repr

/-- The name of a kind of record in the text of a record. -/
def RecordKind.shortName : RecordKind → Text
  | .flag => "FlagView".toList
  | .group => "FlagGroup".toList
  | .command => "CommandView".toList
  | .loop => "LoopContext".toList

/-- The name of a kind of record in messages. -/
def RecordKind.longName (k : RecordKind) : Text :=
  (match k with
    | .loop => "jinja2.runtime.".toList
    | _ => "clidoc.view.".toList) ++ k.shortName

/-- A value that a template can name. -/
inductive Datum where
  | text (t : Text)
  | int (n : Int)
  | bool (b : Bool)
  /-- The absence of a value, which is a value that templates can name. -/
  | nothing
  | list (ds : List Datum)
  /-- Something that only can be printed: its kind and its text. -/
  | symbol (kind text : Text)
  | record (kind : RecordKind) (fields : List (Text × Datum))
  deriving Inhabited

namespace Datum

/-- The kind of a value, as messages name it. -/
def kindName : Datum → Text
  | .text _ => "str object".toList
  | .int _ => "int object".toList
  | .bool _ => "bool object".toList
  | .nothing => "None".toList
  | .list _ => "list object".toList
  | .symbol k _ => k ++ " object".toList
  | .record k _ => k.longName ++ " object".toList

/-- Does the value count as true? -/
def isTruthy : Datum → Bool
  | .text t => !t.isEmpty
  | .int n => n != 0
  | .bool b => b
  | .nothing => false
  | .list ds => !ds.isEmpty
  | .symbol .. | .record .. => true

/-- The number of a loop's round and of all its rounds. -/
def loopPlace (fields : List (Text × Datum)) : Text :=
  let number (n : String) : Text := match fields.lookup n.toList with
    | some (.int n) => Text.ofInt n
    | _ => []
  number "index" ++ '/' :: number "length"

mutual

/-- The text of a value inside another. -/
def quoted : Datum → Text
  | .text t => t.quoted
  | .int n => Text.ofInt n
  | .bool b => if b then "True".toList else "False".toList
  | .nothing => "None".toList
  | .list ds => '[' :: Text.commaList (quotedAll ds) ++ [']']
  | .symbol _ t => t
  | .record .loop fs => '<' :: RecordKind.loop.shortName ++ ' ' :: loopPlace fs ++ ['>']
  | .record k fs => k.shortName ++ '(' :: Text.commaList (quotedFields fs) ++ [')']

/-- The texts of the values of a list. -/
def quotedAll : List Datum → List Text
  | [] => []
  | d :: ds => quoted d :: quotedAll ds

/-- The texts of the fields of a record. -/
def quotedFields : List (Text × Datum) → List Text
  | [] => []
  | (n, d) :: fs => (n ++ '=' :: quoted d) :: quotedFields fs

end

/-- The text of a value on its own. -/
def shown : Datum → Text
  | .text t => t
  | d => d.quoted

/-- A list of texts. -/
def texts (ts : List Text) : Datum := .list (ts.map .text)

end Datum

/-! ### What is always there -/

/-- Kinds and functions that every template can name, and the template itself. -/
def standing : List (Text × Datum) :=
  let kind (name shown : String) : Text × Datum :=
    (name.toList, .symbol "type".toList ("<class '".toList ++ shown.toList ++ "'>".toList))
  [kind "dict" "dict", kind "range" "range", kind "cycler" "jinja2.utils.Cycler",
    kind "joiner" "jinja2.utils.Joiner", kind "namespace" "jinja2.utils.Namespace",
    ("lipsum".toList, .symbol "function".toList "<function generate_lorem_ipsum>".toList),
    ("self".toList,
      .symbol "jinja2.runtime.TemplateReference".toList "<TemplateReference 'cli'>".toList)]

/-! ### The fields of a view -/

/-- A named field. -/
def field (name : String) (d : Datum) : Text × Datum := (name.toList, d)

/-- A flag as a record. -/
def ofFlag (f : FlagView) : Datum :=
  .record .flag [
    field "name" (.text f.name), field "aliases" (.texts f.aliases),
    field "names" (.texts f.names), field "usage" (.text f.usage),
    field "takes_value" (.bool f.takesValue), field "default" (.text f.default),
    field "env_vars" (.texts f.envVars), field "category" (.text f.category),
    field "required" (.bool f.required), field "deprecated" (.bool f.deprecated),
    field "display" (.text f.display), field "synopsis" (.text f.synopsis)]

/-- A group of flags as a record. -/
def ofGroup (g : FlagGroup) : Datum :=
  .record .group [field "category" (.text g.category), field "flags" (.list (g.flags.map ofFlag))]

mutual

/-- A command as a record. -/
def ofCommand : CommandView → Datum
  | .mk s vs =>
    .record .command [
      field "name" (.text s.name), field "full_name" (.text s.fullName),
      field "aliases" (.texts s.aliases), field "names" (.texts s.names),
      field "usage" (.text s.usage), field "usage_block" (.text s.usageBlock),
      field "usage_text" (.text s.usageText),
      field "usage_text_lines" (.texts s.usageTextLines),
      field "args_usage" (.text s.argsUsage), field "description" (.text s.description),
      field "category" (.text s.category), field "level" (.int s.level),
      field "flags" (.list (s.flags.map ofFlag)),
      field "flag_groups" (.list (s.flagGroups.map ofGroup)),
      field "commands" (.list (ofCommands vs))]

/-- Commands as records. -/
def ofCommands : List CommandView → List Datum
  | [] => []
  | v :: vs => ofCommand v :: ofCommands vs

end

/-- The fields of a view. -/
def fieldsOfView (v : DocumentView) : List (Text × Datum) :=
  [field "name" (.text v.name), field "app_path" (.text v.calledAs),
    field "section" (.int v.manualSection), field "usage" (.text v.usage),
    field "usage_text" (.text v.usageText),
    field "usage_text_lines" (.texts v.usageTextLines),
    field "args_usage" (.text v.argsUsage), field "description" (.text v.description),
    field "flags" (.list (v.flags.map ofFlag)),
    field "flag_groups" (.list (v.flagGroups.map ofGroup)),
    field "synopsis_args" (.texts v.synopsisArgs),
    field "commands" (.list (ofCommands v.commands)),
    field "all_commands" (.list (ofCommands v.allCommands)),
    field "authors" (.texts v.authors), field "copyright" (.text v.copyright)]

end Template

end CommandManual
