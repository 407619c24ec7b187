import CommandManual.Command.Basic

/-!
# Trees from records

A program that already holds its commands as data can hand them over as records: mappings whose
keys are the names of the fields. Fields that are left out take their usual value; nothing else is
supplied or corrected.

## Main definitions

* `RecordFault`: why records are no tree.
* `Flag.ofRecord`, `Author.ofRecord`, `Command.ofRecord`: the parts of a tree.
-/

namespace CommandManual

/-- Why records are no tree. -/
inductive RecordFault where
  /-- A field is unknown, missing or of the wrong kind. -/
  | fields
  /-- What stands in front of all names of a flag that are not blank is no text. -/
  | nameKind
  | flag (f : FlagFault)

namespace Record

/-- A reader of one field's value. -/
abbrev FieldReader (α : Type) := Value → Except RecordFault α

/-- A text. -/
def text : FieldReader Text
  | .text t => .ok t
  | _ => .error .fields

/-- A truth value. -/
def bool : FieldReader Bool
  | .bool b => .ok b
  | _ => .error .fields

/-- A list. -/
def list : FieldReader (List Value)
  | .list vs | .tuple vs => .ok vs
  | _ => .error .fields

/-- A list of texts. -/
def texts : FieldReader (List Text) := fun v => do (← list v).mapM text

/-- The value of a field, or the usual one if the field is left out. -/
def fieldOr {α : Type} (es : List (Value × Value)) (name : String) (usual : α)
    (read : FieldReader α) : Except RecordFault α :=
  match Value.lookup (.text name.toList) es with
  | some v => read v
  | none => .ok usual

/-- The value of a field that cannot be left out. -/
def field {α : Type} (es : List (Value × Value)) (name : String) (read : FieldReader α) :
    Except RecordFault α :=
  match Value.lookup (.text name.toList) es with
  | some v => read v
  | none => .error .fields

/-- Every key names one of the fields. -/
def onlyFields (names : List String) (es : List (Value × Value)) : Except RecordFault Unit :=
  if es.all fun e => names.any fun n => Value.sameKey e.1 (.text n.toList) then .ok ()
  else .error .fields

/-- What a flag's record gives as its names. -/
structure GivenNames where
  texts : List Text := []
  /-- The items that are no texts, with their places. -/
  strays : List (Nat × Value) := []
  /-- Are the items the keys of a mapping? -/
  keyed : Bool := false

/-- The names among some items, the first of which has a place. -/
def namesFrom (place : Nat) : List Value → GivenNames
  | [] => {}
  | v :: vs =>
    let r := namesFrom (place + 1) vs
    match v with
    | .text t => { r with texts := t :: r.texts }
    | v => { r with strays := (place, v) :: r.strays }

/-- The items up to the first name that is not blank are looked at, and all of these are texts. -/
def isChecked : List Value → Bool
  | [] => true
  | .text t :: vs => t.hasInk || isChecked vs
  | _ :: _ => false

/-- The names among some items. -/
def namesAmong (items : List Value) : Except RecordFault GivenNames :=
  if isChecked items then .ok (namesFrom 0 items) else .error .nameKind

/-- The names of a flag: a text alone is a list of one, and a mapping stands for its keys. -/
def names : FieldReader GivenNames
  | .text t => .ok { texts := [t] }
  | .list vs | .tuple vs => namesAmong vs
  | .map es => (namesAmong (es.map Prod.fst)).map fun r => { r with keyed := true }
  | _ => .error .fields

/-- The entries of a record. -/
def entries : FieldReader (List (Value × Value))
  | .map es => .ok es
  | _ => .error .fields

end Record

open Record

/-- The fields of a flag's record. -/
def Flag.fieldNames : List String :=
  ["names", "type", "default", "default_text", "usage", "env_vars", "category", "required",
    "hidden", "deprecated"]

/-- The flag of a record. Its kind is looked at before its names. -/
def Flag.ofRecord (v : Value) : Except RecordFault Flag := do
  let es ← entries v
  onlyFields Flag.fieldNames es
  let given ← field es "names" .ok
  let kindValue ← fieldOr es "type" (.text FlagKind.string.label) .ok
  let some kind := FlagKind.ofValue? kindValue | throw (.flag (.kind kindValue))
  let found ← Record.names given
  let ns ← match FlagNames.ofList found.texts with
    | .ok ns => pure ns
    | .error f => throw (.flag f)
  return {
    names := ns
    strays := found.strays
    keyed := found.keyed
    kind := kind
    defaultValue := ← fieldOr es "default" .null .ok
    defaultText := ← fieldOr es "default_text" [] text
    usage := ← fieldOr es "usage" [] text
    envVars := ← fieldOr es "env_vars" [] texts
    category := ← fieldOr es "category" [] text
    required := ← fieldOr es "required" false bool
    hidden := ← fieldOr es "hidden" false bool
    deprecated := ← fieldOr es "deprecated" false bool }

/-- The author of a record. -/
def Author.ofRecord (v : Value) : Except RecordFault Author := do
  let es ← entries v
  onlyFields ["name", "email"] es
  return { name := ← field es "name" text, email := ← fieldOr es "email" [] text }

/-- The fields of a command's record. -/
def Command.fieldNames : List String :=
  ["name", "aliases", "usage", "usage_text", "args_usage", "description", "flags", "commands",
    "hidden", "category", "authors", "copyright"]

/-- What a record says about a command, its flags and authors already made. -/
def CommandDetails.ofEntries (es : List (Value × Value)) (flags : List Flag)
    (authors : List Author) : Except RecordFault CommandDetails := do
  onlyFields Command.fieldNames es
  return {
    name := ← field es "name" text
    aliases := ← fieldOr es "aliases" [] texts
    usage := ← fieldOr es "usage" [] text
    usageText := ← fieldOr es "usage_text" [] text
    argsUsage := ← fieldOr es "args_usage" [] text
    description := ← fieldOr es "description" [] text
    flags := flags
    hidden := ← fieldOr es "hidden" false bool
    category := ← fieldOr es "category" [] text
    authors := authors
    copyright := ← fieldOr es "copyright" [] text }

mutual

/-- The tree of a record. -/
def Command.ofRecord : Value → Except RecordFault Command
  | .map es => do
    let flags ← (← fieldOr es "flags" [] list).mapM Flag.ofRecord
    let commands ← Command.ofChildren es
    let authors ← (← fieldOr es "authors" [] list).mapM Author.ofRecord
    return .mk (← CommandDetails.ofEntries es flags authors) commands
  | _ => .error .fields

/-- The trees of the field that holds the commands below. -/
def Command.ofChildren : List (Value × Value) → Except RecordFault (List Command)
  | [] => .ok []
  | (k, v) :: es =>
    if k.sameKey (.text "commands".toList) then
      match v with
      | .list vs | .tuple vs => Command.ofRecords vs
      | _ => .error .fields
    else Command.ofChildren es

/-- The trees of a list of records. -/
def Command.ofRecords : List Value → Except RecordFault (List Command)
  | [] => .ok []
  | v :: vs => do
    let c ← Command.ofRecord v
    return c :: (← Command.ofRecords vs)

end

end CommandManual
