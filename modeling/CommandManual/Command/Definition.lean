import CommandManual.Command.Basic

/-!
# Definitions of command trees

A definition is a value as a data file holds it: nested mappings that describe the application,
its flags, its authors and the commands below it. Reading one checks every entry, and the first
fault that is found says where the offending entry stands.

## Main definitions

* `Definition.Place`, `Definition.Step`: the way from the root of a definition to an entry.
* `Definition.Reason`, `Definition.Fault`: why a definition is refused, and where.
* `Command.ofDefinition`: the tree of a definition.

## Implementation notes

A fault found in a nested entry is the fault of that entry read on its own with one step put in
front of its place. So the reader never carries a place along; `Fault.under` adds the steps on the
way out.

A value can stand inside itself, and so describe commands below commands without end. So there is a
limit to the levels of commands.
-/

namespace CommandManual

namespace Definition

/-! ### Faults -/

/-- One step from an entry to an entry inside it. -/
inductive Step where
  | flag (i : Nat)
  | command (i : Nat)
  | author (i : Nat)
  deriving DecidableEq, Repr

/-- The way from the root to an entry. -/
abbrev Place := List Step

/-- The text of a step. -/
def Step.text : Step → Text
  | .flag i => ".flags[".toList ++ Text.ofNat i ++ [']']
  | .command i => ".commands[".toList ++ Text.ofNat i ++ [']']
  | .author i => ".authors[".toList ++ Text.ofNat i ++ [']']

/-- The text of a place. -/
def Place.text (p : Place) : Text := "root".toList ++ p.flatMap Step.text

/-- Why an entry is refused. -/
inductive Reason where
  /-- The entry is no mapping. -/
  | notMapping (kind : Text)
  /-- The entry has keys that nothing reads. -/
  | unknownKeys (keys : List Text)
  /-- The command's name is blank. -/
  | namelessCommand
  | notText (key : Text)
  | notTexts (key : Text)
  | notTruth (key : Text)
  | notList (key : Text)
  /-- The flag's type is no word for a kind. -/
  | flagKind (v : Value)
  | flag (f : FlagFault)

/-- The wording of a reason, to be put after the entry's place. -/
def Reason.message : Reason → Text
  | .notMapping kind => ": expected a mapping, got ".toList ++ kind
  | .unknownKeys keys => ": unknown key(s): ".toList ++ Text.commaList keys
  | .namelessCommand => ".name: command name is required".toList
  | .notText key => '.' :: key ++ ": expected a string".toList
  | .notTexts key => '.' :: key ++ ": expected a list of strings".toList
  | .notTruth key => '.' :: key ++ ": expected true or false".toList
  | .notList key => '.' :: key ++ ": expected a list".toList
  | .flagKind v =>
    ".type: unknown flag type ".toList ++ v.quoted ++ " (expected one of ".toList
      ++ Text.commaList (FlagKind.all.map FlagKind.label) ++ [')']
  | .flag f => ':' :: ' ' :: f.message

/-- Why a definition is refused. -/
inductive Fault where
  /-- An entry is refused. -/
  | entry (place : Place) (reason : Reason)
  /-- An unknown key is no text, so that the unknown keys cannot be listed. -/
  | keyKind
  /-- What is to be quoted in a message has a number with too many digits to be written. -/
  | digits
  /-- There are too many levels of commands. -/
  | tooDeep

/-- The fault of an entry as a fault of what holds the entry. -/
def Fault.under (s : Step) : Fault → Fault
  | .entry p r => .entry (s :: p) r
  | .keyKind => .keyKind
  | .digits => .digits
  | .tooDeep => .tooDeep

/-- The wording of a fault; a key that is no text has none, nor have levels without end. -/
def Fault.message : Fault → Text
  | .entry p r => p.text ++ r.message
  | .keyKind | .tooDeep => []
  | .digits => unwritableMessage

/-- A fault of the entry that is being read. -/
def refuse {α : Type} (r : Reason) : Except Fault α := .error (.entry [] r)

/-! ### Reading an entry's fields -/

/-- The entries of a mapping. -/
abbrev Entries := List (Value × Value)

/-- The value of a key. -/
def get? (es : Entries) (key : String) : Option Value := Value.lookup (.text key.toList) es

/-- The value of a key, with its kind and its parts in the open. -/
def open? (es : Entries) (key : String) : Option Value := (get? es key).map Value.opened

/-- The value of a key, where a value that is null, false, zero or empty counts as none. -/
def filled? (es : Entries) (key : String) : Option Value := (open? es key).filter Value.isTruthy

/-- The entries of a value that has to be a mapping. -/
def entries (v : Value) : Except Fault Entries :=
  match v.opened with
  | .map es => .ok es
  | _ => refuse (.notMapping v.kindName)

/-- The text of a key; without one, or with a null, it is empty. -/
def text (es : Entries) (key : String) : Except Fault Text :=
  match open? es key with
  | none | some .null => .ok []
  | some (.text t) => .ok t
  | some _ => refuse (.notText key.toList)

/-- The texts of a key: one text alone is a list of one. -/
def texts (es : Entries) (key : String) : Except Fault (List Text) :=
  match filled? es key with
  | none => .ok []
  | some (.text t) => .ok [t]
  | some (.list vs) =>
    match vs.mapM Value.text? with
    | some ts => .ok ts
    | none => refuse (.notTexts key.toList)
  | some _ => refuse (.notTexts key.toList)

/-- The truth value of a key, false without one. -/
def truth (es : Entries) (key : String) : Except Fault Bool :=
  match open? es key with
  | none => .ok false
  | some (.bool b) => .ok b
  | some _ => refuse (.notTruth key.toList)

/-- The list of a key. -/
def list (es : Entries) (key : String) : Except Fault (List Value) :=
  match filled? es key with
  | none => .ok []
  | some (.list vs) => .ok vs
  | some _ => refuse (.notList key.toList)

/-- Every key is one of those that are read. The others are listed in ascending order. -/
def onlyKeys (known : List String) (es : Entries) : Except Fault Unit :=
  match es.filter fun e => !known.any fun k => Value.sameKey e.1 (.text k.toList) with
  | [] => .ok ()
  | unknown =>
    match unknown.mapM fun e => Value.text? e.1 with
    | some ks => refuse (.unknownKeys (Text.sorted ks))
    | none => .error .keyKind

/-- Read the items of a list in order, the first fault with the item's number. -/
def readAll {α : Type} (step : Nat → Step) (read : Value → Except Fault α) :
    (i : Nat) → List Value → Except Fault (List α)
  | _, [] => .ok []
  | i, v :: vs => do
    let a ← (read v).mapError (Fault.under (step i))
    return a :: (← readAll step read (i + 1) vs)

end Definition

open Definition

/-! ### Authors -/

/-- The author of an entry: a text alone is a name. -/
def Author.ofDefinition : Value → Except Fault Author
  | .text t => .ok { name := t }
  | v => do
    let es ← entries v
    onlyKeys ["name", "email"] es
    return { name := ← text es "name", email := ← text es "email" }

/-! ### Flags -/

/-- The keys of a flag's entry. -/
def Flag.definitionKeys : List String :=
  ["name", "names", "aliases", "type", "default", "default_text", "usage", "env_vars", "category",
    "required", "hidden", "deprecated"]

/-- The names of a flag's entry: those of `names` if it is there, else `name` and `aliases`. -/
def Flag.definedNames (es : Entries) : Except Fault (List Text) :=
  if (get? es "names").isSome then texts es "names"
  else do return (← text es "name") :: (← texts es "aliases")

/-- The kind of a flag's entry, a text without one. A message that refuses it quotes it: it is taken
to be nested less deeply than what the system gives up to write. -/
def FlagKind.ofEntries (es : Entries) : Except Fault FlagKind :=
  let v := (get? es "type").getD (.text FlagKind.string.label)
  match FlagKind.ofValue? v with
  | some k => .ok k
  | none => if v.isWritable then refuse (.flagKind v) else .error .digits

/-- The flag of an entry. Blank names are found out last. -/
def Flag.ofDefinition (v : Value) : Except Fault Flag := do
  let es ← entries v
  onlyKeys Flag.definitionKeys es
  let names ← Flag.definedNames es
  let kind ← FlagKind.ofEntries es
  let defaultText ← text es "default_text"
  let usage ← text es "usage"
  let envVars ← texts es "env_vars"
  let category ← text es "category"
  let required ← truth es "required"
  let hidden ← truth es "hidden"
  let deprecated ← truth es "deprecated"
  match FlagNames.ofList names with
  | .error f => refuse (.flag f)
  | .ok names => return {
      names, kind, defaultText, usage, envVars, category, required, hidden, deprecated
      defaultValue := (get? es "default").getD .null }

/-! ### Commands -/

/-- The keys of a command's entry. -/
def Command.definitionKeys : List String :=
  ["name", "aliases", "usage", "usage_text", "args_usage", "description", "flags", "commands",
    "hidden", "category", "authors", "copyright"]

/-- The list of a command's authors: a text or a mapping alone is a list of one. -/
def Definition.authorList (es : Entries) : Except Fault (List Value) :=
  match filled? es "authors" with
  | some (.text t) => .ok [.text t]
  | some (.map as) => .ok [.map as]
  | _ => list es "authors"

/-- What an entry says about a command, as far as it is read before the commands below. -/
def CommandDetails.definedHead (es : Entries) : Except Fault (CommandDetails × List Value) := do
  onlyKeys Command.definitionKeys es
  let name ← text es "name"
  if name.isBlankText then refuse .namelessCommand
  let flags ← list es "flags"
  let _ ← list es "commands"
  let authors ← authorList es
  let aliases ← texts es "aliases"
  let usage ← text es "usage"
  let usageText ← text es "usage_text"
  let argsUsage ← text es "args_usage"
  let description ← text es "description"
  let flags ← readAll .flag Flag.ofDefinition 0 flags
  return ({ name, aliases, usage, usageText, argsUsage, description, flags }, authors)

/-- The same with what is read after the commands below. -/
def CommandDetails.definedTail (es : Entries) (authors : List Value) (d : CommandDetails) :
    Except Fault CommandDetails := do
  let hidden ← truth es "hidden"
  let category ← text es "category"
  let authors ← readAll .author Author.ofDefinition 0 authors
  let copyright ← text es "copyright"
  return { d with hidden, category, authors, copyright }

/-- The greatest number of levels of commands. -/
def Definition.maxLevels : Nat := 490

/-- The tree of a definition with a number of levels at most. -/
def Command.definedWithin : (levels : Nat) → Value → Except Fault Command
  | 0, _ => .error .tooDeep
  | levels + 1, v => do
    let es ← entries v
    let (head, authors) ← CommandDetails.definedHead es
    let below ← readAll .command (Command.definedWithin levels) 0 (← list es "commands")
    return .mk (← head.definedTail es authors) below

/-- The tree of a definition. -/
def Command.ofDefinition (v : Value) : Except Fault Command := Command.definedWithin maxLevels v

end CommandManual
