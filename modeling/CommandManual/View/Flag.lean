import CommandManual.Command.Basic
import CommandManual.Prose

/-!
# What a document shows of a flag

## Main definitions

* `Flag.display`, `Flag.synopsis`: a flag as a line of the narrative document, and as a part of the
  synopsis.
* `FlagView`: everything a document shows of a flag; `FlagView.ofFlag`.
* `FlagGroup`, `groupFlags`: flags under the labels of their categories.

## Implementation notes

Groups are kept in the order in which their labels were first met, after the group without a label,
which exists from the start and is dropped if it stays empty.
-/

namespace CommandManual

namespace Flag

/-- What is said about a flag behind its names: the usage, the default, the environment variables,
and whether it is required or deprecated. -/
def remarks (f : Flag) : Text :=
  let default := f.defaultDisplay
  f.usage
    ++ (if f.takesValue && !default.isEmpty then " (default: ".toList ++ default ++ [')'] else [])
    ++ (if f.envVars.isEmpty then []
        else " [".toList ++ Text.commaList (f.envVars.map ('$' :: ·)) ++ [']'])
    ++ (if f.required then " (required)".toList else [])
    ++ (if f.deprecated then " (deprecated)".toList else [])

/-- A flag as a line of the narrative document. -/
def display (f : Flag) : Text :=
  "**".toList ++ Text.commaList f.names.spelled ++ "**".toList
    ++ (if f.takesValue then "=\"\"".toList else []) ++ ": ".toList ++ f.remarks

/-- A flag as a part of the synopsis. -/
def synopsis (f : Flag) : Text :=
  '[' :: ['|'].intercalate f.names.spelled ++ ']' ::
    (if f.takesValue then "=[value]".toList else [])

end Flag

/-- What a document shows of a flag. -/
structure FlagView where
  /-- The first name as it is typed. -/
  name : Text
  /-- The other names as they are typed. -/
  aliases : List Text
  /-- All names as they are typed. -/
  names : List Text
  usage : Text
  takesValue : Bool
  default : Text
  envVars : List Text
  category : Text
  required : Bool
  deprecated : Bool
  display : Text
  synopsis : Text
  deriving DecidableEq

/-- What a document shows of a flag. -/
def FlagView.ofFlag (f : Flag) : FlagView where
  name := f.names.spelled.head f.names.spelled_ne_nil
  aliases := f.names.spelled.tail
  names := f.names.spelled
  usage := Prose.cell f.usage
  takesValue := f.takesValue
  default := f.defaultDisplay
  envVars := f.envVars
  category := f.category
  required := f.required
  deprecated := f.deprecated
  display := f.display
  synopsis := f.synopsis

@[simp] theorem FlagView.category_ofFlag (f : Flag) : (FlagView.ofFlag f).category = f.category :=
  rfl

/-- Flags under one label. -/
structure FlagGroup where
  category : Text
  flags : List FlagView
  deriving DecidableEq

/-- Put a flag under its label, behind the flags that are there; a new label comes last. -/
def addToGroups (f : FlagView) : List FlagGroup → List FlagGroup
  | [] => [⟨f.category, [f]⟩]
  | g :: gs =>
    if g.category = f.category then ⟨g.category, g.flags ++ [f]⟩ :: gs else g :: addToGroups f gs

/-- The visible flags under the labels of their categories. -/
def groupFlags (fs : List Flag) : List FlagGroup :=
  let views := (fs.filter (!·.hidden)).map FlagView.ofFlag
  (views.foldl (fun gs f => addToGroups f gs) [⟨[], []⟩]).filter (!·.flags.isEmpty)

/-- The flags of some groups in a row. -/
def groupedFlags (gs : List FlagGroup) : List FlagView := gs.flatMap (·.flags)

end CommandManual
