import CommandManual.Text.Blank
import CommandManual.Value.Printed

/-!
# Flags

A flag is an option of a command as its documentation shows it: its names, the kind of value it
takes, its default, and what is said about it.

## Main definitions

* `FlagKind`: the kinds of value.
* `FlagNames`: the names of a flag, at least one of which is not blank.
* `Flag`: a flag.
* `Flag.defaultDisplay`: the default as it is shown.

## Implementation notes

Names are kept as they were given, blank ones included, because the tree is read back field by
field. Whatever is shown goes through `FlagNames.spelled`, which leaves blank names out.
-/

namespace CommandManual

/-- The kind of value that a flag takes. A switch takes none. -/
inductive FlagKind where
  | switch
  | string
  | int
  | float
  | stringList
  | intList
  | floatList
  | duration
  | timestamp
  | path
  deriving DecidableEq, Repr

namespace FlagKind

/-- Every kind, in the order in which messages list them. -/
def all : List FlagKind :=
  [.switch, .string, .int, .float, .stringList, .intList, .floatList, .duration, .timestamp, .path]

/-- The word for a kind in definition files. -/
def label : FlagKind → Text
  | .switch => "bool".toList
  | .string => "string".toList
  | .int => "int".toList
  | .float => "float".toList
  | .stringList => "string_list".toList
  | .intList => "int_list".toList
  | .floatList => "float_list".toList
  | .duration => "duration".toList
  | .timestamp => "timestamp".toList
  | .path => "path".toList

/-- The kind that a word stands for. -/
def ofLabel? (t : Text) : Option FlagKind := all.find? fun k => k.label == t

/-- Does a flag of this kind take several values? -/
def isList : FlagKind → Bool
  | .stringList | .intList | .floatList => true
  | _ => false

@[simp] theorem ofLabel?_label (k : FlagKind) : ofLabel? k.label = some k := by
  cases k <;> decide

end FlagKind

/-- The names of a flag, at least one of which is not blank. -/
structure FlagNames where
  toList : List Text
  inked : toList.any Text.hasInk = true
  deriving DecidableEq

namespace FlagNames

/-- The names of a list, if one of them is not blank. -/
def ofList? (names : List Text) : Option FlagNames :=
  if h : names.any Text.hasInk = true then some ⟨names, h⟩ else none

/-- One name as it is typed: two dashes before a word, one before a letter. -/
def spelling (name : Text) : Text :=
  let bare := name.strip
  if 1 < bare.length then '-' :: '-' :: bare else '-' :: bare

/-- The first name, without the blanks around it. -/
def primary (ns : FlagNames) : Text := ((ns.toList.head?).getD []).strip

/-- The names as they are typed, without the blank ones. -/
def spelled (ns : FlagNames) : List Text := (ns.toList.filter Text.hasInk).map spelling

theorem spelled_ne_nil (ns : FlagNames) : ns.spelled ≠ [] := by
  obtain ⟨names, h⟩ := ns
  simp only [List.any_eq_true] at h
  obtain ⟨n, hn, hi⟩ := h
  intro hs
  have : n ∈ names.filter Text.hasInk := List.mem_filter.2 ⟨hn, hi⟩
  simp only [spelled, List.map_eq_nil_iff] at hs
  rw [hs] at this
  exact absurd this (List.not_mem_nil)

@[simp] theorem ofList?_toList (ns : FlagNames) : ofList? ns.toList = some ns := by
  simp [ofList?, ns.inked]

end FlagNames

/-- A flag of a command. -/
structure Flag where
  names : FlagNames
  /-- What stands among the names and is no text, with its place. A flag with such names can be
  kept, but not shown. -/
  strays : List (Nat × Value) := []
  /-- Are the names the keys of a mapping? Of these none is the first. -/
  keyed : Bool := false
  kind : FlagKind := .string
  /-- The value without the flag; null when there is none. -/
  defaultValue : Value := .null
  /-- Shown in place of the default when it is not empty. -/
  defaultText : Text := []
  usage : Text := []
  /-- The environment variables that the flag is read from. -/
  envVars : List Text := []
  /-- The label of the group that the flag is listed under. -/
  category : Text := []
  required : Bool := false
  hidden : Bool := false
  deprecated : Bool := false

/-- Why a flag cannot be made. -/
inductive FlagFault where
  /-- The value stands for no kind of flag. -/
  | kind (v : Value)
  /-- Every name is blank. -/
  | nameless

/-- The wording of a fault. -/
def FlagFault.message : FlagFault → Text
  | .kind v => v.quoted ++ " is not a valid FlagType".toList
  | .nameless => "Flag requires at least one non-empty name".toList

/-- The kind that a value stands for. Only a text stands for one. -/
def FlagKind.ofValue? : Value → Option FlagKind
  | .text t => ofLabel? t
  | _ => none

/-- The names of a list, or the fault of having none that is not blank. -/
def FlagNames.ofList (names : List Text) : Except FlagFault FlagNames :=
  match ofList? names with
  | some ns => .ok ns
  | none => .error .nameless

namespace Flag

/-- The first name, without the blanks around it. -/
def primaryName? (f : Flag) : Option Text := if f.keyed then none else some f.names.primary

/-- The names in their order, and what stands among them. -/
def givenNames (f : Flag) : List Value :=
  f.strays.foldl (fun vs (i, v) => vs.insertIdx i v) (f.names.toList.map .text)

/-- Is the flag followed by a value on the command line? -/
def takesValue (f : Flag) : Bool := f.kind != .switch

/-- The default as it is shown; empty when there is nothing to show. -/
def defaultDisplay (f : Flag) : Text :=
  if !f.defaultText.isEmpty then f.defaultText
  else if !f.takesValue then if f.defaultValue.isTruthy then "true".toList else "false".toList
  else match f.defaultValue.opened with
    | .null => []
    | .list vs | .tuple vs => Text.commaList (vs.map Value.shown)
    | _ => f.defaultValue.shown

end Flag

end CommandManual
