import CommandManual.Command.Basic
import CommandManual.Declaration.Basic
import CommandManual.Offspring
import CommandManual.Text.Margin
import CommandManual.Text.Uppercase

/-!
# Trees from declarations

A declared program becomes a tree of commands to be documented. Help texts lose their margins and
are split into a summary and a description, options become flags, and arguments become one line.
Defaults are taken over only where the program's own help shows them.

## Main definitions

* `splitHelp`: the summary and the description of a help text.
* `DeclaredOption.publishedDefault`: what a manual may show of a default.
* `DeclaredOption.flag`, `argumentsLine`, `CommandDetails.ofDeclared`: the parts of a command.
* `Unfinished`, `finish`: commands that are made, and what is still to be made below them.
* `Command.ofDeclaration`: the tree of a declaration.

## Implementation notes

Whether help shows a default is decided by the option or, if it does not say, by the nearest
command on the way to the root that does. A command that is made keeps the decision for the
commands below it.

All commands directly below one are made together, and the last of them is the next whose commands
are made. So the commands of a tree are not made in the order in which they stand in it.
-/

namespace CommandManual

/-! ### Help texts -/

/-- The line that forbids to break the lines of the paragraph after it. -/
def verbatimMark : Text := ['\x08']

/-- The first line of a help text, and the rest of it. Marks of verbatim paragraphs are left out. -/
def splitHelp (help : Text) : Text × Text :=
  match (Text.lines (Text.withoutMargin help)).filter fun l => l.strip ≠ verbatimMark with
  | [] => ([], [])
  | l :: ls => (Text.strip l, Text.trim (· = '\n') (Text.unlines ls))

/-! ### Arguments -/

/-- An argument in a usage line: in capitals, with dots if it takes any number of values, and in
brackets if it may be left out. -/
def DeclaredArgument.shown (a : DeclaredArgument) : Text :=
  let word := Text.capitals (if a.placeholder.isEmpty then a.name else a.placeholder)
  let word := if a.arity = -1 then word ++ "...".toList else word
  if a.required then word else '[' :: word ++ [']']

/-- The arguments of a command on one line. -/
def argumentsLine (ps : List DeclaredParameter) : Text :=
  [' '].intercalate ((ps.filterMap DeclaredParameter.argument?).map DeclaredArgument.shown)

/-! ### Options -/

namespace DeclaredOption

/-- The names of an option: its spellings without dashes, words first and letters after them. -/
def names (o : DeclaredOption) : List Text :=
  let bare := o.spellings.map (Text.trimStart (· = '-'))
  bare.filter (1 < ·.length) ++ bare.filter (·.length = 1)

/-- The kind of flag for one value of a type. -/
def baseKind : ValueType → FlagKind
  | .int => .int
  | .float => .float
  | .path => .path
  | .timestamp => .timestamp
  | .bool => .switch
  | .string | .other => .string

/-- The kind of flag for several values of a kind. -/
def listKind : FlagKind → FlagKind
  | .int => .intList
  | .float => .floatList
  | _ => .stringList

/-- The kind of flag that an option is. -/
def kind (o : DeclaredOption) : FlagKind :=
  if o.isCount then .int
  else if o.isFlag then .switch
  else if o.isMultiple || o.arity = -1 then listKind (baseKind o.type)
  else baseKind o.type

/-- Whether help shows the default: the option decides, or else what it inherits. -/
def effectiveShowDefault (o : DeclaredOption) (inherited : Value) : Value :=
  match o.showDefault with
  | .null => inherited
  | v => v

/-- The declared default; a computed one is not known. -/
def knownDefault (o : DeclaredOption) : Value :=
  match o.defaultValue with
  | none | some .function => .null
  | some v => v

/-- What a manual may show of the default: the value, and a text that takes its place. -/
def publishedDefault (o : DeclaredOption) (inherited : Value) : Value × Text :=
  match o.effectiveShowDefault inherited with
  | .text t => (.null, t)
  | v => if v.isTruthy then (o.knownDefault, []) else (.null, [])

/-- The flag that an option is. -/
def flag (o : DeclaredOption) (inherited : Value) : Except FlagFault Flag := do
  let names ← FlagNames.ofList o.names
  let (defaultValue, defaultText) := o.publishedDefault inherited
  return {
    names, defaultValue, defaultText
    kind := o.kind
    usage := o.help
    envVars := o.envVars
    required := o.required
    hidden := o.hidden
    deprecated := o.deprecated }

end DeclaredOption

/-! ### Commands -/

/-- What the options of a command inherit: what the command declares, or else what it inherits
itself. -/
def DeclaredDetails.passedOn (d : DeclaredDetails) (inherited : Value) : Value :=
  d.showDefault.getD inherited

/-- What is said about a declared command under a name; `showDefault` says whether help shows the
defaults of its options. -/
def CommandDetails.ofDeclared (name : Text) (d : DeclaredDetails) (showDefault : Value) :
    Except FlagFault CommandDetails := do
  let (summary, description) := splitHelp d.help
  let flags ← (d.parameters.filterMap DeclaredParameter.option?).mapM (·.flag showDefault)
  return {
    name, description, flags
    usage := if d.shortHelp.isEmpty then summary else d.shortHelp
    usageText := Text.withoutMargin d.epilog
    argsUsage := argumentsLine d.parameters
    hidden := d.hidden }

/-! ### Trees -/

/-- A command that is made, while those below it are still to be made. -/
structure Unfinished where
  /-- The number of the command among those that are made. -/
  number : Nat
  declaration : Declaration
  /-- Does help show the defaults of the command's options? -/
  showDefault : Value

namespace Unfinished

/-- What is said about the commands directly below. -/
def details (u : Unfinished) : Except FlagFault (List CommandDetails) :=
  u.declaration.commands.mapM fun e =>
    CommandDetails.ofDeclared e.1 e.2.details (e.2.details.passedOn u.showDefault)

/-- The commands directly below once they are made, numbered from `n` on. -/
def below (u : Unfinished) (n : Nat) : List Unfinished :=
  (u.declaration.commands.zipIdx n).map fun (e, i) =>
    ⟨i, e.2, e.2.details.passedOn u.showDefault⟩

/-- The number of commands that are declared in some trees. -/
def total : List Unfinished → Nat
  | [] => 0
  | u :: us => u.declaration.size + total us

theorem total_append (us vs : List Unfinished) : total (us ++ vs) = total us + total vs := by
  induction us with
  | nil => simp [total]
  | cons u us ih => simp [total, ih, Nat.add_assoc]

theorem total_reverse (us : List Unfinished) : total us.reverse = total us := by
  induction us with
  | nil => rfl
  | cons u us ih => rw [List.reverse_cons, total_append, ih, total, total, total, Nat.add_comm,
      Nat.add_zero]

theorem total_below (u : Unfinished) (n : Nat) :
    total (u.below n) = Declaration.sizeAll u.declaration.commands := by
  rw [below]
  induction u.declaration.commands generalizing n with
  | nil => rfl
  | cons e cs ih => rw [List.zipIdx_cons, List.map_cons, total, ih, Declaration.sizeAll]

theorem total_reverse_below_append_lt (u : Unfinished) (us : List Unfinished) (n : Nat) :
    total ((u.below n).reverse ++ us) < total (u :: us) := by
  rw [total_append, total_reverse, u.total_below n, total, Declaration.size_eq]
  omega

end Unfinished

/-- Make the commands below some that are made, the next one with the number `n`. Those below the
first one of the list are next, and what is below the last of these comes next in turn. -/
def finish (n : Nat) : List Unfinished → Except FlagFault (List (Offspring CommandDetails))
  | [] => .ok []
  | u :: us => do
    let details ← u.details
    let others ← finish (n + u.declaration.commands.length) ((u.below n).reverse ++ us)
    return details.map (⟨·, u.number⟩) ++ others
  termination_by us => Unfinished.total us
  decreasing_by exact Unfinished.total_reverse_below_append_lt ..

/-- The tree of a declaration. The root has the name asked for, or its own, or `cli`. -/
def Command.ofDeclaration (asked : Text) (c : Declaration) : Except FlagFault Command := do
  let showDefault := c.details.passedOn .null
  let name := Text.firstGiven [asked, c.details.name, "cli".toList]
  let details ← CommandDetails.ofDeclared name c.details showDefault
  let made ← finish 1 [⟨0, c, showDefault⟩]
  return .mk details ((Offspring.grow .mk 1 made).below 0)

end CommandManual
