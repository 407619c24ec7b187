import CommandManual.Offspring
import CommandManual.View.Flag

/-!
# What a document shows of the commands

The visible commands are met one at a time. `walk` takes the next command from a worklist, notes
what is shown of it with the number of the command above, and puts the visible commands directly
below it in front of the rest. So a command is followed by everything below it and then by the next
command, in the order in which a reader meets them.

## Main definitions

* `CommandSummary`: what a document shows of one command.
* `CommandView`: a summary with the views of the commands below.
* `Visit`: a command that is still to be met.
* `walk`: what is met from a worklist on.

## Implementation notes

The application itself has the number zero, and the commands are numbered from one on.
-/

namespace CommandManual

/-- What a document shows of one command. -/
structure CommandSummary where
  name : Text
  /-- The names on the way from the application to the command. -/
  fullName : Text
  aliases : List Text
  names : List Text
  usage : Text
  /-- The summary line of the narrative document. -/
  usageBlock : Text
  usageText : Text
  usageTextLines : List Text
  argsUsage : Text
  description : Text
  category : Text
  /-- The number of commands above, the application not counted. -/
  level : Nat
  flags : List FlagView
  flagGroups : List FlagGroup
  deriving DecidableEq

/-- What a document shows of a command at a depth, below a command with a full name. -/
def CommandSummary.ofDetails (d : CommandDetails) (level : Nat) (parent : Text) :
    CommandSummary :=
  let usageText := Prose.usageBlock Prose.blockIndent d.usageText
  let groups := groupFlags d.flags
  { name := d.name
    fullName := Text.strip (parent ++ ' ' :: d.name)
    aliases := d.aliases
    names := d.names
    usage := Prose.cell d.usage
    usageBlock := Prose.summaryLine d.usage usageText
    usageText := usageText
    usageTextLines := Prose.inkedLines d.usageText
    argsUsage := Prose.cell d.argsUsage
    description := Prose.cell d.description
    category := d.category
    level := level
    flags := groupedFlags groups
    flagGroups := groups }

/-- A summary with the views of the commands below. -/
inductive CommandView where
  | mk (summary : CommandSummary) (commands : List CommandView)

namespace CommandView

/-- What is shown of the command itself. -/
def summary : CommandView → CommandSummary
  | .mk s _ => s

/-- The views of the commands below. -/
def commands : CommandView → List CommandView
  | .mk _ vs => vs

@[simp] theorem summary_mk (s : CommandSummary) (vs : List CommandView) : (mk s vs).summary = s :=
  rfl

@[simp] theorem commands_mk (s : CommandSummary) (vs : List CommandView) :
    (mk s vs).commands = vs := rfl

end CommandView

/-! ### The walk -/

/-- A command that is still to be met. -/
structure Visit where
  command : Command
  level : Nat
  /-- The full name of the command above. -/
  parent : Text

/-- What a document shows of a command that is met. -/
def Visit.summary (v : Visit) : CommandSummary :=
  CommandSummary.ofDetails v.command.details v.level v.parent

/-- The visible commands directly below a command. -/
def visitsBelow (c : Command) (level : Nat) (parent : Text) : List Visit :=
  c.visibleCommands.map fun child => ⟨child, level, parent⟩

/-- The visible commands directly below a command that is met. -/
def Visit.below (v : Visit) : List Visit := visitsBelow v.command (v.level + 1) v.summary.fullName

/-- The number of commands that a worklist stands for. -/
def pending (vs : List (Offspring Visit)) : Nat := Command.sizeAll (vs.map (·.item.command))

theorem pending_below_append_lt (v : Offspring Visit) (vs : List (Offspring Visit)) (n : Nat) :
    pending (v.item.below.map (⟨·, n⟩) ++ vs) < pending (v :: vs) := by
  have h := Command.sizeAll_visibleCommands_lt v.item.command
  have e : (v.item.below.map fun w => (⟨w, n⟩ : Offspring Visit)).map (·.item.command) =
      v.item.command.visibleCommands := by
    simp [Visit.below, visitsBelow, Function.comp_def]
  simp only [pending, List.map_append, e, Command.sizeAll_append, List.map_cons, Command.sizeAll]
  omega

/-- What is met from a worklist on, the first command with the number `n`. The commands below the
first one are next. -/
def walk (n : Nat) : List (Offspring Visit) → List (Offspring CommandSummary)
  | [] => []
  | v :: vs => ⟨v.item.summary, v.parent⟩ :: walk (n + 1) (v.item.below.map (⟨·, n⟩) ++ vs)
  termination_by vs => pending vs
  decreasing_by exact pending_below_append_lt ..

end CommandManual
