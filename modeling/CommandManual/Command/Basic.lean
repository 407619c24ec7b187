import CommandManual.Command.Flag

/-!
# Command trees

The tree of commands that a document describes. Its root is the application itself; every other
node is a command that is typed after its parent's name.

## Main definitions

* `Author`, `CommandDetails`: an author, and what is said about one command.
* `Command`: a command with the commands below it.
* `Command.visibleFlags`, `Command.visibleCommands`: what documentation may mention.

## Implementation notes

A node is its details and the list of its children, so that functions on trees recurse on the
children and leave the details alone.
-/

namespace CommandManual

/-- Somebody who wrote an application. -/
structure Author where
  name : Text
  email : Text := []
  deriving DecidableEq, Repr

/-- An author's name, with the address in angle brackets if there is one. -/
def Author.shown (a : Author) : Text :=
  if a.email.isEmpty then a.name else a.name ++ ' ' :: '<' :: a.email ++ ['>']

/-- What is said about one command. Authors and copyright are shown for the root only. -/
structure CommandDetails where
  name : Text
  aliases : List Text := []
  /-- A summary of one line. -/
  usage : Text := []
  /-- Free text about the usage, possibly of several lines. -/
  usageText : Text := []
  /-- The positional arguments. -/
  argsUsage : Text := []
  description : Text := []
  flags : List Flag := []
  hidden : Bool := false
  category : Text := []
  authors : List Author := []
  copyright : Text := []

/-- A command and the commands below it. -/
inductive Command where
  | mk (details : CommandDetails) (commands : List Command)

namespace Command

/-- What is said about the command itself. -/
def details : Command → CommandDetails
  | .mk d _ => d

/-- The commands below, in the order of their declaration. -/
def commands : Command → List Command
  | .mk _ cs => cs

@[simp] theorem details_mk (d : CommandDetails) (cs : List Command) : (mk d cs).details = d := rfl

@[simp] theorem commands_mk (d : CommandDetails) (cs : List Command) :
    (mk d cs).commands = cs := rfl

instance : Inhabited Command := ⟨.mk ⟨[], [], [], [], [], [], [], false, [], [], []⟩ []⟩

/-- The command's name. -/
def name (c : Command) : Text := c.details.name

/-- Is the command left out of documentation, with everything below it? -/
def hidden (c : Command) : Bool := c.details.hidden

end Command

/-- The name and the aliases. -/
def CommandDetails.names (d : CommandDetails) : List Text := d.name :: d.aliases

/-- The flags that are not hidden. -/
def CommandDetails.visibleFlags (d : CommandDetails) : List Flag := d.flags.filter (!·.hidden)

namespace Command

/-- The commands below that are not hidden. -/
def visibleCommands (c : Command) : List Command := c.commands.filter (!·.hidden)

mutual

/-- The number of commands in a tree, its root included. -/
def size : Command → Nat
  | .mk _ cs => 1 + sizeAll cs

/-- The number of commands in a list of trees. -/
def sizeAll : List Command → Nat
  | [] => 0
  | c :: cs => size c + sizeAll cs

end

theorem sizeAll_append (cs ds : List Command) : sizeAll (cs ++ ds) = sizeAll cs + sizeAll ds := by
  induction cs with
  | nil => simp [sizeAll]
  | cons c cs ih => simp [sizeAll, ih, Nat.add_assoc]

theorem sizeAll_filter_le (p : Command → Bool) (cs : List Command) :
    sizeAll (cs.filter p) ≤ sizeAll cs := by
  induction cs with
  | nil => simp
  | cons c cs ih =>
    rw [List.filter_cons]
    split <;> simp only [sizeAll] <;> omega

theorem sizeAll_visibleCommands_lt (c : Command) : sizeAll c.visibleCommands < c.size := by
  obtain ⟨d, cs⟩ := c
  have := sizeAll_filter_le (!·.hidden) cs
  simp only [visibleCommands, commands_mk, size]
  omega

end Command

end CommandManual
