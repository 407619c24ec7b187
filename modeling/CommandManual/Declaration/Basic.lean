import CommandManual.Value.Basic

/-!
# Declared commands

A program declares its commands in order to read its own command line: the options and arguments
of each, the help that is shown for them, and the commands below. A declaration holds more than a
manual may show, in particular every default, published or not.

## Main definitions

* `ValueType`, `DeclaredOption`, `DeclaredArgument`, `DeclaredParameter`.
* `DeclaredDetails`, `Declaration`: what is declared for one command, and the tree of commands.
* `Declaration.size`: the number of commands in a tree.
-/

namespace CommandManual

/-- The type of an option's value. -/
inductive ValueType where
  | string
  | int
  | float
  | bool
  | path
  | timestamp
  /-- A type that manuals do not tell from a text. -/
  | other
  deriving DecidableEq, Repr

/-- A declared option. -/
structure DeclaredOption where
  /-- The ways to type it, dashes included. -/
  spellings : List Text
  /-- The ways to type the opposite of a flag. -/
  offSpellings : List Text := []
  type : ValueType := .string
  /-- Is it given without a value? -/
  isFlag : Bool := false
  /-- Is its value the number of times it is given? -/
  isCount : Bool := false
  /-- May it be given several times? -/
  isMultiple : Bool := false
  /-- The number of its values; `-1` for any number. -/
  arity : Int := 1
  required : Bool := false
  hidden : Bool := false
  deprecated : Bool := false
  help : Text := []
  /-- The value without the option, if one is declared. -/
  defaultValue : Option Value := none
  /-- Does help show the default? Null leaves it to the command; a text is shown instead. -/
  showDefault : Value := .null
  /-- The environment variables that the option is read from. -/
  envVars : List Text := []

/-- A declared positional argument. -/
structure DeclaredArgument where
  name : Text := []
  /-- The word for it in usage lines; its name if this is empty. -/
  placeholder : Text := []
  /-- The number of its values; `-1` for any number. -/
  arity : Int := 1
  required : Bool := true

/-- An option or an argument. -/
inductive DeclaredParameter where
  | option (o : DeclaredOption)
  | argument (a : DeclaredArgument)

/-- The option that a parameter is, if it is one. -/
def DeclaredParameter.option? : DeclaredParameter → Option DeclaredOption
  | .option o => some o
  | .argument _ => none

/-- The argument that a parameter is, if it is one. -/
def DeclaredParameter.argument? : DeclaredParameter → Option DeclaredArgument
  | .option _ => none
  | .argument a => some a

/-- What is declared for one command. Texts that are not given are empty. -/
structure DeclaredDetails where
  name : Text := []
  help : Text := []
  /-- A summary that takes the place of the help's first line. -/
  shortHelp : Text := []
  /-- The text below the list of options. -/
  epilog : Text := []
  hidden : Bool := false
  /-- Does help show the defaults of the command's options? Commands below take over what is
  declared here unless they declare something themselves. -/
  showDefault : Option Value := none
  parameters : List DeclaredParameter := []

/-- A declared command and the commands below it, each under the name it is registered with. -/
inductive Declaration where
  | mk (details : DeclaredDetails) (commands : List (Text × Declaration))

namespace Declaration

/-- What is declared for the command itself. -/
def details : Declaration → DeclaredDetails
  | .mk d _ => d

/-- The commands below, in the order of their registration. -/
def commands : Declaration → List (Text × Declaration)
  | .mk _ cs => cs

@[simp] theorem details_mk (d : DeclaredDetails) (cs : List (Text × Declaration)) :
    (mk d cs).details = d := rfl

@[simp] theorem commands_mk (d : DeclaredDetails) (cs : List (Text × Declaration)) :
    (mk d cs).commands = cs := rfl

instance : Inhabited Declaration := ⟨.mk {} []⟩

mutual

/-- The number of commands in a tree, its root included. -/
def size : Declaration → Nat
  | .mk _ cs => 1 + sizeAll cs

/-- The number of commands in a list of trees. -/
def sizeAll : List (Text × Declaration) → Nat
  | [] => 0
  | (_, c) :: cs => size c + sizeAll cs

end

theorem size_eq (c : Declaration) : c.size = 1 + sizeAll c.commands := by
  cases c
  rw [size, commands_mk]

/-- Register a command under a name. One that has the name already is replaced in its place. -/
def register (name : Text) (c : Declaration) : Declaration → Declaration
  | .mk d cs =>
    if cs.any (·.1 = name) then .mk d (cs.map fun e => if e.1 = name then (name, c) else e)
    else .mk d (cs ++ [(name, c)])

end Declaration

end CommandManual
