import CommandManual.Declaration.Basic
import CommandManual.Text.Quoted

/-!
# Finding declared commands

The program to be documented is named by a module and an attribute in it, `module:attribute`. A
registry says which modules there are and what they hold.

## Main definitions

* `Attribute`, `Registry`: what modules hold.
* `Registry.find`: the command that a text names, or the `Registry.Fault`.
* `Registry.Fault.message`: the wording of a fault.
-/

namespace CommandManual

/-- What an attribute of a module is. -/
inductive Attribute where
  /-- The attribute is there but holds nothing. -/
  | nothing
  /-- A command. The list has the attributes of the command itself. -/
  | command (c : Declaration) (attributes : List (Text × Attribute))
  | other (attributes : List (Text × Attribute))

/-- The attributes of an attribute. -/
def Attribute.attributes : Attribute → List (Text × Attribute)
  | .nothing => []
  | .command _ as => as
  | .other as => as

/-- Does the attribute hold anything? -/
def Attribute.isThere : Attribute → Bool
  | .nothing => false
  | _ => true

/-- A module: its full name, whether others can lie below it, and its attributes. -/
structure Module where
  name : Text
  isPackage : Bool := false
  attributes : List (Text × Attribute)

/-- The modules that can be found. -/
abbrev Registry := List Module

namespace Registry

/-- Why a module cannot be found. -/
inductive ImportFault where
  | missing (name : Text)
  /-- The part in front of the last dot is a module that others cannot lie below. -/
  | noPackage (name parent : Text)
  deriving DecidableEq

/-- The wording of a fault. -/
def ImportFault.message : ImportFault → Text
  | .missing name => "No module named ".toList ++ name.quoted
  | .noPackage name parent =>
    "No module named ".toList ++ name.quoted ++ "; ".toList ++ parent.quoted
      ++ " is not a package".toList

/-- Why no command can be found. -/
inductive Fault where
  /-- The text does not name a module and an attribute. -/
  | form (given : Text)
  | importing (name : Text) (f : ImportFault)
  /-- The name begins with a dot, so that it is relative to nothing. -/
  | relative
  | noAttribute (home name : Text)
  | noCommand (given : Text)
  deriving DecidableEq

/-- The wording of a fault; a relative name has none. -/
def Fault.message : Fault → Text
  | .form given => "Expected 'module:attribute', got ".toList ++ given.quoted
  | .importing name f =>
    "Cannot import module ".toList ++ name.quoted ++ ':' :: ' ' :: f.message
  | .relative => []
  | .noAttribute home name =>
    "Module ".toList ++ home.quoted ++ " has no attribute ".toList ++ name.quoted
  | .noCommand given => given ++ " is not a Click command".toList

/-- The parts of a dotted name joined again, up to each dot and in full. -/
def ancestors : List Text → List Text
  | [] => []
  | p :: ps => p :: (ancestors ps).map fun q => p ++ '.' :: q

/-- The module with a name. -/
def lookup (r : Registry) (name : Text) : Option Module := r.find? (·.name = name)

/-- Find a module, those around it first. -/
def findModule (r : Registry) (name : Text) : Except ImportFault Module :=
  go none (ancestors (Text.splitOn '.' name))
where
  /-- Find the modules of a list, each below the one in front. -/
  go (parent : Option Module) : List Text → Except ImportFault Module
    | [] => match parent with
      | some m => .ok m
      | none => .error (.missing name)
    | n :: ns =>
      match r.lookup n, parent with
      | some m, _ => go (some m) ns
      | none, some m => .error (if m.isPackage then .missing n else .noPackage n m.name)
      | none, none => .error (.missing n)

/-- Follow a dotted name through attributes. -/
def follow (attributes : List (Text × Attribute)) : List Text → Option Attribute
  | [] => none
  | [n] => (attributes.lookup n).filter Attribute.isThere
  | n :: ns => do follow (← attributes.lookup n).attributes ns

/-- The command that a text names. -/
def find (r : Registry) (given : Text) : Except Fault Declaration :=
  match Text.cutAt ':' given with
  | ([], _) | (_, none) | (_, some []) => .error (.form given)
  | (m, some a) =>
    if m.head? = some '.' then .error .relative
    else match r.findModule m with
      | .error f => .error (.importing m f)
      | .ok found =>
        match follow found.attributes (Text.splitOn '.' a) with
        | none => .error (.noAttribute m a)
        | some (.command c _) => .ok c
        | some _ => .error (.noCommand given)

end Registry

end CommandManual
