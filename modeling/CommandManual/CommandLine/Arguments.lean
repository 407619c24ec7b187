import CommandManual.Declaration.Basic

/-!
# Arguments of a command line

The arguments of a command are read by the options that it declares. A long option has its value in
the same argument behind an equals sign, or in the next argument; the letters of short ones can
stand together behind one dash. Two dashes alone end the options.

## Main definitions

* `Setting`: an option that is given, with its value.
* `Arguments`: what is given. `Arguments.read`: the arguments of a list of texts.
* `Arguments.given`: the options that are given.
* `Arguments.value?`, `Arguments.switch?`: what is given for an option.

## Implementation notes

An option is known by its first spelling. Options are not read behind the first argument that is
none, unless they may stand anywhere.
-/

namespace CommandManual

/-- An option that is given: with a text, or as a flag that is turned on or off. -/
inductive Setting where
  | value (option text : Text)
  | switch (option : Text) (on : Bool)
  deriving DecidableEq, Repr

/-- The option that is given. -/
def Setting.option : Setting → Text
  | .value o _ => o
  | .switch o _ => o

/-- The options that are given, in their order, and the other arguments. -/
structure Arguments where
  settings : List Setting := []
  rest : List Text := []
  deriving DecidableEq, Repr

namespace Arguments

/-- What a spelled option does: it waits for its value, or it is complete. -/
inductive Effect where
  | waits (option : Text)
  | sets (s : Setting)

/-- What one of some options does when it is spelled so. -/
def effect? (os : List DeclaredOption) (spelling : Text) : Option Effect :=
  os.findSome? fun o =>
    let key := (o.spellings.head?).getD []
    if o.spellings.contains spelling then
      some (if o.isFlag || o.isCount then .sets (.switch key true) else .waits key)
    else if o.offSpellings.contains spelling then some (.sets (.switch key false))
    else none

/-- What some arguments give, and the option that waits for a value behind them. -/
abbrev Reading := List Setting × Option Text

/-- What the letters behind a dash give. An option with a value takes the letters behind it. -/
def readLetters (os : List DeclaredOption) : Text → Option Reading
  | [] => some ([], none)
  | c :: cs =>
    match effect? os ['-', c] with
    | none => none
    | some (.sets s) => (readLetters os cs).map fun r => (s :: r.1, r.2)
    | some (.waits o) => some (if cs.isEmpty then ([], some o) else ([.value o cs], none))

/-- What an argument that begins with a dash gives. -/
def readOption (os : List DeclaredOption) (arg : Text) : Option Reading :=
  let (spelling, given) := Text.cutAt '=' arg
  match (if 2 < spelling.length then effect? os spelling else none), given with
  | some (.sets s), none => some ([s], none)
  | some (.sets _), some _ => none
  | some (.waits o), none => some ([], some o)
  | some (.waits o), some t => some ([.value o t], none)
  | none, _ => if arg.startsWith ['-', '-'] then none else readLetters os arg.tail

/-- What arguments give; `waiting` is an option in front of them that waits for its value. -/
def readFrom (os : List DeclaredOption) (anywhere : Bool) (waiting : Option Text) :
    List Text → Option Arguments
  | [] => if waiting.isSome then none else some {}
  | a :: as =>
    match waiting with
    | some o => (readFrom os anywhere none as).map fun r =>
        { r with settings := .value o a :: r.settings }
    | none =>
      if a = ['-', '-'] then some { rest := as }
      else if a.head? = some '-' && 1 < a.length then
        match readOption os a with
        | none => none
        | some (settings, waiting) => (readFrom os anywhere waiting as).map fun r =>
            { r with settings := settings ++ r.settings }
      else if anywhere then (readFrom os anywhere none as).map fun r => { r with rest := a :: r.rest }
      else some { rest := a :: as }

/-- What arguments give, if they can be read. -/
def read (os : List DeclaredOption) (anywhere : Bool) (args : List Text) : Option Arguments :=
  readFrom os anywhere none args

variable (a : Arguments)

/-- The text that an option is given last. -/
def value? (option : Text) : Option Text :=
  a.settings.reverse.findSome? fun
    | .value o t => if o = option then some t else none
    | .switch .. => none

/-- The options that are given, each where it is given first. -/
def given : List Text := (a.settings.map Setting.option).eraseDups

/-- How a flag is turned last. -/
def switch? (option : Text) : Option Bool :=
  a.settings.reverse.findSome? fun
    | .switch o on => if o = option then some on else none
    | .value .. => none

end Arguments

end CommandManual
