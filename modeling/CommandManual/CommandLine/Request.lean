import CommandManual.CommandLine.Arguments
import CommandManual.CommandLine.Ending
import CommandManual.Number.Whole

/-!
# Requests

A command line asks for something: for a document, or for a file's region to be filled or checked.
Reading it takes two turns, for the options in front of the command and for what stands behind it.
Asking for help or for the version comes before everything else that is wrong.

## Main definitions

* `Opening`: what stands in front of the command. `Opening.read`.
* `Request`: what a command is to do. `Request.read`.
-/

namespace CommandManual

namespace CommandLine

open Interface (appKey definitionKey configKey verboseKey versionKey helpKey outputKey calledAsKey
  sectionKey openingKey closingKey annotateKey diffKey)

/-- Help or the version, whichever is asked for first. -/
def shortcut? (a : Arguments) : Option Ending :=
  a.settings.findSome? fun s =>
    if s.option = helpKey then some .help
    else if s.option = versionKey then some .version
    else none

/-- Check a text that is given where a file is expected: it must not lead to a directory, and a null
character in it is not expected. -/
def checkFile (w : Workspace) (given : Text) : Except Ending Unit :=
  if given.contains '\x00' then .error (.broken (.file (.access (.nullCharacter given))))
  else if !given.isEmpty && w.disk.isDirectory w.here (Path.ofText given) then
    .error (.misused none)
  else .ok ()

/-- Check a section that is given: sections count from one. -/
def checkSection (given : Text) : Except Ending Unit :=
  match given.wholeNumber? with
  | some n => if 1 ≤ n then .ok () else .error (.misused none)
  | none => .error (.misused none)

/-- Check what is given for an option. -/
def checkOption (w : Workspace) (option given : Text) : Except Ending Unit :=
  if [definitionKey, configKey, outputKey].contains option then checkFile w given
  else if option = sectionKey then checkSection given
  else .ok ()

/-- Check the options that are given, in their order. -/
def checkOptions (w : Workspace) (a : Arguments) : Except Ending Unit :=
  a.given.forM fun o => ((a.value? o).map (checkOption w o)).getD (.ok ())

/-- What stands in front of the command, the command, and the arguments behind it. -/
structure Opening where
  app : Text
  definition : Text
  config : Text
  verbose : Bool
  command : Interface.Command
  arguments : List Text

/-- Read the options in front of the command. -/
def readGlobal (args : List Text) : Except Ending Arguments :=
  match Arguments.read (Interface.globalOptions ++ [Interface.help]) false args with
  | none => .error (.misused none)
  | some a =>
    match shortcut? a with
    | some e => .error e
    | none => .ok a

/-- Read a command line up to the command. What stands in the command's place without being one is
read as an option once more. -/
def Opening.read (w : Workspace) (args : List Text) : Except Ending Opening := do
  let a ← readGlobal args
  checkOptions w a
  match a.rest with
  | [] => throw (.misused none)
  | name :: arguments =>
    match Interface.Command.ofName? name with
    | none => do
      let _ ← readGlobal (name :: arguments)
      throw (.misused none)
    | some command =>
      return {
        command, arguments
        app := (a.value? appKey).getD []
        definition := (a.value? definitionKey).getD []
        config := (a.value? configKey).getD []
        verbose := (a.switch? verboseKey).getD false }

/-- What is said about the region of a file. -/
structure RegionRequest where
  file : Text
  calledAs : Text := []
  opening : Text := []
  closing : Text := []
  annotate : Option Bool := none
  deriving DecidableEq, Repr

/-- What a command is to do. -/
inductive Request where
  | markdown (output : Option Text)
  | tabular (calledAs : Text) (output : Option Text)
  | man (manualSection : Option Int) (output : Option Text)
  | inject (r : RegionRequest)
  | check (r : RegionRequest) (diff : Bool)
  deriving DecidableEq, Repr

/-- What is asked for the region of a file. The file is checked before further arguments are
refused. -/
def readRegion (w : Workspace) (a : Arguments) : Except Ending RegionRequest := do
  match a.rest with
  | [] => throw (.misused none)
  | file :: more =>
    checkFile w file
    if !more.isEmpty then throw (.misused none)
    return {
      file
      calledAs := (a.value? calledAsKey).getD []
      opening := (a.value? openingKey).getD []
      closing := (a.value? closingKey).getD []
      annotate := a.switch? annotateKey }

/-- There is no argument that is not an option's. -/
def noArguments (a : Arguments) : Except Ending Unit :=
  if a.rest.isEmpty then .ok () else .error (.misused none)

/-- Read what stands behind a command. -/
def Request.read (w : Workspace) (c : Interface.Command) (args : List Text) :
    Except Ending Request := do
  match Arguments.read c.options true args with
  | none => throw (.misused none)
  | some a =>
    if let some e := shortcut? a then throw e
    checkOptions w a
    match c with
    | .markdown => do
      noArguments a
      return .markdown (a.value? outputKey)
    | .tabular => do
      noArguments a
      return .tabular ((a.value? calledAsKey).getD []) (a.value? outputKey)
    | .man => do
      noArguments a
      return .man ((a.value? sectionKey).bind Text.wholeNumber?) (a.value? outputKey)
    | .inject => return .inject (← readRegion w a)
    | .check => return .check (← readRegion w a) ((a.switch? diffKey).getD false)

end CommandLine

end CommandManual
