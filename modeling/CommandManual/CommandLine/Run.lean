import CommandManual.CommandLine.Noted
import CommandManual.CommandLine.Request
import CommandManual.Command.Definition
import CommandManual.Declaration.Command
import CommandManual.Difference.Unified

/-!
# Runs of the program

A run reads its configuration, finds the application's tree of commands and makes a document of it.
The document is printed, written to a file, or compared with the region of a file; in the last case
it may be put there. Up to the last step nothing is changed.

## Main definitions

* `configuration`, `root`, `narrative`, `tabular`, `manual`: the steps that change nothing.
* `Settings.regionTags`: the delimiters of a region.
* `print`, `inject`, `check`: the last steps.
* `run`: a run of the program.
-/

namespace CommandManual

namespace CommandLine

open Noted (note ofExcept)

/-! ### What is made -/

/-- The configuration that is asked for, or else the one of the working directory. -/
def configuration (w : Workspace) (asked : Text) : Noted Config := do
  let asked := if asked.isEmpty then none else some (Path.ofText asked)
  match ← ofExcept ((w.askedConfig asked (Workspace.pathOf w.here)).mapError .config) with
  | none => do
    note "Config file not found, using defaults".toList
    return {}
  | some p => do
    let v ← ofExcept ((w.readConfig p).mapError .config)
    note ("Loaded config from: ".toList ++ p.text)
    ofExcept ((Config.ofValue v).mapError fun f => .config (.content f))

/-- What the last steps know: where the application is found, and the configuration. -/
structure Settings where
  app : Text
  definition : Text
  config : Config

/-- The application's tree of commands. -/
def root (registry : Registry) (w : Workspace) (s : Settings) : Noted Command := do
  if s.app.isEmpty = s.definition.isEmpty then ofExcept (.error .sources)
  note ("Loading command tree from ".toList ++ Text.firstGiven [s.app, s.definition])
  if s.app.isEmpty then do
    let path := Path.ofText s.definition
    let c ← ofExcept ((w.loadDefinition path).mapError .definition)
    note ("Loaded definition for ".toList ++ c.name.quoted ++ " from ".toList ++ path.text)
    return c
  else do
    let declared ← ofExcept ((registry.find s.app).mapError .registry)
    let c ← ofExcept ((Command.ofDeclaration [] declared).mapError .declaration)
    note ("Extracted command tree for ".toList ++ c.name.quoted ++ " from Click".toList)
    return c

/-- Notes on a document that is being made. -/
def noteView (form : String) (c : Command) (asked : Text) : Noted Unit := do
  note ("Rendering ".toList ++ form.toList ++ " for ".toList ++ c.name.quoted)
  let v ← ofExcept ((DocumentView.build c asked 0).mapError fun f => .document (.view f))
  note ("Built view for ".toList ++ c.name.quoted ++ ": ".toList ++ Text.ofNat v.allCommands.length
    ++ " commands, ".toList ++ Text.ofNat v.flags.length ++ " global flags".toList)

/-- The narrative document. -/
def narrative (c : Command) : Noted Text := do
  noteView "markdown" c []
  ofExcept ((renderNarrative none c 0).mapError .document)

/-- The tabular document, under the name that is asked for or that the configuration has. -/
def tabular (s : Settings) (calledAs : Text) (c : Command) : Noted Text := do
  let asked := Text.firstGiven [calledAs, s.config.calledAs]
  noteView "tabular markdown" c asked
  ofExcept ((renderTabular none c asked).mapError .document)

/-- The manual page, for the section that is asked for or that the configuration has. -/
def manual (s : Settings) (manualSection : Option Int) (c : Command) : Noted Text := do
  noteView "markdown" c []
  let page ← ofExcept
    ((renderManual none c (manualSection.getD s.config.manualSection)).mapError .document)
  note ("Converted markdown to roff: ".toList ++ Text.ofNat page.lines.length ++ " lines for ".toList
    ++ page.title.name ++ '(' :: page.title.manual ++ [')'])
  return page.text

/-- The delimiters of a region: those that are given, or else those of the configuration. -/
def regionTags (s : Settings) (r : RegionRequest) : Except Problem (List Text) :=
  if r.opening.isEmpty ≠ r.closing.isEmpty then .error .tagPair
  else if r.opening.isEmpty then .ok [s.config.opening, s.config.closing]
  else .ok [r.opening, r.closing]

/-- What is to be put between the delimiters of a file's region, and the delimiters. -/
def regionDocument (registry : Registry) (w : Workspace) (s : Settings) (r : RegionRequest) :
    Noted (Text × List Text) := do
  let tags ← ofExcept (regionTags s r)
  let c ← root registry w s
  return (← tabular s r.calledAs c, tags)

/-! ### What is done with it -/

/-- The ending of a run that a problem stopped, if no file is to blame. -/
def endWith (p : Problem) : Ending :=
  match p.complaint with
  | .usage m => .misused (some m)
  | .plain m => .failed m
  | _ => .broken p

/-- The ending of a run that a problem stopped while a file was to be changed or read. -/
def blame (file : Text) (verb : String) (lost : AccessFault → Bool) (p : Problem) : Ending :=
  let missing := Ending.failed ("File not found: ".toList ++ file)
  match p.complaint with
  | .usage m => .misused (some m)
  | .plain m => .failed m
  | .noTarget => missing
  | .encoding f =>
    .failed (file ++ " is not valid UTF-8: ".toList ++ f.reason.message ++ " at byte ".toList
      ++ Text.ofNat f.position)
  | .access f =>
    if lost f then missing
    else .failed ("Cannot ".toList ++ verb.toList ++ ' ' :: file ++ ": ".toList ++ f.message)
  | .unexpected => .broken p

/-- Write a document to a file. Directories around it are made as far as they are missing. -/
def save (w : Workspace) (document output : Text) : Ending × Workspace :=
  let p := Path.ofText output
  let refused (f : AccessFault) : Ending :=
    match accessComplaint f with
    | .access f => .failed ("Cannot write ".toList ++ p.text ++ ": ".toList ++ f.message)
    | _ => .broken (.file (.access f))
  match w.disk.makeDirectories w.here p.parent with
  | (some f, disk) => (refused f, { w with disk })
  | (none, disk) =>
    match disk.write w.here p (Utf8.encode document) with
    | .error f => (refused f, { w with disk })
    | .ok disk => (.wrote p.text, { w with disk })

/-- How a run ended: its notes, which are shown if it was asked to be verbose, and its ending. -/
structure Outcome where
  notes : List Text := []
  ending : Ending

/-- Print a document, or write it to a file. -/
def print (w : Workspace) (made : Noted Text) (output : Option Text) : Outcome × Workspace :=
  match made.result, output with
  | .error p, _ => (⟨made.notes, endWith p⟩, w)
  | .ok document, none => (⟨made.notes, .printed document⟩, w)
  | .ok document, some output =>
    if output = ['-'] then (⟨made.notes, .printed document⟩, w)
    else let (ending, w) := save w document output; (⟨made.notes, ending⟩, w)

/-- The note on a finished injection. -/
def injectionNote (document : Text) (i : Injection) : Text :=
  if i.changed then
    "Injected ".toList ++ Text.ofNat document.length ++ " characters of documentation into ".toList
      ++ i.path
  else "Documentation in ".toList ++ i.path ++ " is up to date".toList

/-- Put a document into the region of a file. -/
def inject (registry : Registry) (w : Workspace) (s : Settings) (r : RegionRequest) :
    Outcome × Workspace :=
  let made := regionDocument registry w s r
  let blamed := blame r.file "update" fun _ => false
  match made.result with
  | .error p => (⟨made.notes, blamed p⟩, w)
  | .ok (document, tags) =>
    match w.replaceRegion (Path.ofText r.file) document tags (r.annotate.getD s.config.annotate)
        Workspace.usualTimeout with
    | (.error f, w) => (⟨made.notes, blamed (.file f)⟩, w)
    | (.ok i, w) => (⟨made.notes ++ [injectionNote document i], .injected r.file i.changed⟩, w)

/-- Compare a document with the region of a file. -/
def check (registry : Registry) (w : Workspace) (s : Settings) (r : RegionRequest) (diff : Bool) :
    Outcome :=
  let made := regionDocument registry w s r
  let blamed := blame r.file "read" fun f => f.refusal = .notFound
  match made.result with
  | .error p => ⟨made.notes, blamed p⟩
  | .ok (document, tags) =>
    match w.extract (Path.ofText r.file) tags r.file with
    | .error f => ⟨made.notes, blamed (.file f)⟩
    | .ok current =>
      let expected := generatedBlock (r.annotate.getD s.config.annotate) document
      if current = expected then ⟨made.notes, .current r.file⟩
      else
        let difference := Difference.unified (r.file ++ " (current)".toList)
          (r.file ++ " (generated)".toList) current expected
        ⟨made.notes, .stale r.file (if diff then some difference else none)⟩

/-- Do what is asked for. -/
def perform (registry : Registry) (w : Workspace) (s : Settings) : Request → Outcome × Workspace
  | .markdown output => print w (do narrative (← root registry w s)) output
  | .tabular calledAs output => print w (do tabular s calledAs (← root registry w s)) output
  | .man manualSection output =>
    print w (do manual s manualSection (← root registry w s)) output
  | .inject r => inject registry w s r
  | .check r diff => (check registry w s r diff, w)

/-- A run of the program with some arguments. -/
def run (registry : Registry) (w : Workspace) (args : List Text) : Outcome × Workspace :=
  match Opening.read w args with
  | .error e => ({ ending := e }, w)
  | .ok o =>
    let said (notes : List Text) : List Text := if o.verbose then notes else []
    let config := configuration w o.config
    match config.result with
    | .error p => (⟨said config.notes, endWith p⟩, w)
    | .ok c =>
      match Request.read w o.command o.arguments with
      | .error e => (⟨said config.notes, e⟩, w)
      | .ok request =>
        let (outcome, w) := perform registry w ⟨o.app, o.definition, c⟩ request
        ({ outcome with notes := said (config.notes ++ outcome.notes) }, w)

end CommandLine

end CommandManual
