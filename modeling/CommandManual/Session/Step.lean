import CommandManual.CommandLine.Run

/-!
# Sessions

A session is a sequence of steps in one workspace. A step changes files, works on the region of a
file, takes or gives back a lock, reads a configuration or a definition, or runs the program. It
has an answer or a fault, and leaves a workspace for the next step.

## Main definitions

* `Session.Step`, `Session.Answer`, `Session.Fault`.
* `Session.perform`: one step. `Session.run`: the steps of a session.
* `Session.after`: the workspace behind the last step.
-/

namespace CommandManual

namespace Session

/-- A step. Files are named by their paths below the working directory. -/
inductive Step where
  | write (file : Text) (bytes : List UInt8)
  | delete (file : Text)
  | makeDirectory (file : Text)
  | link (file target : Text)
  | setMode (file : Text) (mode : Nat)
  | getMode (file : Text)
  | replace (file document : Text) (tags : List Text) (annotate : Bool) (timeout : Value)
  | inject (file : Text) (root : Command) (asked : Text) (tags : List Text) (annotate : Bool)
  | extract (file : Text) (tags : List Text)
  /-- Put a new file with a text in the place of a file. -/
  | overwrite (file content : Text)
  | lock (file name : Text) (timeout : Value) (operation : Text)
  | unlock (name : Text)
  /-- The path of the file that is locked for a file. -/
  | sidecar (file : Text)
  | findConfig (directory : Option Text)
  | loadConfig (file directory : Option Text)
  | loadDefinition (file : Text)
  | program (args : List Text)

/-- What a step gives. -/
inductive Answer where
  | done
  | changed (b : Bool)
  | text (t : Text)
  | path (p : Option Text)
  | mode (m : Nat)
  | config (c : Config)
  | command (c : Command)
  | outcome (o : CommandLine.Outcome)

/-- Why a step fails. -/
inductive Fault where
  | file (f : FileFault)
  | document (f : DocumentFault)
  | config (f : ConfigFault)
  | definition (f : DefinitionFault)
  /-- No lock is held under the name. -/
  | notHeld (name : Text)

variable (w : Workspace)

/-- The end of a step that changes the disk. -/
def changeDisk (r : Except AccessFault Disk) : Except Fault Answer × Workspace :=
  match r with
  | .ok disk => (.ok .done, { w with disk })
  | .error f => (.error (.file (.access f)), w)

/-- The end of a step that changes the disk after the directories around a path are made. -/
def changeBelow (p : Path) (change : Disk → Except AccessFault Disk) :
    Except Fault Answer × Workspace :=
  match w.disk.makeDirectories w.here p.parent with
  | (some f, disk) => (.error (.file (.access f)), { w with disk })
  | (none, disk) => changeDisk { w with disk } (change disk)

/-- The end of a step that changes the workspace. -/
def changeWorkspace (r : Except FileFault Workspace) : Except Fault Answer × Workspace :=
  match r with
  | .ok w => (.ok .done, w)
  | .error f => (.error (.file f), w)

/-- The directory that a configuration is looked for in. -/
def directoryPath (directory : Option Text) : Path :=
  match directory with
  | some d => w.path d
  | none => Workspace.pathOf w.here

/-- One step: its answer or its fault, and the workspace behind it. -/
def perform (registry : Registry) : Step → Except Fault Answer × Workspace
  | .write file bytes =>
    let p := w.path file
    changeBelow w p fun d => d.write w.here p bytes
  | .delete file => changeDisk w (w.disk.delete w.here (w.path file))
  | .makeDirectory file =>
    match w.disk.makeDirectoryBelow w.here (w.path file) with
    | (some f, disk) => (.error (.file (.access f)), { w with disk })
    | (none, disk) => (.ok .done, { w with disk })
  | .link file target => changeDisk w (w.disk.link w.here (w.path file) target)
  | .setMode file mode => changeDisk w (w.disk.setMode w.here (w.path file) mode)
  | .getMode file =>
    ((w.disk.stat w.here (w.path file)).map (fun s => Answer.mode s.2.mode)
      |>.mapError fun f => .file (.access f), w)
  | .replace file document tags annotate timeout =>
    let (r, after) := w.replaceRegion (w.path file) document tags annotate timeout
    ((r.map fun i => .changed i.changed).mapError .file, after)
  | .inject file root asked tags annotate =>
    let (r, after) := w.inject root asked (w.path file) tags annotate
    ((r.map fun i => .changed i.changed).mapError fun
      | .document f => .document f
      | .file f => .file f, after)
  | .extract file tags => (((w.extract (w.path file) tags file).map .text).mapError .file, w)
  | .overwrite file content =>
    let (r, after) := w.overwrite (w.path file) content
    ((r.map fun _ => .done).mapError .file, after)
  | .lock file name timeout operation =>
    changeWorkspace w (w.hold name (w.path file) timeout operation)
  | .unlock name =>
    match w.letGo? name with
    | some after => (.ok .done, after)
    | none => (.error (.notHeld name), w)
  | .sidecar file => (.ok (.text (w.path file).sidecar.text), w)
  | .findConfig directory =>
    (((w.findConfig (directoryPath w directory)).map fun p => .path (p.map (·.text))).mapError
      fun f => .file (.access f), w)
  | .loadConfig file directory =>
    (((w.loadConfig (file.map w.path) (directoryPath w directory)).map .config).mapError .config, w)
  | .loadDefinition file =>
    (((w.loadDefinition (w.path file)).map .command).mapError .definition, w)
  | .program args =>
    let (outcome, after) := CommandLine.run registry w args
    (.ok (.outcome outcome), after)

/-- The steps of a session, each with its answer and the workspace behind it. -/
def run (registry : Registry) (w : Workspace) : List Step → List (Except Fault Answer × Workspace)
  | [] => []
  | s :: ss =>
    let r := perform w registry s
    r :: run registry r.2 ss

/-- The workspace behind the last step of a session. -/
def after (registry : Registry) (w : Workspace) : List Step → Workspace
  | [] => w
  | s :: ss => after registry (perform w registry s).2 ss

end Session

end CommandManual
