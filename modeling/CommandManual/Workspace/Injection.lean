import CommandManual.Document.Render
import CommandManual.Workspace.Lock

/-!
# Injection of documents

The generated region of a file is read, and replaced while the lock of the file is held. A file
that has the text already is left alone, and a failure leaves everything as it was.

## Main definitions

* `Workspace.extract`: what the region of a file holds.
* `Workspace.replaceRegion`: put a document into the region of a file.
* `Workspace.inject`: put the tabular document of a tree of commands there.
-/

namespace CommandManual

/-- A finished injection: the path of the file, links followed, and whether it was changed. -/
structure Injection where
  path : Text
  changed : Bool
  deriving DecidableEq, Repr

/-- Why no document is injected. -/
inductive InjectionFault where
  | document (f : DocumentFault)
  | file (f : FileFault)

namespace Workspace

variable (w : Workspace)

/-- What the region of a file holds; `source` names the file in messages. -/
def extract (p : Path) (tags : List Text) (source : Text) : Except FileFault Text := do
  let content ← w.readText p
  let tags ← (Tags.ofList tags).mapError .tags
  (Region.extract tags content).mapError (.missingTag · source)

/-- The path of the file whose region is to be replaced, links followed. -/
def target (p : Path) : Except FileFault Path := do
  if !(← (w.disk.exists? w.here p).mapError FileFault.access) then throw (.noTarget p.text)
  (w.resolve p).mapError .access

/-- Put a text into the region of a file, unless it is there already. -/
def patchRegion (p : Path) (tags : Tags) (block : Text) : Except FileFault Bool × Workspace :=
  match w.readText p with
  | .error f => (.error f, w)
  | .ok content =>
    match Region.replace tags block content with
    | .error m => (.error (.missingTag m p.text), w)
    | .ok updated =>
      if updated = content then (.ok false, w)
      else
        let (r, after) := w.overwrite p updated
        (r.map fun _ => true, after)

/-- What is being done while a region is replaced. -/
def injecting : Text := "documentation injection".toList

/-- The fault of taking a lock, where a file that is missing is the one to be changed. -/
def asTargetFault (p : Path) : FileFault → FileFault
  | .nothingToLock _ => .noTarget p.text
  | .access f => if f.refusal = .notFound then .noTarget p.text else .access f
  | f => f

/-- Put a document into the region of a file while its lock is held. The workspace is given back
also if that fails, because a sidecar file nobody holds is removed then. -/
def replaceRegion (p : Path) (document : Text) (tags : List Text) (annotate : Bool)
    (timeout : Value) : Except FileFault Injection × Workspace :=
  match (Tags.ofList tags).mapError FileFault.tags, w.target p with
  | .error f, _ | .ok _, .error f => (.error f, w)
  | .ok tags, .ok target =>
    match (w.acquire target timeout injecting).mapError (asTargetFault target) with
    | .error f => (.error f, w)
    | .ok (_, locked) =>
      let (r, after) := locked.patchRegion target tags (generatedBlock annotate document)
      (r.map (⟨target.text, ·⟩), after.discard target.sidecar)

/-- Put the tabular document of a tree of commands into the region of a file. -/
def inject (root : Command) (asked : Text) (p : Path) (tags : List Text) (annotate : Bool) :
    Except InjectionFault Injection × Workspace :=
  match renderTabular none root asked with
  | .error f => (.error (.document f), w)
  | .ok document =>
    let (r, after) := w.replaceRegion p document tags annotate usualTimeout
    (r.mapError .file, after)

end Workspace

end CommandManual
