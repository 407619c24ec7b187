import CommandManual.Disk.Access
import CommandManual.Region
import CommandManual.Value.Printed
import CommandManual.Value.SetOrder

/-!
# Workspaces

A workspace is a disk, the directory in which work is done, the locks that are held, and the home
directories of users. What is done in it fails with one of the causes below.

## Main definitions

* `Hold`, `Workspace`: a held lock, and a workspace.
* `Mishap`: what goes wrong with a draft.
* `FileFault`: why work on a file fails. `FileFault.message`: its wording.
* `Workspace.path`: a path below the working directory.
* `Workspace.fromHome?`: a path whose first name may stand for a home directory.
* `Workspace.readText`, `Workspace.overwrite`: the text of a file, and a new file in its place.
* `Workspace.discard`: remove a file if that can be done.
-/

namespace CommandManual

/-- A held lock: its name, the path of its sidecar file, and the serial number of the file that is
locked. -/
structure Hold where
  name : Text
  sidecar : Path
  serial : Nat

/-- What goes wrong with a draft that is to take the place of a file. -/
inductive Mishap where
  /-- The text has no bytes, as the wording says. -/
  | unencodable (wording : Text)
  /-- Some of the bytes are written, and then no more. -/
  | write (written : Nat) (t : Trouble)
  /-- The permission bits cannot be set. -/
  | setMode (t : Trouble)
  /-- The draft cannot be moved. -/
  | rename (t : Trouble)

/-- A disk, the working directory, the locks that are held, and the home directories by the names of
their owners. The home directory of the current user has the empty name. The rest is what the disk
does not tell: the order of sets, and what goes wrong with a draft, by its serial number. -/
structure Workspace where
  disk : Disk
  here : Location
  holds : List Hold := []
  homes : List (Text × Path) := []
  setOrder : SetOrder := .byRemainder
  mishap? : Nat → Option Mishap := fun _ => none

/-- Why work on a file fails. -/
inductive FileFault where
  | access (f : AccessFault)
  /-- The file whose region is to be replaced is not there. -/
  | noTarget (path : Text)
  /-- The file that is to be locked is not there. -/
  | nothingToLock (path : Text)
  /-- The lock was not free in time. -/
  | locked (operation : Text) (timeout : Value) (sidecar : Text)
  /-- A path without a name has none for a sidecar file. -/
  | nameless (path : Text)
  /-- The time to wait is not a number. -/
  | timeoutKind
  /-- The time to wait is too long to be compared with a clock. -/
  | timeoutRange
  /-- The time to wait has too many digits to be written in a message. -/
  | timeoutDigits
  | encoding (f : Utf8.Fault)
  | tags (f : Tags.Fault)
  | missingTag (m : MissingTag) (source : Text)

/-- The wording of a fault; a time to wait that is not a number has none. -/
def FileFault.message : FileFault → Text
  | .access f => f.message
  | .noTarget path =>
    Refusal.notFound.describe "Target file not found".toList path
  | .nothingToLock path => "File does not exist: ".toList ++ path
  | .locked operation timeout sidecar =>
    "Failed to acquire file lock for ".toList ++ operation ++ " after ".toList ++ timeout.shown
      ++ " seconds. Lock: ".toList ++ sidecar
      ++ ". Another process may be holding the lock.".toList
  | .nameless path => "PosixPath(".toList ++ path.quoted ++ ") has an empty name".toList
  | .timeoutKind => []
  | .timeoutRange => "int too large to convert to float".toList
  | .timeoutDigits => unwritableMessage
  | .encoding f => f.message
  | .tags f => f.message
  | .missingTag m source => m.message source

namespace Workspace

variable (w : Workspace)

/-- The path of a place. -/
def pathOf (l : Location) : Path := ⟨['/'], l⟩

/-- A path below the working directory, in full. -/
def path (name : Text) : Path :=
  let p := Path.ofText name
  { pathOf w.here with names := w.here ++ p.names }

/-- The path with a home directory in place of its first name, if that begins with a tilde and the
path begins at the working directory. Nothing if there is no such home directory. -/
def fromHome? (p : Path) : Option Path :=
  match p.isAbsolute, p.names with
  | false, ('~' :: owner) :: names =>
    (w.homes.lookup owner).map fun home => { home with names := home.names ++ names }
  | _, _ => some p

/-- The path of the place that a path leads to. -/
def resolve (p : Path) : Except AccessFault Path := (w.disk.locate w.here p).map pathOf

/-- The text of a file. -/
def readText (p : Path) : Except FileFault Text := do
  let bytes ← (w.disk.read w.here p).mapError .access
  (Utf8.decode bytes).mapError .encoding

/-- A path for the file that takes in new content before it takes the place of the old one. There is
one for every number, so that one of them is free. -/
def draft (p : Path) (n : Nat) : Path :=
  let number := Text.ofNat n
  p.withName ('.' :: p.name ++ '.' :: List.replicate (8 - number.length) '0' ++ number
    ++ ".tmp".toList)

/-- Make an empty file beside a path, under the first free one of the draft names from a number
on. At most so many are tried. -/
def createDraft (p : Path) : (tries n : Nat) → Except AccessFault (Path × Disk)
  | 0, n => .error ⟨.exists, (draft p n).text, none⟩
  | tries + 1, n =>
    match w.disk.create w.here (draft p n) (.file [] Node.draftMode) with
    | .ok disk => .ok (draft p n, disk)
    | .error f => if f.refusal = .exists then createDraft p tries (n + 1) else .error f

/-- Remove a file; what cannot be removed stays. -/
def discard (p : Path) : Workspace :=
  match w.disk.delete w.here p with
  | .ok disk => { w with disk }
  | .error _ => w

/-- The steps by which a draft takes in some bytes, is given permission bits and takes the place of
a file. A mishap ends them early. -/
def draftSteps (q p : Path) (bytes : List UInt8) (mode : Nat) :
    Option Mishap → List (Disk → Except AccessFault Disk)
  | none => [(·.write w.here q bytes), (·.setMode w.here q mode), (·.rename w.here q p)]
  | some (.unencodable wording) => [fun _ => .error ⟨.unencodable wording, q.text, none⟩]
  | some (.write written t) =>
    [(·.write w.here q (bytes.take written)), fun _ => .error ⟨.unwritten t, q.text, none⟩]
  | some (.setMode t) => [(·.write w.here q bytes), fun _ => .error ⟨.trouble t, q.text, none⟩]
  | some (.rename t) =>
    [(·.write w.here q bytes), (·.setMode w.here q mode),
      fun _ => .error ⟨.trouble t, q.text, some p.text⟩]

/-- Put a new file with a text in the place of an old one: a draft beside it takes in the text, is
given the permission bits of the old file, and takes its place. If any of that fails, the draft is
removed. -/
def overwrite (p : Path) (t : Text) : Except FileFault Unit × Workspace :=
  match w.disk.stat w.here p with
  | .error f => (.error (.access f), w)
  | .ok (_, old) =>
    match w.createDraft p (w.disk.slots.length + 1) 0 with
    | .error f => (.error (.access f), w)
    | .ok (q, disk) =>
      let mishap := w.mishap? w.disk.nextSerial
      match disk.attempt (w.draftSteps q p (Utf8.encode t) old.mode mishap) with
      | (none, disk) => (.ok (), { w with disk })
      | (some f, disk) => (.error (.access f), discard { w with disk } q)

end Workspace

end CommandManual
