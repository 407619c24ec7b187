import CommandManual.Workspace.Basic

/-!
# Locks

Two writers must not work on one file at the same time, and the file itself is replaced by each of
them. So the lock belongs to a sidecar file beside it, which is made when the lock is taken and
removed when it is given back.

## Main definitions

* `Path.sidecar`: the path of the sidecar file.
* `Workspace.seize`, `Workspace.acquire`: take a lock.
* `Workspace.hold`, `Workspace.letGo?`: take a lock under a name and keep it, and give it back.

## Implementation notes

A lock belongs to the sidecar file and not to its path: if the sidecar is removed by others, the
next writer makes a new one and gets its lock at once. Giving a lock back discards whatever is in
the sidecar's place.
-/

namespace CommandManual

/-- The path of the file that is locked for another one. -/
def Path.sidecar (p : Path) : Path := p.withName ('.' :: p.name ++ ".lock".toList)

namespace Workspace

/-- Is a time to wait over before it begins? A value that is no number is no time. -/
def isOver? : Value → Option Bool
  | .bool b => some !b
  | .int n => some (n ≤ 0)
  | .float x => some x.isNonpositive
  | _ => none

/-- Can a time to wait be compared with a clock? A whole number may be too large for that. -/
def isInRange : Value → Bool
  | .int n => (Binary64.ofNat? n.natAbs).isSome
  | _ => true

/-- What is being done when a caller does not say. -/
def anyOperation : Text := "file operation".toList

/-- The time to wait when a caller does not say: five seconds. -/
def usualTimeout : Value := .float (Binary64.ofDecimal false 5 0)

variable (w : Workspace)

/-- Is the file with a serial number locked? -/
def isLocked (serial : Nat) : Bool := w.holds.any (·.serial = serial)

/-- Lock the sidecar of a file, which is made if it is not there: its serial number, and the
workspace with it. A lock that another one holds is not given back while one waits, so waiting for
it ends in the fault of a lock that was not free in time. -/
def seize (p : Path) (timeout : Value) (operation : Text) :
    Except FileFault (Nat × Workspace) := do
  let (disk, l) ← (w.disk.touch w.here p.sidecar).mapError .access
  let serial := (disk.serial? l).getD 0
  if !w.isLocked serial then .ok (serial, { w with disk })
  else if isInRange timeout then .error (.locked operation timeout p.sidecar.text)
  else .error .timeoutRange

/-- Take the lock of a file that is there, if there is any time to wait for it. -/
def acquire (p : Path) (timeout : Value) (operation : Text) :
    Except FileFault (Nat × Workspace) := do
  if !(← (w.disk.exists? w.here p).mapError FileFault.access) then .error (.nothingToLock p.text)
  else if p.names.isEmpty then .error (.nameless p.text)
  else match isOver? timeout with
    | none => .error .timeoutKind
    | some true =>
      if timeout.isWritable then .error (.locked operation timeout p.sidecar.text)
      else .error .timeoutDigits
    | some false => w.seize p timeout operation

/-- Give back the lock with a name, if it is held. -/
def letGo? (name : Text) : Option Workspace :=
  (w.holds.find? (·.name = name)).map fun h =>
    { w with holds := w.holds.filter (·.name ≠ name) }.discard h.sidecar

/-- Take the lock of a file and keep it under a name. A lock that was kept under the name is given
back. -/
def hold (name : Text) (p : Path) (timeout : Value) (operation : Text) :
    Except FileFault Workspace := do
  let (serial, w) ← w.acquire p timeout operation
  let w := (w.letGo? name).getD w
  return { w with holds := w.holds ++ [⟨name, p.sidecar, serial⟩] }

end Workspace

end CommandManual
