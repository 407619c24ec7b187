import CommandManual.Disk.Basic
import CommandManual.Disk.Path
import CommandManual.Text.Quoted
import CommandManual.Text.Utf8

/-!
# Access to a disk

A path is followed from name to name, through links, to a place; there the disk can be read and
changed. What cannot be done is refused with the reason and the path as it was given.

## Main definitions

* `Disk.follow`: the place that names lead to.
* `Trouble`, `Refusal`: the reasons of the system.
* `AccessFault`: a refusal and its path. `AccessFault.message`: its wording.
* `Disk.stat`, `Disk.exists?`, `Disk.isFile`, `Disk.read`: look at a path.
* `Disk.write`, `Disk.makeDirectory`, `Disk.makeDirectories`, `Disk.makeDirectoryBelow`,
  `Disk.link`, `Disk.delete`, `Disk.setMode`, `Disk.rename`: change what it leads to.
* `Disk.attempt`: changes one after the other, up to the first that is refused.

## Implementation notes

Every operation has the working directory as its argument `here`. The last name of a path need not
be there; all others must be directories or links to directories. At most forty links are followed.
-/

namespace CommandManual

/-- A reason of the system that nothing on the disk tells: its number and its wording. -/
structure Trouble where
  number : Nat
  wording : Text
  deriving DecidableEq, Repr

/-- Why a path cannot be used. -/
inductive Refusal where
  | notFound
  | exists
  | notDirectory
  | isDirectory
  | nameTooLong
  /-- Too many links are in the way. -/
  | loop
  /-- The path has a null character, which no path may have. -/
  | nullCharacter
  /-- What is to be written is a text without bytes. -/
  | unencodable (wording : Text)
  | trouble (t : Trouble)
  /-- A file that was opened cannot be written on. The path is not told then. -/
  | unwritten (t : Trouble)
  deriving DecidableEq, Repr

namespace Refusal

/-- The number by which the system knows the reason; none if the system is not asked at all. -/
def number? : Refusal → Option Nat
  | .notFound => some 2
  | .exists => some 17
  | .notDirectory => some 20
  | .isDirectory => some 21
  | .nameTooLong => some 36
  | .loop => some 40
  | .nullCharacter | .unencodable _ => none
  | .trouble t | .unwritten t => some t.number

/-- The wording of the reason. -/
def reason : Refusal → Text
  | .notFound => "No such file or directory".toList
  | .exists => "File exists".toList
  | .notDirectory => "Not a directory".toList
  | .isDirectory => "Is a directory".toList
  | .nameTooLong => "File name too long".toList
  | .loop => "Too many levels of symbolic links".toList
  | .nullCharacter => "embedded null byte".toList
  | .unencodable wording => wording
  | .trouble t | .unwritten t => t.wording

/-- Does the wording tell the path? -/
def namesPath : Refusal → Bool
  | .unwritten _ => false
  | _ => true

/-- A reason for a path, with its number if it has one. -/
def describe (r : Refusal) (reason path : Text) : Text :=
  match r.number? with
  | some n =>
    "[Errno ".toList ++ Text.ofNat n ++ "] ".toList ++ reason
      ++ if r.namesPath then ": ".toList ++ path.quoted else []
  | none => reason

end Refusal

/-- A refusal, the path that it is about, and the path that was to lead there, if there is one. -/
structure AccessFault where
  refusal : Refusal
  path : Text
  onto : Option Text := none
  deriving DecidableEq, Repr

/-- The wording of a fault. -/
def AccessFault.message (f : AccessFault) : Text :=
  f.refusal.describe f.refusal.reason f.path
    ++ (f.onto.map fun t => " -> ".toList ++ t.quoted).getD []

/-- A fault about a path that has a null character. -/
def AccessFault.nullCharacter (path : Text) : AccessFault := ⟨.nullCharacter, path, none⟩

namespace Disk

/-! ### Following paths -/

/-- The greatest number of links that are followed. -/
def maxLinks : Nat := 40

/-- The greatest number of bytes in a name. -/
def maxNameBytes : Nat := 255

/-- The greatest number of bytes in a path. -/
def maxPathBytes : Nat := 4095

/-- Why the text of a path is refused before it is followed. -/
def unusable? (path : Text) : Option Refusal :=
  if path.contains '\x00' then some .nullCharacter
  else if maxPathBytes < (Utf8.encode path).length then some .nameTooLong
  else none

/-- The place that names lead to from a directory, with so many links left to be followed. The
last name may be missing, and a link in its place is followed only if `throughLast` says so. -/
def follow (d : Disk) (throughLast : Bool) (links : Nat) (here : Location) (names : List Text) :
    Except Refusal Location :=
  match names with
  | [] => .ok here
  | n :: ns =>
    if n = ['.', '.'] then follow d throughLast links here.dropLast ns
    else if maxNameBytes < (Utf8.encode n).length then .error .nameTooLong
    else match d.node? (here ++ [n]) with
      | none => if ns.isEmpty then .ok (here ++ [n]) else .error .notFound
      | some (.file ..) => if ns.isEmpty then .ok (here ++ [n]) else .error .notDirectory
      | some (.directory _) => follow d throughLast links (here ++ [n]) ns
      | some (.link target) =>
        if ns.isEmpty && !throughLast then .ok (here ++ [n])
        else match links with
          | 0 => .error .loop
          | links + 1 =>
            let p := Path.ofText target
            follow d throughLast links (if p.isAbsolute then [] else here) (p.names ++ ns)
termination_by (links, names.length)

variable (d : Disk) (here : Location)

/-- The place that a path leads to. -/
def locate (p : Path) (throughLast : Bool := true) : Except AccessFault Location :=
  match unusable? p.text with
  | some r => .error ⟨r, p.text, none⟩
  | none =>
    (d.follow throughLast maxLinks (if p.isAbsolute then [] else here) p.names).mapError
      fun r => ⟨r, p.text, none⟩

/-! ### Looking -/

/-- The place that a path leads to, and what is there. -/
def stat (p : Path) : Except AccessFault (Location × Node) := do
  let l ← d.locate here p
  match d.node? l with
  | some n => return (l, n)
  | none => throw ⟨.notFound, p.text, none⟩

/-- Does a node with a property lie behind the path? A path that leads nowhere or has a null
character has none behind it; a name that is too long is refused. -/
def holds (property : Node → Bool) (p : Path) : Except AccessFault Bool :=
  match d.stat here p with
  | .ok (_, n) => .ok (property n)
  | .error f =>
    match f.refusal with
    | .notFound | .notDirectory | .loop | .nullCharacter => .ok false
    | _ => .error f

/-- Is there anything behind the path? -/
def exists? (p : Path) : Except AccessFault Bool := d.holds here (fun _ => true) p

/-- Is a file behind the path? -/
def isFile (p : Path) : Except AccessFault Bool := d.holds here Node.isFile p

/-- Is a directory behind the path, as far as can be seen? -/
def isDirectory (p : Path) : Bool :=
  match d.stat here p with
  | .ok (_, n) => n.isDirectory
  | .error _ => false

/-- The bytes of the file behind a path. -/
def read (p : Path) : Except AccessFault (List UInt8) := do
  match ← d.stat here p with
  | (_, .file bs _) => return bs
  | (_, .directory _) => throw ⟨.isDirectory, p.text, none⟩
  | (_, .link _) => throw ⟨.loop, p.text, none⟩

/-! ### Changing -/

/-- Write the bytes of the file behind a path. The file is made if it is not there. -/
def write (p : Path) (bytes : List UInt8) : Except AccessFault Disk := do
  let l ← d.locate here p
  match d.node? l with
  | none => return d.put l (.file bytes Node.fileMode)
  | some (.file _ m) => return d.put l (.file bytes m)
  | some (.directory _) => throw ⟨.isDirectory, p.text, none⟩
  | some (.link _) => throw ⟨.loop, p.text, none⟩

/-- Open the file behind a path without a change. The file is made if it is not there. -/
def touch (p : Path) : Except AccessFault (Disk × Location) := do
  let l ← d.locate here p
  match d.node? l with
  | none => return (d.put l (.file [] Node.fileMode), l)
  | some (.file ..) => return (d, l)
  | some (.directory _) => throw ⟨.isDirectory, p.text, none⟩
  | some (.link _) => throw ⟨.loop, p.text, none⟩

/-- Put a node into an empty place. -/
def create (p : Path) (n : Node) : Except AccessFault Disk := do
  let l ← d.locate here p false
  if (d.node? l).isSome then throw ⟨.exists, p.text, none⟩
  return d.put l n

/-- Make a directory. -/
def makeDirectory (p : Path) : Except AccessFault Disk :=
  d.create here p (.directory Node.directoryMode)

/-- Make a directory, unless the path leads to one already. -/
def ensureDirectory (p : Path) : Except AccessFault Disk :=
  match d.makeDirectory here p with
  | .ok e => .ok e
  | .error f => if f.refusal ≠ .notFound && d.isDirectory here p then .ok d else .error f

/-- Make a directory and those around it, as far as they are missing. Directories that were made
before something was refused stay. -/
def makeDirectories (p : Path) : Option AccessFault × Disk :=
  match d.ensureDirectory here p with
  | .ok e => (none, e)
  | .error f =>
    if f.refusal = .notFound && !p.names.isEmpty then
      match makeDirectories p.parent with
      | (some g, e) => (some g, e)
      | (none, e) =>
        match e.ensureDirectory here p with
        | .ok e' => (none, e')
        | .error g => (some g, e)
    else (some f, d)
termination_by p.names.length
decreasing_by
  simp only [Path.parent, List.length_dropLast]
  cases h : p.names <;> simp_all

/-- Make a directory; if there is none for it to be in, make that one and those around it first. -/
def makeDirectoryBelow (p : Path) : Option AccessFault × Disk :=
  match d.makeDirectory here p with
  | .ok e => (none, e)
  | .error f =>
    if f.refusal = .notFound then
      match d.makeDirectories here p.parent with
      | (some g, e) => (some g, e)
      | (none, e) =>
        match e.makeDirectory here p with
        | .ok e' => (none, e')
        | .error g => (some g, e)
    else (some f, d)

/-- Make a link to a target. -/
def link (p : Path) (target : Text) : Except AccessFault Disk :=
  let refused (r : Refusal) : AccessFault := ⟨r, target, some p.text⟩
  if target.contains '\x00' || p.text.contains '\x00' then .error (.nullCharacter target)
  else if target.isEmpty then .error (refused .notFound)
  else match unusable? target with
    | some r => .error (refused r)
    | none => (d.create here p (.link target)).mapError fun f => refused f.refusal

/-- Remove a file or a link. -/
def delete (p : Path) : Except AccessFault Disk := do
  let l ← d.locate here p false
  match d.node? l with
  | none => throw ⟨.notFound, p.text, none⟩
  | some (.directory _) => throw ⟨.isDirectory, p.text, none⟩
  | some _ => return d.erase l

/-- Set the permission bits of what is behind a path. -/
def setMode (p : Path) (mode : Nat) : Except AccessFault Disk := do
  let (l, n) ← d.stat here p
  return d.put l (n.withMode mode)

/-- Move a file to another path, where it takes the place of a file or a link. -/
def rename (p q : Path) : Except AccessFault Disk := do
  let k ← d.locate here p false
  let l ← d.locate here q false
  match d.slot? k, d.node? l with
  | none, _ => throw ⟨.notFound, p.text, some q.text⟩
  | some _, some (.directory _) => throw ⟨.isDirectory, p.text, some q.text⟩
  | some s, _ => return d.relocate s l

/-- Changes of a disk one after the other. The first that is refused ends them; what was changed
before it stays. -/
def attempt (d : Disk) : List (Disk → Except AccessFault Disk) → Option AccessFault × Disk
  | [] => (none, d)
  | change :: changes =>
    match change d with
    | .ok e => attempt e changes
    | .error f => (some f, d)

end Disk

end CommandManual
