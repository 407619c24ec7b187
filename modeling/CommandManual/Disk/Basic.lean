import CommandManual.Text.Basic

/-!
# Disks

A disk is a set of places, each of which is empty or holds a file, a directory or a link. Every
file has a serial number, which tells it from a file that stands in the same place later: a lock
belongs to a file, not to its place.

## Main definitions

* `Location`, `Node`: a place, and what can be in it.
* `Disk.node?`, `Disk.serial?`: what is in a place.
* `Disk.put`, `Disk.renew`, `Disk.erase`: change what is in a place.
* `Disk.relocate`: move what is in a place to another one.

## Main results

* `node?_put`, `node?_renew`, `node?_erase`, `node?_relocate`: a change of a place leaves the others
  alone.
-/

namespace CommandManual

/-- A place on a disk: the names of the directories from the root on, and its own. -/
abbrev Location := List Text

/-- What can be in a place. -/
inductive Node where
  /-- A file has bytes and permission bits. -/
  | file (bytes : List UInt8) (mode : Nat)
  | directory (mode : Nat)
  /-- A link has the text of the path that it leads to. -/
  | link (target : Text)
  deriving DecidableEq, Repr

namespace Node

/-- The permission bits of a new file. -/
def fileMode : Nat := 0o644

/-- The permission bits of a file that only its owner may read. -/
def draftMode : Nat := 0o600

/-- The permission bits of a new directory. -/
def directoryMode : Nat := 0o755

/-- Is the node a directory? -/
def isDirectory : Node → Bool
  | .directory _ => true
  | _ => false

/-- Is the node a file? -/
def isFile : Node → Bool
  | .file .. => true
  | _ => false

/-- The permission bits; links have all of them. -/
def mode : Node → Nat
  | .file _ m | .directory m => m
  | .link _ => 0o777

/-- The node with other permission bits. -/
def withMode (m : Nat) : Node → Node
  | .file bs _ => .file bs m
  | .directory _ => .directory m
  | .link t => .link t

end Node

/-- A place that is not empty. -/
structure Slot where
  place : Location
  node : Node
  serial : Nat

/-- A disk: the places that are not empty, and the next serial number. -/
structure Disk where
  slots : List Slot := []
  nextSerial : Nat := 0

namespace Disk

variable (d : Disk)

/-- The slot of a place. -/
def slot? (l : Location) : Option Slot := d.slots.find? (·.place = l)

/-- What is in a place. The root is always a directory. -/
def node? (l : Location) : Option Node :=
  if l = [] then some (.directory Node.directoryMode) else (d.slot? l).map (·.node)

/-- The serial number of what is in a place. -/
def serial? (l : Location) : Option Nat := (d.slot? l).map (·.serial)

/-- The slots of all places but one. -/
def others (l : Location) : List Slot := d.slots.filter (·.place != l)

/-- Empty a place. -/
def erase (l : Location) : Disk := { d with slots := d.others l }

/-- Put something into a place, and what was there before away. -/
def renew (l : Location) (n : Node) : Disk where
  slots := ⟨l, n, d.nextSerial⟩ :: d.others l
  nextSerial := d.nextSerial + 1

/-- Change what is in a place, or put something into it if it is empty. -/
def put (l : Location) (n : Node) : Disk :=
  match d.serial? l with
  | some s => { d with slots := ⟨l, n, s⟩ :: d.others l }
  | none => d.renew l n

/-- Move what is in a slot to a place, and what was there before away. -/
def relocate (s : Slot) (l : Location) : Disk :=
  let rest := d.erase s.place
  { rest with slots := { s with place := l } :: rest.others l }

/-! ### What a change leaves alone -/

private theorem find?_others (l k : Location) :
    (d.others l).find? (·.place = k) = if k = l then none else d.slot? k := by
  unfold others slot?
  induction d.slots with
  | nil => simp
  | cons s ss ih =>
    by_cases hs : s.place = l
    · by_cases hk : k = l
      · simp_all
      · have : ¬ l = k := fun e => hk e.symm
        simp_all
    · by_cases hk : s.place = k
      · have : ¬ k = l := fun e => hs (hk.trans e)
        simp_all
      · simp_all

theorem slot?_erase (l k : Location) :
    (d.erase l).slot? k = if k = l then none else d.slot? k :=
  d.find?_others l k

theorem slot?_renew (l k : Location) (n : Node) :
    (d.renew l n).slot? k = if k = l then some ⟨l, n, d.nextSerial⟩ else d.slot? k := by
  by_cases h : k = l
  · subst h; simp [slot?, renew]
  · have h' : ¬ l = k := fun e => h e.symm
    have hf := d.find?_others l k
    simp_all [slot?, renew]

theorem node?_renew {l k : Location} (n : Node) (h : k ≠ []) :
    (d.renew l n).node? k = if k = l then some n else d.node? k := by
  simp only [node?, h, if_false, slot?_renew]
  split <;> simp

theorem node?_put {l k : Location} (n : Node) (h : k ≠ []) :
    (d.put l n).node? k = if k = l then some n else d.node? k := by
  unfold put
  split
  · by_cases hk : k = l
    · subst hk; simp [node?, slot?, h]
    · have h' : ¬ l = k := fun e => hk e.symm
      have hf := d.find?_others l k
      simp_all [node?, slot?]
  · exact node?_renew d n h

theorem slot?_relocate (s : Slot) (l k : Location) :
    (d.relocate s l).slot? k =
      if k = l then some { s with place := l } else if k = s.place then none else d.slot? k := by
  by_cases h : k = l
  · subst h; simp [slot?, relocate]
  · have h' : ¬ l = k := fun e => h e.symm
    have hf := (d.erase s.place).find?_others l k
    have he := d.slot?_erase s.place k
    simp_all [slot?, relocate]

theorem node?_relocate {s : Slot} {l k : Location} (h : k ≠ []) :
    (d.relocate s l).node? k =
      if k = l then some s.node else if k = s.place then none else d.node? k := by
  simp only [node?, h, if_false, slot?_relocate]
  split
  · simp
  · split <;> simp

end Disk

end CommandManual
