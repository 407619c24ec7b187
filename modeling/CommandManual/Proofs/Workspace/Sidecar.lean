import CommandManual.Proofs.Workspace.Overwrite
import CommandManual.Workspace.Injection

/-!
# The sidecar while a lock is held

Taking the lock of a file opens its sidecar, and giving the lock back removes it. Between the two
the disk is the old one but for the place of the sidecar. `Guarded` is that state: taking a lock
leads to it, and discarding the sidecar leads out of it.

## Main definitions

* `Workspace.sidecarPlace`: where the sidecar of a file is.
* `Workspace.Leftover`: a sidecar file that nobody holds.
* `Workspace.Guarded`: a disk on which the lock of a file is held.

## Main results

* `Workspace.target_spec`: what the resolved target is.
* `Workspace.guarded_of_acquire`: taking a lock guards the file.
* `Workspace.discard_sidecar`: giving the lock back empties the place of the sidecar.
-/

namespace CommandManual

namespace Workspace

open Disk (Settled IsProper)

variable {w : Workspace} {l : Location}

/-- The place of the sidecar of the file in a place. -/
def sidecarPlace (l : Location) : Location := (pathOf l).sidecar.names

theorem pathOf_sidecarPlace (l : Location) : pathOf (sidecarPlace l) = (pathOf l).sidecar := rfl

theorem sidecarPlace_eq (l : Location) :
    sidecarPlace l = l.dropLast ++ ['.' :: (pathOf l).name ++ ".lock".toList] := rfl

theorem sidecarPlace_ne_nil (l : Location) : sidecarPlace l ≠ [] := by
  simp [sidecarPlace_eq]

/-- A file is not its own sidecar, whose name is longer. -/
theorem sidecarPlace_ne (l : Location) : sidecarPlace l ≠ l := by
  intro h
  have hname := congrArg (fun k => (pathOf k).name.length) h
  have hlock : ".lock".toList.length = 5 := rfl
  rw [pathOf_sidecarPlace, Path.sidecar, Path.name_withName, List.length_append, List.length_cons,
    hlock] at hname
  omega

/-- A sidecar file that nobody holds is in a place. -/
def Leftover (w : Workspace) (k : Location) : Prop :=
  ∃ s, w.disk.slot? k = some s ∧ s.node.isFile = true ∧ w.isLocked s.serial = false

/-- The disk `e` is that of the workspace with the lock of the file in a place held. -/
structure Guarded (w : Workspace) (l : Location) (e : Disk) : Prop where
  settled : Settled e (sidecarPlace l)
  isFile : ∃ bs m, e.node? (sidecarPlace l) = some (.file bs m)
  before : w.disk.slot? (sidecarPlace l) = none ∨ w.Leftover (sidecarPlace l)
  slots : ∀ k, k ≠ sidecarPlace l → e.slot? k = w.disk.slot? k

/-- The directories are there while a lock is held. -/
theorem Guarded.keeps {e : Disk} (h : Guarded w l e) : Disk.KeepsDirectories w.disk e := by
  refine Disk.keepsDirectories_of_ne ?_ h.slots
  intro m hm
  rcases h.before with hnone | ⟨s, hs, hfile, -⟩
  · rw [Disk.node?, if_neg (sidecarPlace_ne_nil l), hnone] at hm
    cases hm
  · rw [Disk.node?, if_neg (sidecarPlace_ne_nil l), hs, Option.map_some, Option.some.injEq] at hm
    rw [hm] at hfile
    cases hfile

/-! ### Targets -/

theorem exists?_spec {d : Disk} {here : Location} {p : Path} (h : d.exists? here p = .ok true) :
    ∃ l n, d.locate here p = .ok l ∧ d.node? l = some n := by
  unfold Disk.exists? Disk.holds at h
  split at h
  · next l n hstat => exact ⟨l, n, Disk.stat_eq_ok_iff.1 hstat⟩
  · split at h <;> cases h

/-- The target of a path is the path of the place that it leads to. -/
theorem target_spec {p t : Path} (h : w.target p = .ok t) :
    ∃ l, w.disk.locate w.here p = .ok l ∧ t = pathOf l := by
  obtain ⟨b, -, h⟩ := Except.bind_eq_ok_iff.1 h
  cases b with
  | false => cases h
  | true =>
    obtain ⟨l, hl, ht⟩ := Except.map_eq_ok_iff.1 (Except.mapError_eq_ok_iff.1 h)
    exact ⟨l, hl, ht.symm⟩

/-! ### Taking a lock -/

/-- What is locked is a sidecar that could be opened and that nobody held. -/
theorem seize_spec {p : Path} {timeout : Value} {operation : Text} {serial : Nat}
    {locked : Workspace} (h : w.seize p timeout operation = .ok (serial, locked)) :
    ∃ disk k, w.disk.touch w.here p.sidecar = .ok (disk, k) ∧
      w.isLocked ((disk.serial? k).getD 0) = false ∧ serial = (disk.serial? k).getD 0 ∧
        locked = { w with disk } := by
  obtain ⟨⟨disk, k⟩, hk, h⟩ := Except.bind_eq_ok_iff.1 h
  rw [Except.mapError_eq_ok_iff] at hk
  refine ⟨disk, k, hk, ?_⟩
  cases hlocked : w.isLocked ((disk.serial? k).getD 0) with
  | true =>
    simp only [hlocked, Bool.not_true, if_neg Bool.false_ne_true] at h
    split at h <;> cases h
  | false =>
    simp only [hlocked, Bool.not_false, if_true] at h
    obtain ⟨rfl, rfl⟩ := Prod.mk.inj (Except.ok.inj h)
    exact ⟨rfl, rfl, rfl⟩

/-- The lock of a file that is there depends on its sidecar, if there is time to wait for it. -/
theorem acquire_eq_seize {p : Path} {timeout : Value}
    (hexists : w.disk.exists? w.here p = .ok true) (hnames : p.names ≠ [])
    (hover : isOver? timeout = some false) (operation : Text) :
    w.acquire p timeout operation = w.seize p timeout operation := by
  rw [acquire, hexists, Except.mapError_ok, Except.ok_bind, hover]
  cases hp : p.names with
  | nil => exact absurd hp hnames
  | cons n ns => rfl

/-- A lock that is taken is that of a file with a name, and there was time to wait for it. -/
theorem seize_of_acquire {p : Path} {timeout : Value} {operation : Text} {r : Nat × Workspace}
    (h : w.acquire p timeout operation = .ok r) :
    w.disk.exists? w.here p = .ok true ∧ p.names ≠ [] ∧ isOver? timeout = some false ∧
      w.seize p timeout operation = .ok r := by
  obtain ⟨b, hb, h⟩ := Except.bind_eq_ok_iff.1 h
  rw [Except.mapError_eq_ok_iff] at hb
  cases b with
  | false => cases h
  | true =>
    rw [Bool.not_true, if_neg Bool.false_ne_true] at h
    split at h
    · cases h
    · next hnames =>
      split at h
      · cases h
      · split at h <;> cases h
      · next hover => exact ⟨hb, fun hnil => hnames (by rw [hnil]; rfl), hover, h⟩

theorem acquire_spec {p : Path} {timeout : Value} {operation : Text} {serial : Nat}
    {locked : Workspace} (h : w.acquire p timeout operation = .ok (serial, locked)) :
    w.disk.exists? w.here p = .ok true ∧ ∃ disk k, w.disk.touch w.here p.sidecar = .ok (disk, k) ∧
      w.isLocked ((disk.serial? k).getD 0) = false ∧ locked = { w with disk } := by
  obtain ⟨hexists, -, -, hseize⟩ := seize_of_acquire h
  obtain ⟨disk, k, hk, hfree, -, hlocked⟩ := seize_spec hseize
  exact ⟨hexists, disk, k, hk, hfree, hlocked⟩

theorem isOver?_usualTimeout : isOver? usualTimeout = some false := by decide +kernel

/-- A sidecar that can be opened and that nobody holds gives the lock. -/
theorem seize_of_touch {p : Path} {disk : Disk} {k : Location}
    (htouch : w.disk.touch w.here p.sidecar = .ok (disk, k))
    (hfree : w.isLocked ((disk.serial? k).getD 0) = false) (timeout : Value) (operation : Text) :
    w.seize p timeout operation = .ok ((disk.serial? k).getD 0, { w with disk }) := by
  rw [seize, htouch, Except.mapError_ok, Except.ok_bind]
  simp only [hfree]
  rfl

/-- The name of a sidecar is no way back up. -/
theorem sidecarName_ne (l : Location) : '.' :: (pathOf l).name ++ ".lock".toList ≠ ['.', '.'] := by
  intro h
  have hlength := congrArg List.length h
  have hlock : ".lock".toList.length = 5 := rfl
  rw [List.length_append, List.length_cons, hlock] at hlength
  simp only [List.length_cons, List.length_nil] at hlength
  omega

/-- Opening a sidecar that nobody holds guards the file. -/
theorem guarded_of_touch (hsettled : Settled w.disk l)
    (plain : ∀ t, w.disk.node? (sidecarPlace l) ≠ some (.link t)) {e : Disk} {k : Location}
    (htouch : w.disk.touch w.here (pathOf l).sidecar = .ok (e, k))
    (hfree : w.isLocked ((e.serial? k).getD 0) = false) : Guarded w l e := by
  obtain ⟨hk, hcases⟩ := Disk.touch_spec htouch
  obtain ⟨rfl, hside⟩ := hsettled.beside (sidecarName_ne l) (fun _ => plain) hk
  rw [← sidecarPlace_eq] at hside hfree hcases
  have hne : sidecarPlace l ≠ [] := sidecarPlace_ne_nil l
  rcases hcases with ⟨hnone, rfl⟩ | ⟨⟨bs, m, hfile⟩, rfl⟩
  · have hslots (k : Location) (hk : k ≠ sidecarPlace l) :
        (w.disk.put (sidecarPlace l) (.file [] Node.fileMode)).slot? k = w.disk.slot? k :=
      Disk.slot?_put_of_ne _ hk
    exact {
      settled := hside.mono (Disk.keepsDirectories_of_ne (by simp [hnone]) hslots)
      isFile := ⟨[], Node.fileMode, Disk.node?_put_self _ hne⟩
      before := .inl (Disk.slot?_eq_none_of_node? hnone)
      slots := hslots }
  · obtain ⟨s, hs, hnode, -⟩ := Disk.slot?_of_node? hne hfile
    refine ⟨hside, ⟨bs, m, hfile⟩, .inr ⟨s, hs, by rw [hnode]; rfl, ?_⟩, fun _ _ => rfl⟩
    rw [Disk.serial?, hs] at hfree
    exact hfree

/-- **Taking a lock guards the file.** The path to be locked must be that of a place that was found,
and no link may be in the place of the sidecar. -/
theorem guarded_of_acquire (found : Disk.Reached w.disk true l)
    (plain : ∀ t, w.disk.node? (sidecarPlace l) ≠ some (.link t)) {timeout : Value}
    {operation : Text} {serial : Nat} {locked : Workspace}
    (h : w.acquire (pathOf l) timeout operation = .ok (serial, locked)) :
    Settled w.disk l ∧ (∃ n, w.disk.node? l = some n) ∧
      ∃ e, locked = { w with disk := e } ∧ Guarded w l e := by
  obtain ⟨hexists, e, k, htouch, hfree, rfl⟩ := acquire_spec h
  obtain ⟨l', n, hl', hn⟩ := exists?_spec hexists
  obtain ⟨rfl, hsettled⟩ := Disk.settled_of_locate found.above (fun n hn => (found.proper n hn).1)
    found.not_link hl'
  exact ⟨hsettled, ⟨n, hn⟩, e, rfl, guarded_of_touch hsettled plain htouch hfree⟩

/-! ### Giving it back -/

/-- **Giving a lock back** empties the place of the sidecar. -/
theorem discard_sidecar {e : Disk} (hs : Settled e (sidecarPlace l)) {bs : List UInt8} {m : Nat}
    (hf : e.node? (sidecarPlace l) = some (.file bs m)) :
    discard { w with disk := e } (pathOf l).sidecar =
      { w with disk := e.erase (sidecarPlace l) } := by
  rw [← pathOf_sidecarPlace, discard, hs.delete hf]

end Workspace

end CommandManual
