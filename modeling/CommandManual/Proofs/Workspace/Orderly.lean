import CommandManual.Proofs.Disk.Way
import CommandManual.Proofs.Workspace.Development
import CommandManual.Proofs.Workspace.Frame
import Mathlib.Data.List.Nodup

/-!
# Workspaces whose locks are in order

A lock that is held is a sidecar file, which has the serial number that is locked. In an orderly
workspace there are no other sidecars, and no two locks have the same one. Whether a lock is free
can then be told from the disk. What is written into a sidecar does not matter, as long as it is the
same file.

An injection takes the lock of its file and gives it back, so that it leaves every sidecar as it is.
It could only replace one that it is told to write into, but there is no region in an empty file.

The path of a sidecar leads to it through directories only. So it still leads there when the lock is
given back, whatever has become of the file that is locked.

## Main definitions

* `Slot.blank`: a slot without what is written in its file.
* `Workspace.IsSidecar`: a place with the name of a sidecar.
* `Workspace.Holds`: the lock of the file in a place is held under a name.
* `Workspace.Orderly`: the locks of a workspace are in order.

## Main results

* `Workspace.Orderly.develop`, `Workspace.Orderly.letGo`, `Workspace.Orderly.hold`: the steps that
  keep the order.
* `Workspace.Orderly.slot?_replaceRegion`: an injection leaves the sidecars alone.
-/

namespace CommandManual

open Disk (IsOpen IsProper Leads Settled)

/-! ### Files without what is written in them -/

/-- The node without what is written in it, if it is a file. -/
def Node.blank : Node → Node
  | .file _ mode => .file [] mode
  | n => n

/-- The slot without what is written in its file. -/
def Slot.blank (s : Slot) : Slot := { s with node := s.node.blank }

/-- A slot is that of a file if it is without what is written. -/
theorem Slot.exists_file_of_blank {s : Slot} {k : Location} {bytes : List UInt8} {mode serial : Nat}
    (h : s.blank = (Slot.mk k (.file bytes mode) serial).blank) :
    ∃ bytes', s = ⟨k, .file bytes' mode, serial⟩ := by
  obtain ⟨place, node, serial'⟩ := s
  obtain ⟨rfl, hnode, rfl⟩ := Slot.mk.inj h
  cases node with
  | file bytes' mode' => exact ⟨bytes', by rw [(Node.file.inj hnode).2]⟩
  | directory mode' => cases hnode
  | link target => cases hnode

namespace Workspace

variable {w after : Workspace} {l k : Location} {p : Path} {name : Text}

/-! ### Sidecars -/

/-- A place with a name of the form of a sidecar's. -/
def IsSidecar (k : Location) : Prop :=
  ∃ (directory : Location) (n : Text), k = directory ++ ['.' :: n ++ ".lock".toList]

theorem isSidecar_sidecarPlace (l : Location) : IsSidecar (sidecarPlace l) := ⟨_, _, rfl⟩

theorem IsSidecar.ne_nil (h : IsSidecar k) : k ≠ [] := by
  obtain ⟨directory, n, rfl⟩ := h
  simp

theorem sidecarPlace_append (directory : Location) (n : Text) :
    sidecarPlace (directory ++ [n]) = directory ++ ['.' :: n ++ ".lock".toList] := by
  simp [sidecarPlace_eq, pathOf, Path.name]

/-- A place is known by its sidecar. -/
theorem sidecarPlace_injective (hl : l ≠ []) (hk : k ≠ []) (h : sidecarPlace l = sidecarPlace k) :
    l = k := by
  rcases List.eq_nil_or_concat l with rfl | ⟨i, m, rfl⟩
  · exact absurd rfl hl
  rcases List.eq_nil_or_concat k with rfl | ⟨j, n, rfl⟩
  · exact absurd rfl hk
  rw [List.concat_eq_append, List.concat_eq_append] at h ⊢
  rw [sidecarPlace_append, sidecarPlace_append] at h
  obtain ⟨rfl, hname⟩ := List.append_inj' h rfl
  rw [List.singleton_inj, List.append_cancel_right_eq, List.cons.injEq] at hname
  rw [hname.2]

/-- The lock of the file in a place is held under a name. -/
def Holds (w : Workspace) (name : Text) (l : Location) : Prop :=
  l ≠ [] ∧ ∃ h ∈ w.holds, h.name = name ∧
    w.disk.locate w.here h.sidecar false = .ok (sidecarPlace l)

end Workspace

/-! ### The order -/

open Workspace (IsSidecar)

/-- A lock is held: its path leads to its sidecar, a file with the serial number that is locked. -/
structure Hold.Kept (h : Hold) (d : Disk) (k : Location) : Prop where
  isSidecar : IsSidecar k
  leads : Leads d h.sidecar k
  slot : ∃ bytes mode, d.slot? k = some ⟨k, .file bytes mode, h.serial⟩

/-- The sidecar of a held lock is a file. -/
theorem Hold.Kept.node? {h : Hold} {d : Disk} {k : Location} (hkept : h.Kept d k) :
    ∃ bytes mode, d.node? k = some (.file bytes mode) := by
  obtain ⟨bytes, mode, hslot⟩ := hkept.slot
  refine ⟨bytes, mode, ?_⟩
  rw [Disk.node?, if_neg hkept.isSidecar.ne_nil, hslot]
  rfl

/-- A held lock has a sidecar. -/
theorem Hold.Kept.slot?_ne_none {h : Hold} {d : Disk} {k : Location} (hkept : h.Kept d k) :
    d.slot? k ≠ none := by
  obtain ⟨bytes, mode, hslot⟩ := hkept.slot
  rw [hslot]
  exact Option.some_ne_none _

namespace Workspace

variable {w after : Workspace} {l k : Location} {p : Path} {name : Text}

/-- The locks of a workspace are in order. -/
structure Orderly (w : Workspace) : Prop where
  here : IsOpen w.disk w.here
  /-- The names of the locks are different. -/
  nodup : (w.holds.map (·.name)).Nodup
  /-- Each lock has its sidecar. -/
  kept : ∀ h ∈ w.holds, ∃ k, h.Kept w.disk k
  /-- New files have other serial numbers than the sidecars of the locks. -/
  serial : ∀ h ∈ w.holds, h.serial < w.disk.nextSerial
  /-- No two locks have the same sidecar. -/
  apart : ∀ h ∈ w.holds, ∀ h' ∈ w.holds, ∀ k, Leads w.disk h.sidecar k →
    Leads w.disk h'.sidecar k → h.name = h'.name
  /-- There is no sidecar but those of the locks. -/
  occupied : ∀ k, IsSidecar k → w.disk.slot? k ≠ none → ∃ h ∈ w.holds, h.Kept w.disk k

namespace Orderly

/-- A lock is known by its name. -/
theorem eq_of_name (hw : Orderly w) {h h' : Hold} (hh : h ∈ w.holds) (hh' : h' ∈ w.holds)
    (hname : h.name = h'.name) : h = h' :=
  List.inj_on_of_nodup_map hw.nodup hh hh' hname

/-- What is in the place of a sidecar is no link. -/
theorem ne_link (hw : Orderly w) (hk : IsSidecar k) (t : Text) :
    w.disk.node? k ≠ some (.link t) := by
  intro hn
  obtain ⟨s, hs, -, -⟩ := Disk.slot?_of_node? hk.ne_nil hn
  obtain ⟨h, -, hkept⟩ := hw.occupied k hk (by simp [hs])
  obtain ⟨bytes, mode, hfile⟩ := hkept.node?
  rw [hfile] at hn
  cases hn

/-- No sidecar is left over from others. -/
theorem not_leftover (hw : Orderly w) (hk : IsSidecar k) : ¬w.Leftover k := by
  rintro ⟨s, hs, -, hfree⟩
  obtain ⟨h, hh, hkept⟩ := hw.occupied k hk (by simp [hs])
  obtain ⟨bytes, mode, hslot⟩ := hkept.slot
  obtain rfl := Option.some.inj (hs.symm.trans hslot)
  have hlocked : w.isLocked h.serial = true := List.any_eq_true.2 ⟨h, hh, by simp⟩
  rw [hfree] at hlocked
  cases hlocked

/-! ### Steps that keep the order -/

/-- Where a lock's path leads does not change. -/
theorem leads_of_mono (hw : Orderly w) {e : Disk} (hk : Disk.KeepsDirectories w.disk e) {h : Hold}
    (hh : h ∈ w.holds) (hleads : Leads e h.sidecar k) : Leads w.disk h.sidecar k := by
  obtain ⟨j, hkept⟩ := hw.kept h hh
  exact hleads.unique (hkept.leads.mono hk) ▸ hkept.leads

/-- **A workspace stays in order** if the sidecars stay, whatever is written into them. -/
theorem develop (hw : Orderly w) (hd : Develops w after) (hs : ∀ k, IsSidecar k →
    (after.disk.slot? k).map Slot.blank = (w.disk.slot? k).map Slot.blank) : Orderly after := by
  have hkeep := hd.grows.directories
  rw [hd.rest]
  have hstay {h : Hold} {k : Location} (hkept : h.Kept w.disk k) : h.Kept after.disk k := by
    obtain ⟨bytes, mode, hslot⟩ := hkept.slot
    have hblank := hs k hkept.isSidecar
    rw [hslot] at hblank
    obtain ⟨s, hafter, hs⟩ := Option.map_eq_some_iff.1 hblank
    obtain ⟨bytes', rfl⟩ := Slot.exists_file_of_blank hs
    exact ⟨hkept.isSidecar, hkept.leads.mono hkeep, bytes', mode, hafter⟩
  exact {
    here := hw.here.mono hkeep
    nodup := hw.nodup
    kept := fun h hh => (hw.kept h hh).imp fun k => hstay
    serial := fun h hh => Nat.lt_of_lt_of_le (hw.serial h hh) hd.grows.nextSerial
    apart := fun h hh h' hh' k hk hk' =>
      hw.apart h hh h' hh' k (hw.leads_of_mono hkeep hh hk) (hw.leads_of_mono hkeep hh' hk')
    occupied := fun k hk hne => by
      have hbefore : w.disk.slot? k ≠ none := by
        intro hnone
        have hblank := hs k hk
        rw [hnone] at hblank
        exact hne (Option.map_eq_none_iff.1 hblank)
      obtain ⟨h, hh, hkept⟩ := hw.occupied k hk hbefore
      exact ⟨h, hh, hstay hkept⟩ }

/-- What giving back a lock does: its sidecar is removed, and the other locks stay. -/
theorem letGo?_eq (hw : Orderly w) {h : Hold} (hh : h ∈ w.holds) (hkept : h.Kept w.disk k) :
    w.letGo? h.name = some { w with
      disk := w.disk.erase k, holds := w.holds.filter (·.name ≠ h.name) } := by
  obtain ⟨bytes, mode, hfile⟩ := hkept.node?
  have hdelete : w.disk.delete w.here h.sidecar = .ok (w.disk.erase k) := by
    refine Except.bind_eq_ok_iff.2 ⟨k, hkept.leads.locate w.here Bool.noConfusion, ?_⟩
    rw [hfile]
    rfl
  have hfound : w.holds.find? (·.name = h.name) = some h := by
    cases hfind : w.holds.find? (·.name = h.name) with
    | none => exact absurd (List.find?_eq_none.1 hfind h hh) (by simp)
    | some h' =>
      have hname : h'.name = h.name := by simpa using List.find?_some hfind
      rw [hw.eq_of_name (List.mem_of_find?_eq_some hfind) hh hname]
  rw [letGo?, hfound, Option.map_some, discard, hdelete]

/-- **A workspace stays in order** when a lock is given back. -/
theorem letGo (hw : Orderly w) {h : Hold} (hh : h ∈ w.holds) (hkept : h.Kept w.disk k) :
    Orderly { w with
      disk := w.disk.erase k, holds := w.holds.filter (·.name ≠ h.name) } := by
  obtain ⟨bytes, mode, hfile⟩ := hkept.node?
  have hgrows : w.disk.Grows (w.disk.erase k) := Disk.grows_erase (by simp [hfile])
  have hmem {h' : Hold} : h' ∈ w.holds.filter (·.name ≠ h.name) ↔
      h' ∈ w.holds ∧ h'.name ≠ h.name := by simp
  -- A lock with another name has another sidecar, so that it still has it.
  have hstay {h' : Hold} {j : Location} (hh' : h' ∈ w.holds) (hne : h'.name ≠ h.name)
      (hkept' : h'.Kept w.disk j) : h'.Kept (w.disk.erase k) j := by
    refine ⟨hkept'.isSidecar, hkept'.leads.mono hgrows.directories, ?_⟩
    have hj : j ≠ k := by
      rintro rfl
      exact hne (hw.apart h' hh' h hh j hkept'.leads hkept.leads)
    rw [Disk.slot?_erase, if_neg hj]
    exact hkept'.slot
  refine {
    here := hw.here.mono hgrows.directories
    nodup := hw.nodup.sublist (List.filter_sublist.map _)
    kept := fun h' hh' => ?_
    serial := fun h' hh' => hw.serial h' (hmem.1 hh').1
    apart := fun h' hh' h'' hh'' j hj hj' =>
      hw.apart h' (hmem.1 hh').1 h'' (hmem.1 hh'').1 j
        (hw.leads_of_mono hgrows.directories (hmem.1 hh').1 hj)
        (hw.leads_of_mono hgrows.directories (hmem.1 hh'').1 hj')
    occupied := fun j hj hne => ?_ }
  · obtain ⟨hh', hne⟩ := hmem.1 hh'
    exact (hw.kept h' hh').imp fun j => hstay hh' hne
  · change (w.disk.erase k).slot? j ≠ none at hne
    rw [Disk.slot?_erase] at hne
    split at hne
    · exact absurd rfl hne
    · next hjk =>
      obtain ⟨h', hh', hkept'⟩ := hw.occupied j hj hne
      have hname : h'.name ≠ h.name := by
        intro hname
        obtain rfl := hw.eq_of_name hh' hh hname
        exact hjk (hkept'.leads.unique hkept.leads)
      exact ⟨h', hmem.2 ⟨hh', hname⟩, hstay hh' hname hkept'⟩

/-- **A workspace stays in order** when a new sidecar is made and locked under a new name. -/
theorem hold (hw : Orderly w) {sidecar : Path} (hk : IsSidecar k)
    (hleads : Leads w.disk sidecar k) (hnone : w.disk.node? k = none)
    (hname : ∀ h ∈ w.holds, h.name ≠ name) :
    Orderly { w with
      disk := w.disk.put k (.file [] Node.fileMode)
      holds := w.holds ++ [⟨name, sidecar, w.disk.nextSerial⟩] } := by
  have hempty : w.disk.slot? k = none := Disk.slot?_eq_none_of_node? hnone
  have hgrows : w.disk.Grows (w.disk.put k (.file [] Node.fileMode)) :=
    Disk.grows_put_of_ne _ (by simp [hnone])
  have hrenew := Disk.put_eq_renew (.file [] Node.fileMode) hnone
  have hnew : Hold.Kept ⟨name, sidecar, w.disk.nextSerial⟩
      (w.disk.put k (.file [] Node.fileMode)) k := by
    refine ⟨hk, hleads.mono hgrows.directories, [], Node.fileMode, ?_⟩
    rw [hrenew, Disk.slot?_renew, if_pos rfl]
  have hstay {h : Hold} {j : Location} (hkept : h.Kept w.disk j) :
      h.Kept (w.disk.put k (.file [] Node.fileMode)) j := by
    refine ⟨hkept.isSidecar, hkept.leads.mono hgrows.directories, ?_⟩
    have hj : j ≠ k := by
      rintro rfl
      exact hkept.slot?_ne_none hempty
    rw [Disk.slot?_put_of_ne _ hj]
    exact hkept.slot
  -- The sidecar of a lock is not the new one, because it was there before.
  have hother {h : Hold} (hh : h ∈ w.holds)
      (hl : Leads (w.disk.put k (.file [] Node.fileMode)) h.sidecar k) : False := by
    obtain ⟨j, hkept⟩ := hw.kept h hh
    obtain rfl := hkept.leads.unique (hw.leads_of_mono hgrows.directories hh hl)
    exact hkept.slot?_ne_none hempty
  have hmem {h : Hold} : h ∈ w.holds ++ [⟨name, sidecar, w.disk.nextSerial⟩] ↔
      h ∈ w.holds ∨ h = ⟨name, sidecar, w.disk.nextSerial⟩ := by simp
  refine {
    here := hw.here.mono hgrows.directories
    nodup := ?_
    kept := fun h hh => ?_
    serial := fun h hh => ?_
    apart := fun h hh h' hh' j hj hj' => ?_
    occupied := fun j hj hne => ?_ }
  · rw [List.map_append, List.nodup_append]
    refine ⟨hw.nodup, by simp, fun a ha b hb => ?_⟩
    obtain ⟨h, hh, rfl⟩ := List.mem_map.1 ha
    obtain rfl : b = name := by simpa using hb
    exact hname h hh
  · rcases hmem.1 hh with hh | rfl
    · exact (hw.kept h hh).imp fun j => hstay
    · exact ⟨k, hnew⟩
  · change h.serial < (w.disk.put k (.file [] Node.fileMode)).nextSerial
    rw [hrenew]
    rcases hmem.1 hh with hh | rfl
    · exact Nat.lt_succ_of_lt (hw.serial h hh)
    · exact Nat.lt_succ_self _
  · rcases hmem.1 hh with hh | rfl <;> rcases hmem.1 hh' with hh' | rfl
    · exact hw.apart h hh h' hh' j (hw.leads_of_mono hgrows.directories hh hj)
        (hw.leads_of_mono hgrows.directories hh' hj')
    · exact (hother hh (hj'.unique hnew.leads ▸ hj)).elim
    · exact (hother hh' (hj.unique hnew.leads ▸ hj')).elim
    · rfl
  · by_cases hjk : j = k
    · exact ⟨_, hmem.2 (.inr rfl), hjk ▸ hnew⟩
    · change (w.disk.put k (.file [] Node.fileMode)).slot? j ≠ none at hne
      rw [Disk.slot?_put_of_ne _ hjk] at hne
      obtain ⟨h, hh, hkept⟩ := hw.occupied j hj hne
      exact ⟨h, hmem.2 (.inl hh), hstay hkept⟩

/-! ### Injections -/

/-- What is kept by an injection and has the name of a sidecar is as it was. -/
theorem slot?_of_kept (hw : Orderly w) (hk : IsSidecar k) {e : Disk} (h : w.Kept p e k) :
    e.slot? k = w.disk.slot? k := by
  rcases h with h | ⟨-, h, -⟩
  · exact h
  · exact absurd h (hw.not_leftover hk)

/-- There is no region in an empty file. -/
theorem not_replaced {tags : Tags} {block : Text} {e : Disk}
    (hempty : ∀ bytes mode, w.disk.node? k = some (.file bytes mode) → bytes = []) :
    ¬Replaced tags block w.disk e k := by
  rintro ⟨c, mode, hfile, -, -⟩
  have hbytes := hempty _ _ hfile
  rw [← Utf8.encode_nil] at hbytes
  exact c.text_ne_nil (Utf8.encode_injective hbytes)

/-- **An injection leaves the sidecars alone.** One that it is told to write into must be empty. -/
theorem slot?_replaceRegion (hw : Orderly w) (hempty : ∀ k bytes mode, IsSidecar k →
      w.disk.locate w.here p = .ok k → w.disk.node? k = some (.file bytes mode) → bytes = [])
    (document : Text) (tags : List Text) (annotate : Bool) (timeout : Value) (hk : IsSidecar k) :
    (w.replaceRegion p document tags annotate timeout).2.disk.slot? k = w.disk.slot? k := by
  have plain : ∀ t, w.target p = .ok t → ∀ s, w.disk.node? t.sidecar.names ≠ some (.link s) := by
    intro t ht
    obtain ⟨l, -, rfl⟩ := target_spec ht
    exact hw.ne_link (isSidecar_sidecarPlace l)
  obtain ⟨r, e, hr, hcases⟩ := replaceRegion_spec (fun _ => hw.here.reached_of_locate) plain
    document tags annotate timeout
  rw [hr]
  rcases hcases with ⟨-, hkept⟩ | ⟨l, pair, -, hl, -, hreplaced, hkept⟩
  · exact hw.slot?_of_kept hk (hkept k)
  · by_cases hkl : k = l
    · subst hkl
      exact absurd hreplaced (not_replaced fun bytes mode => hempty k bytes mode hk hl)
    · exact hw.slot?_of_kept hk (hkept k hkl)

theorem replaceRegion (hw : Orderly w) (hempty : ∀ k bytes mode, IsSidecar k →
      w.disk.locate w.here p = .ok k → w.disk.node? k = some (.file bytes mode) → bytes = [])
    (document : Text) (tags : List Text) (annotate : Bool) (timeout : Value) :
    Orderly (w.replaceRegion p document tags annotate timeout).2 :=
  hw.develop (w.develops_replaceRegion p document tags annotate timeout) fun _ hk =>
    congrArg _ (hw.slot?_replaceRegion hempty document tags annotate timeout hk)

end Orderly

end Workspace

end CommandManual
