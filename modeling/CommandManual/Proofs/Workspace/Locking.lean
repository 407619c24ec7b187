import CommandManual.Proofs.Workspace.Agreement
import CommandManual.Proofs.Workspace.Orderly

/-!
# Taking locks in order

In an orderly workspace the lock of a file is free if and only if there is nothing in the place of
its sidecar. So what becomes of an attempt to take it is decided by who holds it: if somebody does,
the attempt fails and leaves the workspace alone, and if nobody does, it succeeds.

The lock that is asked for under a path is that of the sidecar beside the path, not of the one
beside the place that the path leads to. The two are the same for a path that meets no link and does
not end with the name for the way back up.

## Main definitions

* `Workspace.IsFiniteTime`: a time to wait that comes to an end.

## Main results

* `Workspace.Orderly.holds_unique`, `Workspace.Orderly.place_unique`,
  `Workspace.Orderly.isSome_slot?_iff`: who holds which lock.
* `Workspace.Orderly.hold_of_holds`, `Workspace.Orderly.replaceRegion_of_holds`: a lock that is held
  is refused.
* `Workspace.Orderly.hold_of_free`: a lock that nobody holds is given.
* `Workspace.Orderly.hold_spec`, `Workspace.Orderly.letGo?_spec`: what taking a lock and giving it
  back do.
* `Workspace.Orderly.holds_congr`: nobody's lock depends on the others.
-/

namespace CommandManual

open Disk (IsPlain IsProper Leads Settled)

namespace Workspace

variable {w after : Workspace} {l k : Location} {p : Path} {name other : Text} {timeout : Value}

/-! ### Who holds which lock -/

namespace Orderly

theorem holds_iff (hw : Orderly w) : w.Holds name l ↔
    l ≠ [] ∧ ∃ h ∈ w.holds, h.name = name ∧ h.Kept w.disk (sidecarPlace l) := by
  refine and_congr_right fun _ => exists_congr fun h => and_congr_right fun hh =>
    and_congr_right fun _ => ⟨fun hl => ?_, fun hkept => ?_⟩
  · obtain ⟨k, hkept⟩ := hw.kept h hh
    have hk : w.disk.locate w.here h.sidecar false = .ok k :=
      hkept.leads.locate w.here Bool.noConfusion
    exact Except.ok.inj (hk.symm.trans hl) ▸ hkept
  · exact hkept.leads.locate w.here Bool.noConfusion

/-- **The lock of a file is held under one name only.** -/
theorem holds_unique (hw : Orderly w) (h : w.Holds name l) (h' : w.Holds other l) :
    name = other := by
  obtain ⟨-, g, hg, rfl, hkept⟩ := hw.holds_iff.1 h
  obtain ⟨-, g', hg', rfl, hkept'⟩ := hw.holds_iff.1 h'
  exact hw.apart g hg g' hg' _ hkept.leads hkept'.leads

/-- Under a name the lock of one file is held only. -/
theorem place_unique (hw : Orderly w) (h : w.Holds name l) (h' : w.Holds name k) : l = k := by
  obtain ⟨hl, g, hg, rfl, hlocate⟩ := h
  obtain ⟨hk, g', hg', hname, hlocate'⟩ := h'
  obtain rfl := hw.eq_of_name hg hg' hname.symm
  exact sidecarPlace_injective hl hk (Except.ok.inj (hlocate.symm.trans hlocate'))

/-- **A sidecar is there exactly when somebody holds the lock.** -/
theorem isSome_slot?_iff (hw : Orderly w) (hl : l ≠ []) :
    (w.disk.slot? (sidecarPlace l)).isSome = true ↔ ∃ name, w.Holds name l := by
  constructor
  · intro hs
    obtain ⟨h, hh, hkept⟩ :=
      hw.occupied _ (isSidecar_sidecarPlace l) (Option.isSome_iff_ne_none.1 hs)
    exact ⟨h.name, hw.holds_iff.2 ⟨hl, h, hh, rfl, hkept⟩⟩
  · rintro ⟨name, hname⟩
    obtain ⟨-, h, -, -, hkept⟩ := hw.holds_iff.1 hname
    exact Option.isSome_iff_ne_none.2 hkept.slot?_ne_none

end Orderly

/-! ### Locks that are held -/

/-- A time to wait that comes to an end, and that can be reckoned with: a whole number must be small
enough to be compared with a clock, or to be written if it is over already. -/
def IsFiniteTime : Value → Prop
  | .bool _ => True
  | .int n => if n ≤ 0 then isWritable n = true else isInRange (.int n) = true
  | .float (.finite ..) => True
  | _ => False

/-- A time that comes to an end is over already and can be written, or it is not and is in range. -/
theorem IsFiniteTime.cases (h : IsFiniteTime timeout) :
    isOver? timeout = some true ∧ timeout.isWritable = true ∨
      isOver? timeout = some false ∧ isInRange timeout = true := by
  cases timeout with
  | bool b =>
    cases b with
    | false => exact .inl ⟨rfl, rfl⟩
    | true => exact .inr ⟨rfl, rfl⟩
  | int n =>
    rw [IsFiniteTime] at h
    by_cases hn : n ≤ 0
    · rw [if_pos hn] at h
      exact .inl ⟨by simp [isOver?, hn], h⟩
    · rw [if_neg hn] at h
      exact .inr ⟨by simp [isOver?, hn], h⟩
  | float x =>
    cases hx : x.isNonpositive with
    | true => exact .inl ⟨by rw [isOver?, hx], rfl⟩
    | false => exact .inr ⟨by rw [isOver?, hx], rfl⟩
  | _ => exact h.elim

theorem isFiniteTime_usualTimeout : IsFiniteTime usualTimeout := by
  have hfive : Binary64.ofDecimal false 5 0 = .finite false 5629499534213120 (-50) := by
    decide +kernel
  rw [usualTimeout, hfive]
  trivial

/-- A lock that another one holds is not free in time. -/
theorem acquire_of_isLocked {e : Disk} (hexists : w.disk.exists? w.here p = .ok true)
    (hnames : p.names ≠ []) (htouch : w.disk.touch w.here p.sidecar = .ok (e, k))
    (hlocked : w.isLocked ((e.serial? k).getD 0) = true) (ht : IsFiniteTime timeout)
    (operation : Text) :
    w.acquire p timeout operation = .error (.locked operation timeout p.sidecar.text) := by
  rcases ht.cases with ⟨hover, hwritable⟩ | ⟨hover, hrange⟩
  · rw [acquire, hexists, Except.mapError_ok, Except.ok_bind, hover]
    cases hp : p.names with
    | nil => exact absurd hp hnames
    | cons n ns => exact if_pos hwritable
  · rw [acquire_eq_seize hexists hnames hover, seize, htouch, Except.mapError_ok, Except.ok_bind]
    simp only [hlocked, hrange, Bool.not_true, if_neg Bool.false_ne_true, if_true]

theorem exists?_of_locate {n : Node} (hl : w.disk.locate w.here p = .ok l)
    (hn : w.disk.node? l = some n) : w.disk.exists? w.here p = .ok true := by
  rw [Disk.exists?, Disk.holds, Disk.stat_eq_ok_iff.2 ⟨hl, hn⟩]

/-- The sidecar of a path leads beside the place that the path leads to. -/
theorem leads_sidecar {throughLast : Bool} (hleads : Leads w.disk p l)
    (hk : w.disk.locate w.here p.sidecar throughLast = .ok k) :
    Leads w.disk p.sidecar (sidecarPlace l) := by
  have hname := hleads.name_eq.1
  rw [Path.sidecar, hname] at hk ⊢
  exact hleads.withName (sidecarName_ne l) hk

/-- A path is usable if that of its sidecar is, which is longer. -/
theorem usable_of_sidecarPlace (hl : l ≠ [])
    (h : Disk.unusable? (pathOf (sidecarPlace l)).text = none) :
    Disk.unusable? (pathOf l).text = none := by
  rw [Disk.usable_pathOf_iff (sidecarPlace_ne_nil l)] at h
  rw [Disk.usable_pathOf_iff hl]
  rcases List.eq_nil_or_concat l with rfl | ⟨directory, n, rfl⟩
  · exact absurd rfl hl
  rw [List.concat_eq_append] at h ⊢
  rw [sidecarPlace_append] at h
  obtain ⟨hmem, hbytes⟩ := h
  refine ⟨fun m hm => ?_, ?_⟩
  · rcases List.mem_append.1 hm with hm | hm
    · exact hmem m (List.mem_append_left _ hm)
    · intro hnull
      obtain rfl := List.mem_singleton.1 hm
      refine hmem _ (List.mem_append_right _ (List.mem_singleton_self _)) ?_
      exact List.mem_append_left _ (List.mem_cons_of_mem _ hnull)
  · have hlength : (Utf8.encode n).length ≤ (Utf8.encode ('.' :: n ++ ".lock".toList)).length := by
      rw [← List.singleton_append, Utf8.encode_append, Utf8.encode_append, List.length_append,
        List.length_append]
      omega
    rw [Disk.pathBytes_append] at hbytes ⊢
    simp only [Disk.pathBytes, List.map_cons, List.map_nil, List.sum_cons, List.sum_nil] at hbytes ⊢
    omega

namespace Orderly

/-- The sidecar of a held lock is locked. -/
theorem isLocked_of_kept {h : Hold} (hh : h ∈ w.holds) (hkept : h.Kept w.disk k) :
    w.isLocked ((w.disk.serial? k).getD 0) = true := by
  obtain ⟨bytes, mode, hslot⟩ := hkept.slot
  refine List.any_eq_true.2 ⟨h, hh, ?_⟩
  rw [Disk.serial?, hslot]
  exact decide_eq_true rfl

/-- An attempt to lock a sidecar that is held fails. -/
theorem acquire_of_holds (hw : Orderly w) (hheld : w.Holds name l)
    (hexists : w.disk.exists? w.here p = .ok true) (hnames : p.names ≠ [])
    (hside : w.disk.locate w.here p.sidecar = .ok (sidecarPlace l)) (ht : IsFiniteTime timeout)
    (operation : Text) :
    w.acquire p timeout operation = .error (.locked operation timeout p.sidecar.text) := by
  obtain ⟨-, h, hh, -, hkept⟩ := hw.holds_iff.1 hheld
  obtain ⟨bytes, mode, hfile⟩ := hkept.node?
  have htouch : w.disk.touch w.here p.sidecar = .ok (w.disk, sidecarPlace l) := by
    refine Except.bind_eq_ok_iff.2 ⟨_, hside, ?_⟩
    rw [hfile]
    rfl
  exact acquire_of_isLocked hexists hnames htouch (isLocked_of_kept hh hkept) ht operation

/-- **A lock that is held is refused.** -/
theorem hold_of_holds (hw : Orderly w) (hheld : w.Holds other l) (hleads : Leads w.disk p l)
    {n : Node} (hl : w.disk.locate w.here p = .ok l) (hn : w.disk.node? l = some n)
    (husable : Disk.unusable? p.sidecar.text = none) (ht : IsFiniteTime timeout) (name : Text)
    (operation : Text) :
    w.hold name p timeout operation = .error (.locked operation timeout p.sidecar.text) := by
  obtain ⟨hname, hnames, -⟩ := hleads.name_eq
  obtain ⟨-, h, -, -, hkept⟩ := hw.holds_iff.1 hheld
  have hproper : IsProper ('.' :: (pathOf l).name ++ ".lock".toList) :=
    hkept.leads.settled.proper _ (by rw [sidecarPlace_eq, List.getLast?_concat]; rfl)
  have hside : Leads w.disk p.sidecar (sidecarPlace l) := by
    rw [Path.sidecar, hname] at husable ⊢
    exact hleads.withName_of_isProper hproper husable
  have hlocate : w.disk.locate w.here p.sidecar = .ok (sidecarPlace l) :=
    hside.locate w.here fun _ => hw.ne_link (isSidecar_sidecarPlace l)
  have hexists := exists?_of_locate hl hn
  rw [Workspace.hold, hw.acquire_of_holds hheld hexists hnames hlocate ht, Except.error_bind]

/-- **Nothing is put into a file whose lock is held.** -/
theorem replaceRegion_of_holds (hw : Orderly w) (hheld : w.Holds name l) {tags : List Text}
    {pair : Tags} (htags : Tags.ofList tags = .ok pair) {n : Node}
    (hl : w.disk.locate w.here p = .ok l) (hn : w.disk.node? l = some n)
    (ht : IsFiniteTime timeout) (document : Text) (annotate : Bool) :
    w.replaceRegion p document tags annotate timeout =
      (.error (.locked injecting timeout (pathOf l).sidecar.text), w) := by
  obtain ⟨hne, h, -, -, hkept⟩ := hw.holds_iff.1 hheld
  have found := hw.here.reached_of_locate hl
  have hside := hkept.leads.settled
  have hsettled : Settled w.disk l :=
    ⟨found.above, found.proper, usable_of_sidecarPlace hne hside.usable⟩
  have hself : w.disk.locate w.here (pathOf l) = .ok l := hsettled.locate w.here found.not_link
  have hlocate : w.disk.locate w.here (pathOf l).sidecar = .ok (sidecarPlace l) :=
    hside.locate w.here fun _ => hw.ne_link (isSidecar_sidecarPlace l)
  have hacquire := hw.acquire_of_holds hheld (p := pathOf l) (exists?_of_locate hself hn) hne
    hlocate ht injecting
  rw [Workspace.replaceRegion, htags, target_of_stat (Disk.stat_eq_ok_iff.2 ⟨hl, hn⟩)]
  simp only [Except.mapError_ok, hacquire, Except.mapError_error, asTargetFault]

/-! ### Locks that are free -/

/-- A lock is kept under a new name once its sidecar is made. -/
theorem hold_of_touch (hw : Orderly w) (hexists : w.disk.exists? w.here p = .ok true)
    (hnames : p.names ≠ []) (hover : isOver? timeout = some false)
    (hside : w.disk.locate w.here p.sidecar = .ok k) (hnone : w.disk.node? k = none)
    (hname : ∀ h ∈ w.holds, h.name ≠ name) (operation : Text) :
    w.hold name p timeout operation = .ok { w with
      disk := w.disk.put k (.file [] Node.fileMode)
      holds := w.holds ++ [⟨name, p.sidecar, w.disk.nextSerial⟩] } := by
  have hk : k ≠ [] := Disk.ne_nil_of_node? (d := w.disk) fun m => by simp [hnone]
  have htouch : w.disk.touch w.here p.sidecar =
      .ok (w.disk.put k (.file [] Node.fileMode), k) := by
    refine Except.bind_eq_ok_iff.2 ⟨k, hside, ?_⟩
    rw [hnone]
    rfl
  have hserial : ((w.disk.put k (.file [] Node.fileMode)).serial? k).getD 0 =
      w.disk.nextSerial := by
    rw [Disk.put_eq_renew _ hnone, Disk.serial?, Disk.slot?_renew, if_pos rfl]
    rfl
  have hfree : w.isLocked w.disk.nextSerial = false :=
    List.any_eq_false.2 fun h hh => by simpa using Nat.ne_of_lt (hw.serial h hh)
  have hacquire := (acquire_eq_seize hexists hnames hover operation).trans
    (seize_of_touch htouch (hserial ▸ hfree) timeout operation)
  have hnew : letGo? { w with disk := w.disk.put k (.file [] Node.fileMode) } name = none := by
    rw [letGo?, List.find?_eq_none.2 fun h hh => by simpa using hname h hh]
    rfl
  rw [Workspace.hold, hacquire, Except.ok_bind]
  simp only [hnew, hserial, Option.getD_none]
  rfl

/-- **A lock that nobody holds is given.** -/
theorem hold_of_free (hw : Orderly w) (hfree : ∀ other, ¬w.Holds other l)
    (hleads : Leads w.disk p l) {n : Node} (hl : w.disk.locate w.here p = .ok l)
    (hn : w.disk.node? l = some n) (hside : Leads w.disk p.sidecar (sidecarPlace l))
    (hover : isOver? timeout = some false) (hname : ∀ h ∈ w.holds, h.name ≠ name)
    (operation : Text) :
    ∃ after, w.hold name p timeout operation = .ok after ∧ after.Holds name l := by
  obtain ⟨-, hnames, hne⟩ := hleads.name_eq
  have hempty : w.disk.slot? (sidecarPlace l) = none := by
    rw [← Option.not_isSome_iff_eq_none, hw.isSome_slot?_iff hne]
    exact fun ⟨other, hother⟩ => hfree other hother
  have hnone : w.disk.node? (sidecarPlace l) = none := by
    rw [Disk.node?, if_neg (sidecarPlace_ne_nil l), hempty]
    rfl
  have hlocate : w.disk.locate w.here p.sidecar = .ok (sidecarPlace l) :=
    hside.locate w.here fun _ => hw.ne_link (isSidecar_sidecarPlace l)
  refine ⟨_, hw.hold_of_touch (exists?_of_locate hl hn) hnames hover hlocate hnone hname operation,
    hne, _, List.mem_append_right _ (List.mem_singleton_self _), rfl, ?_⟩
  have hgrows : w.disk.Grows (w.disk.put (sidecarPlace l) (.file [] Node.fileMode)) :=
    Disk.grows_put_of_ne _ (by simp [hnone])
  exact (hside.mono hgrows.directories).locate w.here Bool.noConfusion

/-! ### Taking locks and giving them back -/

/-- What taking a lock does: a sidecar is made and locked under the new name. The path of the file
that is locked must meet no link. -/
theorem hold_spec (hw : Orderly w) (hroot : p.root = ['/']) (plain : IsPlain w.disk w.here p)
    (hdots : p.name ≠ ['.', '.']) (hname : ∀ h ∈ w.holds, h.name ≠ name) {operation : Text}
    (h : w.hold name p timeout operation = .ok after) :
    ∃ k, IsSidecar k ∧ Leads w.disk p.sidecar k ∧ w.disk.node? k = none ∧ after = { w with
      disk := w.disk.put k (.file [] Node.fileMode)
      holds := w.holds ++ [⟨name, p.sidecar, w.disk.nextSerial⟩] } := by
  obtain ⟨⟨serial, locked⟩, hacquire, -⟩ := Except.bind_eq_ok_iff.1 h
  obtain ⟨hexists, hnames, hover, hseize⟩ := seize_of_acquire hacquire
  obtain ⟨e, k, htouch, hfree, -, -⟩ := seize_spec hseize
  obtain ⟨l, n, hl, hn⟩ := exists?_spec hexists
  obtain ⟨hk, hcases⟩ := Disk.touch_spec htouch
  have hside := leads_sidecar (Leads.of_isPlain hroot hnames hdots plain hl) hk
  obtain rfl : sidecarPlace l = k := by
    have hlocate : w.disk.locate w.here p.sidecar = .ok (sidecarPlace l) :=
      hside.locate w.here fun _ => hw.ne_link (isSidecar_sidecarPlace l)
    exact Except.ok.inj (hlocate.symm.trans hk)
  rcases hcases with ⟨hnone, -⟩ | ⟨⟨bs, m, hfile⟩, rfl⟩
  · rw [hw.hold_of_touch hexists hnames hover hk hnone hname] at h
    exact ⟨_, isSidecar_sidecarPlace l, hside, hnone, (Except.ok.inj h).symm⟩
  · -- A sidecar that is there is locked.
    obtain ⟨s, hs, -, -⟩ := Disk.slot?_of_node? (sidecarPlace_ne_nil l) hfile
    obtain ⟨g, hg, hkept⟩ := hw.occupied _ (isSidecar_sidecarPlace l) (by simp [hs])
    rw [isLocked_of_kept hg hkept] at hfree
    cases hfree

/-- What giving back a lock does: its sidecar is removed. -/
theorem letGo?_spec (hw : Orderly w) (h : w.letGo? name = some after) :
    ∃ g ∈ w.holds, g.name = name ∧ ∃ k, g.Kept w.disk k ∧ after = { w with
      disk := w.disk.erase k, holds := w.holds.filter (·.name ≠ g.name) } := by
  obtain ⟨g, hg, -⟩ := Option.map_eq_some_iff.1 h
  have hmem := List.mem_of_find?_eq_some hg
  obtain rfl : g.name = name := by simpa using List.find?_some hg
  obtain ⟨k, hkept⟩ := hw.kept g hmem
  rw [hw.letGo?_eq hmem hkept] at h
  exact ⟨g, hmem, rfl, k, hkept, (Option.some.inj h).symm⟩

/-- Which locks are held under a name depends on the locks with that name only, as long as the
directories stay. -/
theorem holds_congr (hw : Orderly w) (hk : Disk.KeepsDirectories w.disk after.disk)
    (hmem : ∀ h : Hold, h.name = name → (h ∈ after.holds ↔ h ∈ w.holds)) :
    after.Holds name l ↔ w.Holds name l := by
  have hplace {h : Hold} (hh : h ∈ w.holds) :
      after.disk.locate after.here h.sidecar false = w.disk.locate w.here h.sidecar false := by
    obtain ⟨k, hkept⟩ := hw.kept h hh
    rw [hkept.leads.locate w.here Bool.noConfusion,
      (hkept.leads.mono hk).locate after.here Bool.noConfusion]
  refine and_congr_right fun _ => exists_congr fun h => ⟨?_, ?_⟩
  · rintro ⟨hh, rfl, hl⟩
    have hbefore := (hmem h rfl).1 hh
    exact ⟨hbefore, rfl, hplace hbefore ▸ hl⟩
  · rintro ⟨hh, rfl, hl⟩
    exact ⟨(hmem h rfl).2 hh, rfl, (hplace hh).trans hl⟩

end Orderly

end Workspace

end CommandManual
