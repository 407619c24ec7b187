import CommandManual.Proofs.Region.Cut
import CommandManual.Proofs.Text.Utf8
import CommandManual.Proofs.Workspace.Sidecar

/-!
# What an injection leaves alone

An injection ends in many ways, and in each of them everything but the target is as it was. The
places are compared by their slots, which have the node with its bytes and permission bits and its
serial number. The one exception is the place of the sidecar: a sidecar file that nobody held is
gone afterwards.

## Main definitions

* `Workspace.Kept`: a place is as it was, up to that exception.
* `Workspace.Replaced`: the region of a file is replaced, and the rest of it stays.

## Main results

* `Workspace.patchRegion_spec`: the region is replaced, or every place is as it was.
* `Workspace.replaceRegion_spec`: the same for the whole injection, which also takes the lock and
  gives it back.
-/

namespace CommandManual

namespace Workspace

open Disk (Settled)

variable {w : Workspace} {l : Location}

/-- A place is as it was, or it is that of the sidecar for a path, and a file that nobody held is
gone from it. -/
def Kept (w : Workspace) (p : Path) (after : Disk) (k : Location) : Prop :=
  after.slot? k = w.disk.slot? k ∨
    (∃ t, w.target p = .ok t ∧ k = t.sidecar.names) ∧ w.Leftover k ∧ after.slot? k = none

/-- Between two disks the region of the file in a place is replaced by another text; the permission
bits and what is around the region stay. -/
def Replaced (tags : Tags) (block : Text) (d e : Disk) (l : Location) : Prop :=
  ∃ (c : Region.Cut tags) (mode : Nat), d.node? l = some (.file (Utf8.encode c.text) mode) ∧
    e.node? l = some (.file (Utf8.encode (c.front ++ block ++ c.back)) mode) ∧
    c.front ++ block ++ c.back ≠ c.text

theorem kept_refl (w : Workspace) (p : Path) (k : Location) : w.Kept p w.disk k := .inl rfl

/-- What is replaced is a file. -/
theorem Replaced.ne_directory {tags : Tags} {block : Text} {d e : Disk}
    (h : Replaced tags block d e l) (m : Nat) : d.node? l ≠ some (.directory m) := by
  obtain ⟨c, mode, hold, -, -⟩ := h
  rw [hold]
  simp

theorem Replaced.congr {tags : Tags} {block : Text} {d d' e e' : Disk}
    (h : Replaced tags block d e l) (hd : d'.slot? l = d.slot? l) (he : e'.slot? l = e.slot? l) :
    Replaced tags block d' e' l := by
  rw [Replaced, Disk.node?_congr hd, Disk.node?_congr he]
  exact h

/-! ### Patching -/

/-- The text of the file at a settled place, and its bytes. -/
theorem readText_spec (h : Settled w.disk l) {n : Node} (hn : w.disk.node? l = some n)
    (hlink : ∀ t, n ≠ .link t) {content : Text} (hr : w.readText (pathOf l) = .ok content) :
    ∃ mode, n = .file (Utf8.encode content) mode := by
  obtain ⟨bytes, hb, hc⟩ := Except.bind_eq_ok_iff.1 hr
  rw [Except.mapError_eq_ok_iff] at hb hc
  rw [Disk.read, h.stat hn hlink] at hb
  cases n with
  | file bs mode =>
    obtain rfl : bs = bytes := Except.ok.inj hb
    exact ⟨mode, by rw [Utf8.encode_of_decode hc]⟩
  | directory mode => cases hb
  | link t => exact absurd rfl (hlink t)

/-- **The region is replaced, or every place is as it was.** -/
theorem patchRegion_spec (h : Settled w.disk l) {n : Node} (hn : w.disk.node? l = some n)
    (hlink : ∀ t, n ≠ .link t) (tags : Tags) (block : Text) :
    (∃ r disk, w.patchRegion (pathOf l) tags block = (r, { w with disk }) ∧ r ≠ .ok true ∧
        ∀ k, disk.slot? k = w.disk.slot? k) ∨
      ∃ disk, w.patchRegion (pathOf l) tags block = (.ok true, { w with disk }) ∧
        Replaced tags block w.disk disk l ∧ ∀ k, k ≠ l → disk.slot? k = w.disk.slot? k := by
  unfold patchRegion
  cases hr : w.readText (pathOf l) with
  | error f => exact .inl ⟨.error f, w.disk, rfl, by simp, fun _ => rfl⟩
  | ok content =>
    obtain ⟨mode, rfl⟩ := readText_spec h hn hlink hr
    cases hf : Region.find tags content with
    | error m =>
      refine .inl ⟨.error (.missingTag m (pathOf l).text), w.disk, ?_, by simp, fun _ => rfl⟩
      simp only [Region.replace, hf, Except.map]
    | ok region =>
      obtain ⟨c, rfl, rfl⟩ := Region.find_eq_ok_iff.1 hf
      simp only [Region.replace_text]
      by_cases hsame : c.front ++ block ++ c.back = c.text
      · exact .inl ⟨.ok false, w.disk, by rw [if_pos hsame], by simp, fun _ => rfl⟩
      · rw [if_neg hsame]
        rcases overwrite_spec h hn (c.front ++ block ++ c.back) with
          ⟨f, disk, ho, hslots⟩ | ⟨disk, ho, hnode, hslots⟩
        · exact .inl ⟨.error f, disk, by rw [ho]; rfl, by simp, hslots⟩
        · exact .inr ⟨disk, by rw [ho]; rfl, ⟨c, mode, hn, hnode, hsame⟩, hslots⟩

/-! ### Injections -/

/-- Giving back the lock of a file after a change of nothing but that file. -/
theorem Guarded.kept {e e' : Disk} (h : Guarded w l e) {p : Path}
    (htarget : w.target p = .ok (pathOf l)) (keep : Disk.KeepsDirectories e e')
    (hslots : ∀ k, k ≠ l → e'.slot? k = e.slot? k) :
    ∃ final, discard { w with disk := e' } (pathOf l).sidecar = { w with disk := final } ∧
      final.slot? l = e'.slot? l ∧ ∀ k, k ≠ l → w.Kept p final k := by
  obtain ⟨bs, m, hfile⟩ := h.isFile
  rw [← Disk.node?_congr (hslots _ (sidecarPlace_ne l))] at hfile
  refine ⟨e'.erase (sidecarPlace l), discard_sidecar (h.settled.mono keep) hfile, ?_, ?_⟩
  · rw [Disk.slot?_erase, if_neg (sidecarPlace_ne l).symm]
  · intro k hk
    by_cases hs : k = sidecarPlace l
    · have hgone : (e'.erase (sidecarPlace l)).slot? k = none := by
        rw [Disk.slot?_erase, if_pos hs]
      subst hs
      rcases h.before with hnone | hleft
      · exact .inl (hgone.trans hnone.symm)
      · exact .inr ⟨⟨_, htarget, rfl⟩, hleft, hgone⟩
    · refine .inl ?_
      rw [Disk.slot?_erase, if_neg hs, hslots k hk, h.slots k hs]

/-- Patching while the lock is held, and giving the lock back. -/
theorem Guarded.patchRegion {e : Disk} (h : Guarded w l e) {p : Path}
    (htarget : w.target p = .ok (pathOf l)) (hsettled : Settled w.disk l) {n : Node}
    (hn : w.disk.node? l = some n) (hlink : ∀ t, n ≠ .link t) (tags : Tags) (block : Text) :
    ∃ r after final, { w with disk := e }.patchRegion (pathOf l) tags block = (r, after) ∧
      after.discard (pathOf l).sidecar = { w with disk := final } ∧
      (r ≠ .ok true ∧ (∀ k, w.Kept p final k) ∨
        r = .ok true ∧ Replaced tags block w.disk final l ∧ ∀ k, k ≠ l → w.Kept p final k) := by
  have hslot : e.slot? l = w.disk.slot? l := h.slots l (sidecarPlace_ne l).symm
  have hn' : e.node? l = some n := (Disk.node?_congr hslot).trans hn
  have hsettled' : Settled e l := hsettled.mono h.keeps
  rcases patchRegion_spec (w := { w with disk := e }) hsettled' hn' hlink tags block with
    ⟨r, e', hr, hne, hslots⟩ | ⟨e', hr, hreplaced, hslots⟩
  · have hkeep : Disk.KeepsDirectories e e' := fun k m hm =>
      ⟨m, (Disk.node?_congr (hslots k)).trans hm⟩
    obtain ⟨final, hfinal, hlast, hkept⟩ := h.kept htarget hkeep fun k _ => hslots k
    refine ⟨r, _, final, hr, hfinal, .inl ⟨hne, fun k => ?_⟩⟩
    by_cases hk : k = l
    · exact .inl (by rw [hk, hlast, hslots, hslot])
    · exact hkept k hk
  · have hkeep : Disk.KeepsDirectories e e' :=
      Disk.keepsDirectories_of_ne hreplaced.ne_directory hslots
    obtain ⟨final, hfinal, hlast, hkept⟩ := h.kept htarget hkeep hslots
    exact ⟨_, _, final, hr, hfinal, .inr ⟨rfl, hreplaced.congr hslot.symm hlast, hkept⟩⟩

/-- **An injection replaces the region of one file**, or it leaves everything as it was. -/
theorem replaceRegion_spec {p : Path}
    (found : ∀ l, w.disk.locate w.here p = .ok l → Disk.Reached w.disk true l)
    (plain : ∀ t, w.target p = .ok t → ∀ s, w.disk.node? t.sidecar.names ≠ some (.link s))
    (document : Text) (tags : List Text) (annotate : Bool) (timeout : Value) :
    ∃ r disk, w.replaceRegion p document tags annotate timeout = (r, { w with disk }) ∧
      ((∀ i, r = .ok i → i.changed = false) ∧ (∀ k, w.Kept p disk k) ∨
        ∃ l pair, r = .ok ⟨(pathOf l).text, true⟩ ∧ w.disk.locate w.here p = .ok l ∧
          Tags.ofList tags = .ok pair ∧
          Replaced pair (generatedBlock annotate document) w.disk disk l ∧
          ∀ k, k ≠ l → w.Kept p disk k) := by
  unfold replaceRegion
  cases htags : Tags.ofList tags with
  | error f => exact ⟨_, w.disk, rfl, .inl ⟨by simp, w.kept_refl p⟩⟩
  | ok pair =>
    cases htarget : w.target p with
    | error f => exact ⟨_, w.disk, rfl, .inl ⟨by simp, w.kept_refl p⟩⟩
    | ok target =>
      simp only [Except.mapError_ok]
      cases hacquire : w.acquire target timeout injecting with
      | error f => exact ⟨_, w.disk, rfl, .inl ⟨by simp, w.kept_refl p⟩⟩
      | ok taken =>
        obtain ⟨serial, locked⟩ := taken
        obtain ⟨l, hl, rfl⟩ := target_spec htarget
        have hreached := found l hl
        obtain ⟨hsettled, ⟨n, hn⟩, e, rfl, hguard⟩ :=
          guarded_of_acquire hreached (plain _ htarget) hacquire
        have hlink : ∀ t, n ≠ .link t := by
          rintro t rfl
          exact hreached.not_link rfl t hn
        obtain ⟨r, after, final, hr, hfinal, hcases⟩ :=
          hguard.patchRegion htarget hsettled hn hlink pair (generatedBlock annotate document)
        refine ⟨r.map (⟨(pathOf l).text, ·⟩), final, ?_, ?_⟩
        · simp only [Except.mapError_ok, hr, hfinal]
        · rcases hcases with ⟨hne, hkept⟩ | ⟨rfl, hreplaced, hkept⟩
          · refine .inl ⟨fun i hi => ?_, hkept⟩
            obtain ⟨b, rfl, rfl⟩ := Except.map_eq_ok_iff.1 hi
            simpa using hne
          · exact .inr ⟨l, pair, rfl, hl, rfl, hreplaced, hkept⟩

end Workspace

end CommandManual
