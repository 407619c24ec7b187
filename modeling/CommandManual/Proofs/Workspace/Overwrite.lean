import CommandManual.Proofs.Disk.Changes

/-!
# A new file in the place of an old one

`Workspace.overwrite` fills a draft beside the old file and moves it over the old one. Making the
draft can be refused, and then there is none. Once it is made, it is a file at a settled place, and
every step that is taken leaves it one (`Drafted`). So a mishap may come at any step: what is there
to be removed is the draft, and when it is removed all is as it was.

## Main definitions

* `Disk.Drafted`: nothing was done to a disk but that a draft was made and worked on.

## Main results

* `Disk.Drafted.write`, `Disk.Drafted.setMode`: a step that works on the draft.
* `Disk.Drafted.rename`: the last step, after which the draft is in the place of the file.
* `Workspace.createDraft_spec`: a draft is made in an empty place beside the file.
* `Workspace.discard_draft`: a draft that is removed leaves nothing behind.
* `Workspace.attempt_draftSteps_of_mishap`: after a mishap there is still a draft.
* `Workspace.overwrite_of_createDraft`, `Workspace.overwrite_spec`: the file is replaced, or every
  place is as it was.
-/

namespace CommandManual

open Disk (Settled)
open Workspace (pathOf draft)

namespace Disk

variable {d e : Disk} {l j here : Location}

/-- What is found beside a settled place is settled too. -/
theorem Settled.beside (h : Settled d l) {n : Text} (hn : n ≠ ['.', '.']) {k : Location}
    {throughLast : Bool}
    (hlink : throughLast = true → ∀ t, d.node? (l.dropLast ++ [n]) ≠ some (.link t))
    (hk : d.locate here (pathOf (l.dropLast ++ [n])) throughLast = .ok k) :
    k = l.dropLast ++ [n] ∧ Settled d (l.dropLast ++ [n]) := by
  refine settled_of_locate ?_ ?_ hlink hk
  · rw [List.dropLast_concat]
    exact h.above
  · intro n' hn'
    rw [List.getLast?_concat, Option.mem_some_iff] at hn'
    exact hn' ▸ hn

/-- Nothing was done to a disk but that a draft was made in an empty place. It is a file with some
bytes and permission bits. -/
structure Drafted (d : Disk) (j : Location) (bytes : List UInt8) (mode : Nat) (e : Disk) :
    Prop where
  settled : Settled d j
  empty : d.node? j = none
  file : e.node? j = some (.file bytes mode)
  slots : ∀ k, k ≠ j → e.slot? k = d.slot? k

namespace Drafted

variable {bytes : List UInt8} {mode : Nat}

theorem of_put (hj : Settled d j) (hnone : d.node? j = none) (bytes : List UInt8) (mode : Nat) :
    Drafted d j bytes mode (d.put j (.file bytes mode)) where
  settled := hj
  empty := hnone
  file := node?_put_self _ (ne_nil_of_node? (d := d) fun m => by simp [hnone])
  slots _ hk := slot?_put_of_ne _ hk

variable (h : Drafted d j bytes mode e)

include h

/-- The place of the draft is not the root, which is never empty. -/
theorem ne_nil : j ≠ [] := ne_nil_of_node? (d := d) fun m => by simp [h.empty]

theorem keeps : KeepsDirectories d e := keepsDirectories_of_ne (by simp [h.empty]) h.slots

/-- The draft changes and stays a file. -/
theorem put (bytes' : List UInt8) (mode' : Nat) :
    Drafted d j bytes' mode' (e.put j (.file bytes' mode')) where
  settled := h.settled
  empty := h.empty
  file := node?_put_self _ h.ne_nil
  slots k hk := (slot?_put_of_ne _ hk).trans (h.slots k hk)

/-- **A draft is written.** -/
theorem write (here : Location) (bytes' : List UInt8) :
    ∃ e', e.write here (pathOf j) bytes' = .ok e' ∧ Drafted d j bytes' mode e' :=
  ⟨_, (h.settled.mono h.keeps).write h.file bytes', h.put bytes' mode⟩

/-- **A draft gets permission bits.** -/
theorem setMode (here : Location) (mode' : Nat) :
    ∃ e', e.setMode here (pathOf j) mode' = .ok e' ∧ Drafted d j bytes mode' e' :=
  ⟨_, (h.settled.mono h.keeps).setMode h.file mode', h.put bytes mode'⟩

/-- **A draft takes the place of a file.** Its own place, which was empty, is empty again. -/
theorem rename (here : Location) (hl : Settled d l) {bs : List UInt8} {m : Nat}
    (hfile : d.node? l = some (.file bs m)) :
    ∃ e', e.rename here (pathOf j) (pathOf l) = .ok e' ∧
      e'.node? l = some (.file bytes mode) ∧ ∀ k, k ≠ l → e'.slot? k = d.slot? k := by
  have hlne : l ≠ [] := ne_nil_of_node? (d := d) fun m => by simp [hfile]
  have hlj : l ≠ j := by
    rintro rfl
    cases hfile.symm.trans h.empty
  obtain ⟨s, hs, hnode, hplace⟩ := slot?_of_node? h.ne_nil h.file
  have hdirectory : ∀ m, e.node? l ≠ some (.directory m) := by
    intro m
    rw [node?_congr (h.slots l hlj), hfile]
    simp
  refine ⟨e.relocate s l, (h.settled.mono h.keeps).rename (hl.mono h.keeps) hs hdirectory, ?_, ?_⟩
  · rw [node?_relocate _ hlne, if_pos rfl, hnode]
  · intro k hk
    rw [slot?_relocate, if_neg hk, hplace]
    split
    · next hkj => rw [hkj, slot?_eq_none_of_node? h.empty]
    · next hkj => exact h.slots k hkj

/-- Without the draft every place is as it was. -/
theorem slot?_erase (k : Location) : (e.erase j).slot? k = d.slot? k := by
  rw [Disk.slot?_erase]
  split
  · next hk => rw [hk, slot?_eq_none_of_node? h.empty]
  · next hk => exact h.slots k hk

end Drafted

end Disk

namespace Workspace

variable {w : Workspace} {l : Location}

theorem name_draft_ne (p : Path) (n : Nat) : (draft p n).name ≠ ['.', '.'] := by
  intro h
  have hlength := congrArg List.length h
  simp only [draft, Path.name_withName, List.length_append, List.length_cons] at hlength
  have hsuffix : ".tmp".toList.length = 4 := rfl
  simp only [List.length_nil, hsuffix] at hlength
  omega

/-- A draft is made in an empty place beside the file. -/
theorem createDraft_spec (h : Settled w.disk l) {tries n : Nat} {q : Path} {disk : Disk}
    (hc : w.createDraft (pathOf l) tries n = .ok (q, disk)) :
    ∃ j, q = pathOf j ∧ Settled w.disk j ∧ w.disk.node? j = none ∧
      disk = w.disk.put j (.file [] Node.draftMode) := by
  induction tries generalizing n with
  | zero => cases hc
  | succ tries ih =>
    rw [createDraft] at hc
    split at hc
    · next e he =>
      obtain ⟨rfl, rfl⟩ := Prod.mk.inj (Except.ok.inj hc)
      obtain ⟨j, hj, hnone, rfl⟩ := Disk.create_spec he
      have hdots : (draft (pathOf l) n).name ≠ ['.', '.'] := name_draft_ne _ _
      rw [draft, Path.name_withName] at hdots
      obtain ⟨rfl, hsettled⟩ := h.beside hdots Bool.noConfusion hj
      exact ⟨_, rfl, hsettled, hnone, rfl⟩
    · split at hc
      · exact ih hc
      · cases hc

/-- A draft that is removed leaves nothing behind. -/
theorem discard_draft {j : Location} {bytes : List UInt8} {mode : Nat} {e : Disk}
    (h : w.disk.Drafted j bytes mode e) :
    discard { w with disk := e } (pathOf j) = { w with disk := e.erase j } := by
  rw [discard, (h.settled.mono h.keeps).delete h.file]

/-- **After a mishap there is still a draft**, and nothing else has changed. -/
theorem attempt_draftSteps_of_mishap {j : Location} {bytes : List UInt8} {mode : Nat} {e : Disk}
    (h : w.disk.Drafted j bytes mode e) (p : Path) (bytes' : List UInt8) (mode' : Nat)
    (mishap : Mishap) :
    ∃ f e' bs m, e.attempt (w.draftSteps (pathOf j) p bytes' mode' (some mishap)) = (some f, e') ∧
      w.disk.Drafted j bs m e' := by
  cases mishap with
  | unencodable _ => exact ⟨_, e, _, _, rfl, h⟩
  | write written t =>
    obtain ⟨e₁, hwrite, h₁⟩ := h.write w.here (bytes'.take written)
    exact ⟨_, e₁, _, _, by rw [draftSteps, Disk.attempt_cons hwrite]; rfl, h₁⟩
  | setMode t =>
    obtain ⟨e₁, hwrite, h₁⟩ := h.write w.here bytes'
    exact ⟨_, e₁, _, _, by rw [draftSteps, Disk.attempt_cons hwrite]; rfl, h₁⟩
  | rename t =>
    obtain ⟨e₁, hwrite, h₁⟩ := h.write w.here bytes'
    obtain ⟨e₂, hmode, h₂⟩ := h₁.setMode w.here mode'
    exact ⟨_, e₂, _, _,
      by rw [draftSteps, Disk.attempt_cons hwrite, Disk.attempt_cons hmode]; rfl, h₂⟩

/-- Without a mishap the draft takes the place of the file. -/
theorem attempt_draftSteps {j : Location} {bytes : List UInt8} {mode : Nat} {e : Disk}
    (h : w.disk.Drafted j bytes mode e) (hl : Settled w.disk l) {bs : List UInt8} {m : Nat}
    (hfile : w.disk.node? l = some (.file bs m)) (bytes' : List UInt8) (mode' : Nat) :
    ∃ e', e.attempt (w.draftSteps (pathOf j) (pathOf l) bytes' mode' none) = (none, e') ∧
      e'.node? l = some (.file bytes' mode') ∧ ∀ k, k ≠ l → e'.slot? k = w.disk.slot? k := by
  obtain ⟨e₁, hwrite, h₁⟩ := h.write w.here bytes'
  obtain ⟨e₂, hmode, h₂⟩ := h₁.setMode w.here mode'
  obtain ⟨e₃, hrename, hnode, hslots⟩ := h₂.rename w.here hl hfile
  refine ⟨e₃, ?_, hnode, hslots⟩
  rw [draftSteps, Disk.attempt_cons hwrite, Disk.attempt_cons hmode, Disk.attempt_cons hrename]
  rfl

/-- **A file is replaced** if a draft can be made beside it and nothing goes wrong with that. -/
theorem overwrite_of_createDraft (h : Settled w.disk l) {bs : List UInt8} {mode : Nat}
    (hfile : w.disk.node? l = some (.file bs mode)) {made : Path × Disk}
    (hc : w.createDraft (pathOf l) (w.disk.slots.length + 1) 0 = .ok made)
    (smooth : w.mishap? w.disk.nextSerial = none) (t : Text) :
    ∃ disk, w.overwrite (pathOf l) t = (.ok (), { w with disk }) ∧
      disk.node? l = some (.file (Utf8.encode t) mode) ∧
      ∀ k, k ≠ l → disk.slot? k = w.disk.slot? k := by
  obtain ⟨q, disk⟩ := made
  unfold overwrite
  rw [h.stat hfile fun _ => Node.noConfusion, hc, smooth]
  obtain ⟨j, rfl, hj, hnone, rfl⟩ := createDraft_spec h hc
  obtain ⟨e, he, hnode, hslots⟩ :=
    attempt_draftSteps (.of_put hj hnone [] Node.draftMode) h hfile (Utf8.encode t) mode
  refine ⟨e, ?_, hnode, hslots⟩
  simp only [Node.mode, he]

/-- **A file is replaced, or every place is as it was.** In the second case there may have been a
draft: it is gone. -/
theorem overwrite_spec (h : Settled w.disk l) {bs : List UInt8} {mode : Nat}
    (hfile : w.disk.node? l = some (.file bs mode)) (t : Text) :
    (∃ f disk, w.overwrite (pathOf l) t = (.error f, { w with disk }) ∧
        ∀ k, disk.slot? k = w.disk.slot? k) ∨
      ∃ disk, w.overwrite (pathOf l) t = (.ok (), { w with disk }) ∧
        disk.node? l = some (.file (Utf8.encode t) mode) ∧
        ∀ k, k ≠ l → disk.slot? k = w.disk.slot? k := by
  cases hc : w.createDraft (pathOf l) (w.disk.slots.length + 1) 0 with
  | error f =>
    refine .inl ⟨.access f, w.disk, ?_, fun _ => rfl⟩
    unfold overwrite
    rw [h.stat hfile fun _ => Node.noConfusion, hc]
  | ok made =>
    cases hmishap : w.mishap? w.disk.nextSerial with
    | none => exact .inr (overwrite_of_createDraft h hfile hc hmishap t)
    | some mishap =>
      obtain ⟨q, disk⟩ := made
      obtain ⟨j, rfl, hj, hnone, rfl⟩ := createDraft_spec h hc
      obtain ⟨f, e, bs', m, hattempt, hdrafted⟩ := attempt_draftSteps_of_mishap
        (.of_put hj hnone [] Node.draftMode) (pathOf l) (Utf8.encode t) mode mishap
      refine .inl ⟨.access f, e.erase j, ?_, hdrafted.slot?_erase⟩
      unfold overwrite
      rw [h.stat hfile fun _ => Node.noConfusion, hc, hmishap]
      simp only [Node.mode, hattempt, discard_draft hdrafted]

end Workspace

end CommandManual
