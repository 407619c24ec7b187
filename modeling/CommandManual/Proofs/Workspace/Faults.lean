import CommandManual.Proofs.Disk.Refusals
import CommandManual.Proofs.Workspace.Agreement

/-!
# What a fault tells about a file

The region of a file is read and replaced in many steps, and each of them may fail. What ends them
is a fault, and the fault tells something about the file: that its bytes are no text, that it is not
there, or that an operation on it failed. All of this is so, with one exception: a link in the place
of the sidecar that leads nowhere makes it seem that the file is not there.

## Main definitions

* `AccessFault.IsAbout`: the path of a fault is that of a file, its sidecar or a draft beside it.
* `Workspace.Explains`: what a fault tells about the file behind a path is so.

## Main results

* `Workspace.explains_of_extract`, `Workspace.explains_of_replaceRegion`: the faults of reading a
  region and of replacing it.
* `Workspace.ofList_of_extract`, `Workspace.ofList_of_replaceRegion`: delimiters that are none are
  those that were handed over.
-/

namespace CommandManual

open Except (FailsOnly)
open Workspace (pathOf draft)

/-- The path of the fault is that of a file, that of its sidecar, or that of a draft beside it. -/
def AccessFault.IsAbout (f : AccessFault) (p : Path) : Prop :=
  f.path = p.text ∨ f.path = p.sidecar.text ∨ ∃ n, f.path = (draft p n).text

/-- The fault is that a list of tags is no pair of delimiters. -/
def FileFault.IsOfTags : FileFault → Prop
  | .tags _ => True
  | _ => False

namespace Workspace

open Disk (IsOpen Settled NullFree)

variable {w : Workspace} {l : Location} {p t : Path}

/-- A link is in the place of the sidecar for a path. -/
def HasLinkedSidecar (w : Workspace) (p : Path) : Prop :=
  ∃ t target, w.target p = .ok t ∧ w.disk.node? t.sidecar.names = some (.link target)

/-- What a fault tells about the file behind a path is so: that it breaks at an offset, that it is
not there, or that an operation on it, its sidecar or a draft beside it failed. -/
def Explains (w : Workspace) (p : Path) : FileFault → Prop
  | .encoding f => ∃ bytes, w.disk.read w.here p = .ok bytes ∧ Utf8.BreaksAt bytes f.position
  | .noTarget _ => w.disk.IsMissing w.here p ∨ w.HasLinkedSidecar p
  | .access f => f.path = p.text ∨ ∃ t, w.target p = .ok t ∧ f.IsAbout t
  | _ => True

/-! ### Reading -/

/-- Why a text cannot be read. -/
theorem readText_eq_error {f : FileFault} (h : w.readText p = .error f) :
    (∃ g, f = .access g ∧ w.disk.read w.here p = .error g) ∨
      ∃ g bytes, f = .encoding g ∧ w.disk.read w.here p = .ok bytes ∧
        Utf8.BreaksAt bytes g.position := by
  rw [readText] at h
  cases hread : w.disk.read w.here p with
  | error g =>
    rw [hread] at h
    exact .inl ⟨g, (Except.error.inj h).symm, rfl⟩
  | ok bytes =>
    rw [hread] at h
    cases hdecode : Utf8.decode bytes with
    | ok content =>
      rw [Except.mapError_ok, Except.ok_bind, hdecode] at h
      cases h
    | error g =>
      rw [Except.mapError_ok, Except.ok_bind, hdecode] at h
      exact .inr ⟨g, bytes, (Except.error.inj h).symm, rfl, Utf8.breaksAt_iff.2 ⟨g, hdecode, rfl⟩⟩

/-- **The faults of reading a region.** -/
theorem explains_of_extract {tags : List Text} {source : Text} {f : FileFault}
    (h : w.extract p tags source = .error f) :
    w.Explains p f ∧ ∀ g, f = .access g → g.refusal = .notFound → w.disk.IsMissing w.here p := by
  rw [extract] at h
  cases hread : w.readText p with
  | error g =>
    rw [hread] at h
    obtain rfl := Except.error.inj h
    rcases readText_eq_error hread with ⟨a, rfl, ha⟩ | ⟨a, bytes, rfl, hbytes, hbreaks⟩
    · refine ⟨.inl (w.disk.failsOnly_read w.here p a ha), ?_⟩
      rintro g ⟨⟩ hg
      exact Disk.isMissing_of_read ha hg
    · exact ⟨⟨bytes, hbytes, hbreaks⟩, fun g hg => by cases hg⟩
  | ok content =>
    rw [hread, Except.ok_bind] at h
    cases htags : Tags.ofList tags with
    | error g =>
      rw [htags] at h
      obtain rfl := Except.error.inj h
      exact ⟨trivial, fun g hg => by cases hg⟩
    | ok pair =>
      rw [htags, Except.mapError_ok, Except.ok_bind] at h
      cases hregion : Region.extract pair content with
      | ok region => rw [hregion] at h; cases h
      | error m =>
        rw [hregion] at h
        obtain rfl := Except.error.inj h
        exact ⟨trivial, fun g hg => by cases hg⟩

/-! ### Replacing -/

theorem failsOnly_createDraft (w : Workspace) (t : Path) (tries n : Nat) :
    FailsOnly (·.IsAbout t) (w.createDraft t tries n) := by
  induction tries generalizing n with
  | zero => exact Except.failsOnly_error_iff.2 (.inr (.inr ⟨n, rfl⟩))
  | succ tries ih =>
    rw [createDraft]
    cases hmade : w.disk.create w.here (draft t n) (.file [] Node.draftMode) with
    | ok e => exact Except.failsOnly_ok _
    | error f =>
      dsimp only
      split
      · exact ih (n + 1)
      · refine Except.failsOnly_error_iff.2 (.inr (.inr ⟨n, ?_⟩))
        exact w.disk.failsOnly_create w.here (draft t n) _ f hmade

/-- A draft has the name of a draft. -/
theorem exists_draft_of_createDraft {tries n : Nat} {q : Path} {e : Disk}
    (h : w.createDraft t tries n = .ok (q, e)) : ∃ k, q = draft t k := by
  induction tries generalizing n with
  | zero => cases h
  | succ tries ih =>
    rw [createDraft] at h
    split at h
    · obtain ⟨rfl, -⟩ := Prod.mk.inj (Except.ok.inj h)
      exact ⟨n, rfl⟩
    · split at h
      · exact ih h
      · cases h

/-- A step of a draft fails at the draft, or at the file whose place it is to take. -/
theorem failsOnly_draftSteps (w : Workspace) (t : Path) (n : Nat) (bytes : List UInt8) (mode : Nat)
    (mishap : Option Mishap) : ∀ change ∈ w.draftSteps (draft t n) t bytes mode mishap,
      ∀ d, FailsOnly (·.IsAbout t) (change d) := by
  have hwrite (bs : List UInt8) (d : Disk) :
      FailsOnly (·.IsAbout t) (d.write w.here (draft t n) bs) :=
    (d.failsOnly_write w.here _ _).mono fun g hg => .inr (.inr ⟨n, hg⟩)
  have hmode (d : Disk) : FailsOnly (·.IsAbout t) (d.setMode w.here (draft t n) mode) :=
    (d.failsOnly_setMode w.here _ _).mono fun g hg => .inr (.inr ⟨n, hg⟩)
  have hrename (d : Disk) : FailsOnly (·.IsAbout t) (d.rename w.here (draft t n) t) :=
    (d.failsOnly_rename w.here _ _).mono fun g hg => hg.elim (fun hg => .inr (.inr ⟨n, hg⟩)) .inl
  have hfail (r : Refusal) (onto : Option Text) :
      AccessFault.IsAbout ⟨r, (draft t n).text, onto⟩ t := .inr (.inr ⟨n, rfl⟩)
  cases mishap with
  | none => simpa [draftSteps] using ⟨hwrite bytes, hmode, hrename⟩
  | some mishap =>
    cases mishap with
    | unencodable _ => simpa [draftSteps] using fun _ => hfail ..
    | write written _ => simpa [draftSteps] using ⟨hwrite (bytes.take written), fun _ => hfail ..⟩
    | setMode _ => simpa [draftSteps] using ⟨hwrite bytes, fun _ => hfail ..⟩
    | rename _ => simpa [draftSteps] using ⟨hwrite bytes, hmode, fun _ => hfail ..⟩

/-- A file that cannot be replaced is to blame itself, or a draft beside it. -/
theorem overwrite_eq_error {content : Text} {f : FileFault}
    (h : (w.overwrite t content).1 = .error f) : ∃ g, f = .access g ∧ g.IsAbout t := by
  unfold overwrite at h
  cases hstat : w.disk.stat w.here t with
  | error g =>
    rw [hstat] at h
    exact ⟨g, (Except.error.inj h).symm, .inl (w.disk.failsOnly_stat w.here t g hstat)⟩
  | ok found =>
    obtain ⟨l, old⟩ := found
    rw [hstat] at h
    cases hmade : w.createDraft t (w.disk.slots.length + 1) 0 with
    | error g =>
      rw [hmade] at h
      exact ⟨g, (Except.error.inj h).symm, w.failsOnly_createDraft t _ _ g hmade⟩
    | ok made =>
      obtain ⟨q, e⟩ := made
      obtain ⟨n, rfl⟩ := exists_draft_of_createDraft hmade
      rw [hmade] at h
      dsimp only at h
      split at h
      · cases h
      · next g e' hattempt =>
        have hsteps := w.failsOnly_draftSteps t n (Utf8.encode content) old.mode
          (w.mishap? w.disk.nextSerial)
        refine ⟨g, (Except.error.inj h).symm, Disk.failsOnly_attempt e hsteps g ?_⟩
        rw [hattempt]
        rfl

/-- Why the region of a file cannot be replaced. -/
theorem patchRegion_eq_error {tags : Tags} {block : Text} {f : FileFault}
    (h : (w.patchRegion t tags block).1 = .error f) :
    (∃ g, f = .access g ∧ g.IsAbout t) ∨
      (∃ g bytes, f = .encoding g ∧ w.disk.read w.here t = .ok bytes ∧
        Utf8.BreaksAt bytes g.position) ∨
      ∃ m source, f = .missingTag m source := by
  rw [patchRegion] at h
  cases hread : w.readText t with
  | error g =>
    rw [hread] at h
    obtain rfl := Except.error.inj h
    rcases readText_eq_error hread with ⟨a, rfl, ha⟩ | hbreaks
    · exact .inl ⟨a, rfl, .inl (w.disk.failsOnly_read w.here t a ha)⟩
    · exact .inr (.inl hbreaks)
  | ok content =>
    rw [hread] at h
    dsimp only at h
    cases hregion : Region.replace tags block content with
    | error m =>
      rw [hregion] at h
      exact .inr (.inr ⟨m, t.text, (Except.error.inj h).symm⟩)
    | ok updated =>
      rw [hregion] at h
      dsimp only at h
      split at h
      · cases h
      · cases hwritten : (w.overwrite t updated).1 with
        | error g =>
          rw [hwritten] at h
          obtain rfl := Except.error.inj h
          exact .inl (overwrite_eq_error hwritten)
        | ok u => rw [hwritten] at h; cases h

/-- Taking a lock changes no bytes of a file that is there. -/
theorem read_of_acquire (here : IsOpen w.disk w.here) (hl : w.disk.locate w.here p = .ok l)
    {timeout : Value} {operation : Text} {serial : Nat} {locked : Workspace}
    (h : w.acquire (pathOf l) timeout operation = .ok (serial, locked)) {bytes : List UInt8}
    (hread : locked.disk.read locked.here (pathOf l) = .ok bytes) :
    w.disk.read w.here p = .ok bytes := by
  obtain ⟨n, hn, hlink, hsettled, hn'⟩ := acquire_keeps here hl h
  rw [Disk.read, hsettled.stat hn' hlink] at hread
  rw [Disk.read, Disk.stat_eq_ok_iff.2 ⟨hl, hn⟩]
  cases n with
  | file bs m => exact hread
  | directory m => cases hread
  | link t => cases hread

/-- Why the file to be changed is not found. -/
theorem explains_of_target {f : FileFault} (h : w.target p = .error f) : w.Explains p f := by
  rw [target] at h
  cases hexists : w.disk.exists? w.here p with
  | error g =>
    rw [hexists] at h
    obtain rfl := Except.error.inj h
    exact .inl (w.disk.failsOnly_holds w.here p _ g hexists).1
  | ok b =>
    rw [hexists] at h
    cases b with
    | false =>
      obtain rfl := Except.error.inj h
      exact .inl (Disk.isMissing_of_exists? hexists)
    | true =>
      rw [resolve] at h
      cases hl : w.disk.locate w.here p with
      | ok l => rw [hl] at h; cases h
      | error g =>
        rw [hl] at h
        obtain rfl := Except.error.inj h
        exact .inl (w.disk.failsOnly_locate w.here p true g hl)

/-- Why a lock cannot be taken once there is time for it. -/
theorem explains_of_seize (found : Disk.Reached w.disk true l) (htarget : w.target p = .ok (pathOf l))
    {timeout : Value} {operation : Text} {f : FileFault}
    (h : w.seize (pathOf l) timeout operation = .error f) :
    w.Explains p (asTargetFault (pathOf l) f) := by
  rw [seize] at h
  cases htouch : w.disk.touch w.here (pathOf l).sidecar with
  | error g =>
    rw [htouch] at h
    obtain rfl := Except.error.inj h
    rw [asTargetFault]
    split
    · next hg =>
      have habove : IsOpen w.disk (sidecarPlace l).dropLast := by
        rw [sidecarPlace_eq, List.dropLast_concat]
        exact found.above
      have hdots : ∀ n ∈ (sidecarPlace l).getLast?, n ≠ ['.', '.'] := by
        rw [sidecarPlace_eq, List.getLast?_concat]
        intro n hn
        exact Option.some.inj hn ▸ sidecarName_ne l
      obtain ⟨target, hlink⟩ := Disk.exists_link_of_touch habove hdots htouch hg
      exact .inr ⟨pathOf l, target, htarget, hlink⟩
    · exact .inr ⟨pathOf l, htarget, .inr (.inl (w.disk.failsOnly_touch w.here _ g htouch))⟩
  | ok made =>
    rw [htouch, Except.mapError_ok, Except.ok_bind] at h
    dsimp only at h
    split at h
    · cases h
    · split at h <;> (obtain rfl := Except.error.inj h; exact trivial)

/-- What is to be changed is there. -/
theorem exists_node_of_target (htarget : w.target p = .ok t) (hl : w.disk.locate w.here p = .ok l) :
    ∃ n, w.disk.node? l = some n := by
  obtain ⟨b, hexists, h⟩ := Except.bind_eq_ok_iff.1 htarget
  cases b with
  | false => cases h
  | true =>
    obtain ⟨k, n, hk, hn⟩ := exists?_spec (Except.mapError_eq_ok_iff.1 hexists)
    obtain rfl := Except.ok.inj (hl.symm.trans hk)
    exact ⟨n, hn⟩

/-- **The faults of taking the lock of a file** that was found. -/
theorem explains_of_acquire (here : IsOpen w.disk w.here) (named : NullFree w.disk w.here)
    (htarget : w.target p = .ok t) {timeout : Value} {operation : Text} {f : FileFault}
    (h : w.acquire t timeout operation = .error f) : w.Explains p (asTargetFault t f) := by
  obtain ⟨l, hl, rfl⟩ := target_spec htarget
  have found := here.reached_of_locate hl
  rw [acquire] at h
  cases hexists : w.disk.exists? w.here (pathOf l) with
  | error g =>
    rw [hexists] at h
    obtain rfl := Except.error.inj h
    obtain ⟨hpath, hfound⟩ := w.disk.failsOnly_holds w.here _ _ g hexists
    rw [asTargetFault, if_neg hfound]
    exact .inr ⟨pathOf l, htarget, .inl hpath⟩
  | ok b =>
    rw [hexists, Except.mapError_ok, Except.ok_bind] at h
    cases b with
    | false =>
      obtain ⟨n, hn⟩ := exists_node_of_target htarget hl
      exact absurd hexists (found.exists?_ne hn (named.locate hl) w.here)
    | true =>
      rw [Bool.not_true, if_neg Bool.false_ne_true] at h
      split at h
      · obtain rfl := Except.error.inj h
        exact trivial
      · split at h
        · obtain rfl := Except.error.inj h
          exact trivial
        · split at h <;> (obtain rfl := Except.error.inj h; exact trivial)
        · exact explains_of_seize found htarget h

/-- **The faults of replacing a region.** -/
theorem explains_of_replaceRegion (here : IsOpen w.disk w.here) (named : NullFree w.disk w.here)
    {document : Text} {tags : List Text} {annotate : Bool} {timeout : Value} {f : FileFault}
    (h : (w.replaceRegion p document tags annotate timeout).1 = .error f) : w.Explains p f := by
  rw [replaceRegion] at h
  cases htags : Tags.ofList tags with
  | error g =>
    rw [htags] at h
    obtain rfl := Except.error.inj h
    exact trivial
  | ok pair =>
    rw [htags] at h
    cases htarget : w.target p with
    | error g =>
      rw [htarget] at h
      obtain rfl := Except.error.inj h
      exact explains_of_target htarget
    | ok t =>
      rw [htarget] at h
      simp only [Except.mapError_ok] at h
      cases hacquire : w.acquire t timeout injecting with
      | error g =>
        rw [hacquire] at h
        obtain rfl := Except.error.inj h
        exact explains_of_acquire here named htarget hacquire
      | ok taken =>
        obtain ⟨serial, locked⟩ := taken
        rw [hacquire] at h
        simp only [Except.mapError_ok] at h
        cases hpatch : (locked.patchRegion t pair (generatedBlock annotate document)).1 with
        | ok changed => rw [hpatch] at h; cases h
        | error g =>
          rw [hpatch] at h
          obtain rfl := Except.error.inj h
          rcases patchRegion_eq_error hpatch with
            ⟨a, rfl, ha⟩ | ⟨a, bytes, rfl, hbytes, hbreaks⟩ | ⟨m, source, rfl⟩
          · exact .inr ⟨t, htarget, ha⟩
          · obtain ⟨l, hl, rfl⟩ := target_spec htarget
            exact ⟨bytes, read_of_acquire here hl hacquire hbytes, hbreaks⟩
          · exact trivial

/-! ### Delimiters that are none -/

theorem failsOnly_readText (w : Workspace) (p : Path) : FailsOnly (¬ ·.IsOfTags) (w.readText p) := by
  intro f h
  rcases readText_eq_error h with ⟨g, rfl, -⟩ | ⟨g, bytes, rfl, -, -⟩ <;> exact id

theorem failsOnly_target (w : Workspace) (p : Path) : FailsOnly (¬ ·.IsOfTags) (w.target p) := by
  unfold target
  refine (Except.failsOnly_mapError_iff.2 fun _ _ => id).bind fun found _ => ?_
  split
  · exact Except.failsOnly_error_iff.2 id
  · exact Except.failsOnly_mapError_iff.2 fun _ _ => id

theorem failsOnly_seize (w : Workspace) (t : Path) (timeout : Value) (operation : Text) :
    FailsOnly (¬ ·.IsOfTags) (w.seize t timeout operation) := by
  unfold seize
  refine (Except.failsOnly_mapError_iff.2 fun _ _ => id).bind fun made _ => ?_
  dsimp only
  split
  · exact Except.failsOnly_ok _
  · split <;> exact Except.failsOnly_error_iff.2 id

theorem failsOnly_acquire (w : Workspace) (t : Path) (timeout : Value) (operation : Text) :
    FailsOnly (¬ ·.IsOfTags) (w.acquire t timeout operation) := by
  unfold acquire
  refine (Except.failsOnly_mapError_iff.2 fun _ _ => id).bind fun found _ => ?_
  split
  · exact Except.failsOnly_error_iff.2 id
  · split
    · exact Except.failsOnly_error_iff.2 id
    · split
      · exact Except.failsOnly_error_iff.2 id
      · split <;> exact Except.failsOnly_error_iff.2 id
      · exact failsOnly_seize w t timeout operation

theorem isOfTags_asTargetFault {f : FileFault} (h : (asTargetFault t f).IsOfTags) : f.IsOfTags := by
  cases f with
  | access g =>
    rw [asTargetFault] at h
    split at h <;> exact h
  | _ => exact h

/-- A region is read with delimiters that are none only if they are handed over so. -/
theorem ofList_of_extract {tags : List Text} {source : Text} {g : Tags.Fault}
    (h : w.extract p tags source = .error (.tags g)) : Tags.ofList tags = .error g := by
  rw [extract] at h
  cases hread : w.readText p with
  | error f =>
    rw [hread] at h
    obtain rfl := Except.error.inj h
    exact absurd trivial (w.failsOnly_readText p _ hread)
  | ok content =>
    rw [hread, Except.ok_bind] at h
    cases htags : Tags.ofList tags with
    | error g' =>
      rw [htags] at h
      cases h
      rfl
    | ok pair =>
      rw [htags, Except.mapError_ok, Except.ok_bind] at h
      cases hregion : Region.extract pair content <;> rw [hregion] at h <;> cases h

/-- A region is replaced with delimiters that are none only if they are handed over so. -/
theorem ofList_of_replaceRegion {document : Text} {tags : List Text} {annotate : Bool}
    {timeout : Value} {g : Tags.Fault}
    (h : (w.replaceRegion p document tags annotate timeout).1 = .error (.tags g)) :
    Tags.ofList tags = .error g := by
  rw [replaceRegion] at h
  cases htags : Tags.ofList tags with
  | error g' =>
    rw [htags] at h
    cases h
    rfl
  | ok pair =>
    rw [htags] at h
    cases htarget : w.target p with
    | error f =>
      rw [htarget] at h
      obtain rfl := Except.error.inj h
      exact absurd trivial (w.failsOnly_target p _ htarget)
    | ok t =>
      rw [htarget] at h
      simp only [Except.mapError_ok] at h
      cases hacquire : w.acquire t timeout injecting with
      | error f =>
        rw [hacquire] at h
        have htagged : (asTargetFault t f).IsOfTags := by rw [Except.error.inj h]; trivial
        exact absurd (isOfTags_asTargetFault htagged) (w.failsOnly_acquire t _ _ f hacquire)
      | ok taken =>
        obtain ⟨serial, locked⟩ := taken
        rw [hacquire] at h
        simp only [Except.mapError_ok] at h
        cases hpatch : (locked.patchRegion t pair (generatedBlock annotate document)).1 with
        | ok changed => rw [hpatch] at h; cases h
        | error f =>
          rw [hpatch] at h
          obtain rfl := Except.error.inj h
          rcases patchRegion_eq_error hpatch with ⟨a, ha, -⟩ | ⟨a, bytes, ha, -, -⟩ | ⟨m, source, ha⟩ <;>
            cases ha

end Workspace

end CommandManual
