import CommandManual.Proofs.Workspace.Frame

/-!
# Reading a region and replacing it

What the region of a file holds is read through the path that is given. It is replaced at the place
that this path leads to, while the lock of the file is held. Both look at the same content, because
taking the lock changes no file that is there; so the replacement fails where the reading fails, and
it leaves the file alone where the region holds the block already.

## Main definitions

* `Workspace.Writable`: the lock of a file can be taken, and a draft made that takes its place.
* `Workspace.Released`: nothing was done but that the lock of a file was taken and given back.

## Main results

* `Workspace.extract_replaceRegion`: reading and replacing agree.
* `Workspace.Released.kept`: what is left of a lock that was taken and given back.
-/

namespace CommandManual

namespace Workspace

open Disk (Settled IsOpen)

variable {w : Workspace} {l : Location} {p : Path}

/-- If a path leads to a file, its lock can be taken and a draft made beside it, with which nothing
goes wrong. -/
def Writable (w : Workspace) (p : Path) : Prop :=
  ∀ t, w.target p = .ok t → ∃ serial locked made,
    w.acquire t usualTimeout injecting = .ok (serial, locked) ∧
      locked.createDraft t (locked.disk.slots.length + 1) 0 = .ok made ∧
      locked.mishap? locked.disk.nextSerial = none

/-- Nothing was done to a workspace, or nothing but that the lock of the file behind a path was
taken and given back. -/
def Released (w : Workspace) (p : Path) (after : Workspace) : Prop :=
  after = w ∨ ∃ t serial locked, w.target p = .ok t ∧
    w.acquire t usualTimeout injecting = .ok (serial, locked) ∧ after = locked.discard t.sidecar

theorem released_refl (w : Workspace) (p : Path) : w.Released p w := .inl rfl

/-- **What is left of a lock that was taken and given back**: every place is as it was, but for a
sidecar that nobody held. -/
theorem Released.kept {after : Workspace} (h : w.Released p after) (here : IsOpen w.disk w.here)
    (plain : ∀ t, w.target p = .ok t → ∀ s, w.disk.node? t.sidecar.names ≠ some (.link s))
    (k : Location) : w.Kept p after.disk k := by
  rcases h with rfl | ⟨t, serial, locked, htarget, hacquire, rfl⟩
  · exact kept_refl _ p k
  · obtain ⟨l, hl, rfl⟩ := target_spec htarget
    obtain ⟨-, -, e, rfl, hguard⟩ :=
      guarded_of_acquire (here.reached_of_locate hl) (plain _ htarget) hacquire
    obtain ⟨final, hfinal, hlast, hkept⟩ :=
      hguard.kept htarget (fun _ m hm => ⟨m, hm⟩) fun _ _ => rfl
    rw [hfinal]
    by_cases hk : k = l
    · exact .inl (by rw [hk, hlast, hguard.slots l (sidecarPlace_ne l).symm])
    · exact hkept k hk

/-! ### The text that is looked at -/

theorem readText_eq_ok_iff {content : Text} : w.readText p = .ok content ↔
    ∃ l bs mode, w.disk.stat w.here p = .ok (l, .file bs mode) ∧ Utf8.decode bs = .ok content := by
  rw [readText, Except.bind_eq_ok_iff]
  simp only [Except.mapError_eq_ok_iff, Disk.read, Except.bind_eq_ok_iff]
  constructor
  · rintro ⟨bytes, ⟨⟨l, n⟩, hstat, hbytes⟩, hdecode⟩
    cases n with
    | file bs mode =>
      obtain rfl : bs = bytes := Except.ok.inj hbytes
      exact ⟨l, bs, mode, hstat, hdecode⟩
    | directory mode => cases hbytes
    | link t => cases hbytes
  · rintro ⟨l, bs, mode, hstat, hdecode⟩
    exact ⟨bs, ⟨(l, .file bs mode), hstat, rfl⟩, hdecode⟩

theorem extract_eq_ok_iff {tags : List Text} {source current : Text} :
    w.extract p tags source = .ok current ↔ ∃ (pair : Tags) (c : Region.Cut pair),
      Tags.ofList tags = .ok pair ∧ w.readText p = .ok c.text ∧ c.body = current := by
  simp only [extract, Except.bind_eq_ok_iff, Except.mapError_eq_ok_iff]
  constructor
  · rintro ⟨content, hread, pair, htags, hcut⟩
    obtain ⟨region, hfind, hbody⟩ := Except.map_eq_ok_iff.1 hcut
    obtain ⟨c, rfl, rfl⟩ := Region.find_eq_ok_iff.1 hfind
    exact ⟨pair, c, htags, hread, by rw [← hbody, c.text_region]⟩
  · rintro ⟨pair, c, htags, hread, rfl⟩
    exact ⟨c.text, hread, pair, htags, Region.extract_text c⟩

/-- What is there has a place. -/
theorem target_of_stat {n : Node} (h : w.disk.stat w.here p = .ok (l, n)) :
    w.target p = .ok (pathOf l) := by
  have hexists : w.disk.exists? w.here p = .ok true := by
    rw [Disk.exists?, Disk.holds, h]
  rw [target, hexists, resolve, (Disk.stat_eq_ok_iff.1 h).1]
  rfl

/-- Taking a lock changes no file that is there. -/
theorem acquire_keeps (here : IsOpen w.disk w.here) (hl : w.disk.locate w.here p = .ok l)
    {timeout : Value} {operation : Text} {serial : Nat} {locked : Workspace}
    (h : w.acquire (pathOf l) timeout operation = .ok (serial, locked)) :
    ∃ n, w.disk.node? l = some n ∧ (∀ t, n ≠ .link t) ∧ Settled locked.disk l ∧
      locked.disk.node? l = some n := by
  obtain ⟨hexists, e, k, htouch, -, rfl⟩ := acquire_spec h
  obtain ⟨l', n, hl', hn⟩ := exists?_spec hexists
  have found := here.reached_of_locate hl
  obtain ⟨rfl, hsettled⟩ := Disk.settled_of_locate found.above (fun n hn => (found.proper n hn).1)
    found.not_link hl'
  have hlink : ∀ t, n ≠ .link t := by
    rintro t rfl
    exact found.not_link rfl t hn
  obtain ⟨-, ⟨hnone, rfl⟩ | ⟨-, rfl⟩⟩ := Disk.touch_spec htouch
  · have hslots (j : Location) (hj : j ≠ k) :
        (w.disk.put k (.file [] Node.fileMode)).slot? j = w.disk.slot? j :=
      Disk.slot?_put_of_ne _ hj
    have hne : l' ≠ k := by
      rintro rfl
      rw [hn] at hnone
      cases hnone
    exact ⟨n, hn, hlink, hsettled.mono (Disk.keepsDirectories_of_ne (by simp [hnone]) hslots),
      (Disk.node?_congr (hslots l' hne)).trans hn⟩
  · exact ⟨n, hn, hlink, hsettled, hn⟩

/-- The text of a file is the same while its lock is held. -/
theorem readText_acquire (here : IsOpen w.disk w.here) (hl : w.disk.locate w.here p = .ok l)
    {timeout : Value} {operation : Text} {serial : Nat} {locked : Workspace}
    (h : w.acquire (pathOf l) timeout operation = .ok (serial, locked)) (content : Text) :
    locked.readText (pathOf l) = .ok content ↔ w.readText p = .ok content := by
  obtain ⟨n, hn, hlink, hsettled, hn'⟩ := acquire_keeps here hl h
  have hstat : w.disk.stat w.here p = .ok (l, n) := Disk.stat_eq_ok_iff.2 ⟨hl, hn⟩
  rw [readText_eq_ok_iff, readText_eq_ok_iff, hsettled.stat hn' hlink, hstat]

/-! ### Replacing it -/

/-- **A region is compared and replaced** if there is one, and a draft can be made and moved. -/
theorem patchRegion_of_createDraft (h : Settled w.disk l) {n : Node}
    (hn : w.disk.node? l = some n) (hlink : ∀ t, n ≠ .link t) {made : Path × Disk}
    (hc : w.createDraft (pathOf l) (w.disk.slots.length + 1) 0 = .ok made)
    (smooth : w.mishap? w.disk.nextSerial = none) (tags : Tags) (block : Text) :
    (∃ f, w.patchRegion (pathOf l) tags block = (.error f, w) ∧
      ∀ c : Region.Cut tags, w.readText (pathOf l) ≠ .ok c.text) ∨
    ∃ (c : Region.Cut tags) (after : Workspace), w.readText (pathOf l) = .ok c.text ∧
      w.patchRegion (pathOf l) tags block = (.ok (decide (c.body ≠ block)), after) ∧
      (c.body = block → after = w) := by
  unfold patchRegion
  cases hread : w.readText (pathOf l) with
  | error f => exact .inl ⟨f, rfl, by simp⟩
  | ok content =>
    obtain ⟨mode, rfl⟩ := readText_spec h hn hlink hread
    cases hf : Region.find tags content with
    | error m =>
      refine .inl ⟨.missingTag m (pathOf l).text, ?_, ?_⟩
      · simp only [Region.replace, hf, Except.map]
      · rintro c hcontent
        rw [Except.ok.inj hcontent, Region.find_text] at hf
        cases hf
    | ok region =>
      obtain ⟨c, rfl, rfl⟩ := Region.find_eq_ok_iff.1 hf
      have hsame : c.front ++ block ++ c.back = c.text ↔ c.body = block := by
        rw [Region.Cut.text, List.append_cancel_right_eq, List.append_cancel_left_eq, eq_comm]
      simp only [Region.replace_text, hsame]
      by_cases hbody : c.body = block
      · refine .inr ⟨c, w, rfl, ?_, fun _ => rfl⟩
        rw [if_pos hbody, decide_eq_false (not_not_intro hbody)]
      · obtain ⟨disk, ho, -, -⟩ :=
          overwrite_of_createDraft h hn hc smooth (c.front ++ block ++ c.back)
        refine .inr ⟨c, { w with disk }, rfl, ?_, fun h => absurd h hbody⟩
        rw [if_neg hbody, ho, decide_eq_true hbody]
        rfl

/-- The same while the lock of the file is held, for the text that was read without it. -/
theorem patchRegion_of_acquire (here : IsOpen w.disk w.here)
    (hl : w.disk.locate w.here p = .ok l) {timeout : Value} {operation : Text} {serial : Nat}
    {locked : Workspace} (hacquire : w.acquire (pathOf l) timeout operation = .ok (serial, locked))
    {made : Path × Disk}
    (hc : locked.createDraft (pathOf l) (locked.disk.slots.length + 1) 0 = .ok made)
    (smooth : locked.mishap? locked.disk.nextSerial = none) (tags : Tags) (block : Text) :
    (∃ f, locked.patchRegion (pathOf l) tags block = (.error f, locked) ∧
      ∀ c : Region.Cut tags, w.readText p ≠ .ok c.text) ∨
    ∃ (c : Region.Cut tags) (after : Workspace), w.readText p = .ok c.text ∧
      locked.patchRegion (pathOf l) tags block = (.ok (decide (c.body ≠ block)), after) ∧
      (c.body = block → after = locked) := by
  obtain ⟨n, -, hlink, hsettled, hn⟩ := acquire_keeps here hl hacquire
  have hread := readText_acquire here hl hacquire
  rcases patchRegion_of_createDraft hsettled hn hlink hc smooth tags block with
    ⟨f, hpatch, hnone⟩ | ⟨c, after, htext, hpatch, hsame⟩
  · exact .inl ⟨f, hpatch, fun c hc => hnone c ((hread c.text).2 hc)⟩
  · exact .inr ⟨c, after, (hread c.text).1 htext, hpatch, hsame⟩

/-- The region of a file is read only if there is one. -/
theorem exists_extract_eq_error {tags : List Text} (source : Text)
    (h : ∀ (pair : Tags) (c : Region.Cut pair), Tags.ofList tags = .ok pair →
      w.readText p ≠ .ok c.text) : ∃ f, w.extract p tags source = .error f := by
  cases hx : w.extract p tags source with
  | error f => exact ⟨f, rfl⟩
  | ok current =>
    obtain ⟨pair, c, htags, hread, -⟩ := extract_eq_ok_iff.1 hx
    exact absurd hread (h pair c htags)

/-- **Reading and replacing agree.** The region is found by both or by none. If it is found, the
file is left alone if and only if the region holds the block. -/
theorem extract_replaceRegion (here : IsOpen w.disk w.here) (hw : w.Writable p) (document : Text)
    (tags : List Text) (annotate : Bool) (source : Text) :
    (∃ f g after, w.extract p tags source = .error f ∧
      w.replaceRegion p document tags annotate usualTimeout = (.error g, after) ∧
      w.Released p after) ∨
    ∃ current i after, w.extract p tags source = .ok current ∧
      w.replaceRegion p document tags annotate usualTimeout = (.ok i, after) ∧
      (i.changed = false ↔ current = generatedBlock annotate document) ∧
      (i.changed = false → w.Released p after) := by
  unfold replaceRegion
  cases htags : Tags.ofList tags with
  | error m =>
    obtain ⟨f, hf⟩ := exists_extract_eq_error (w := w) (p := p) source fun pair c h => by
      rw [htags] at h
      cases h
    exact .inl ⟨f, .tags m, w, hf, rfl, w.released_refl p⟩
  | ok pair =>
    cases htarget : w.target p with
    | error g =>
      obtain ⟨f, hf⟩ := exists_extract_eq_error source fun pair c _ h => by
        obtain ⟨l, bs, mode, hstat, -⟩ := readText_eq_ok_iff.1 h
        rw [target_of_stat hstat] at htarget
        cases htarget
      exact .inl ⟨f, g, w, hf, rfl, w.released_refl p⟩
    | ok target =>
      obtain ⟨serial, locked, made, hacquire, hdraft, smooth⟩ := hw target htarget
      obtain ⟨l, hl, rfl⟩ := target_spec htarget
      have hreleased : w.Released p (locked.discard (pathOf l).sidecar) :=
        .inr ⟨_, serial, locked, htarget, hacquire, rfl⟩
      simp only [Except.mapError_ok, hacquire]
      rcases patchRegion_of_acquire here hl hacquire hdraft smooth pair
          (generatedBlock annotate document) with
        ⟨g, hpatch, hnone⟩ | ⟨c, after, htext, hpatch, hsame⟩
      · obtain ⟨f, hf⟩ := exists_extract_eq_error source fun pair' c h => by
          obtain rfl : pair = pair' := Except.ok.inj (htags.symm.trans h)
          exact hnone c
        exact .inl ⟨f, g, _, hf, by rw [hpatch]; rfl, hreleased⟩
      · have hx : w.extract p tags source = .ok c.body :=
          extract_eq_ok_iff.2 ⟨pair, c, htags, htext, rfl⟩
        refine .inr ⟨c.body, ⟨(pathOf l).text, decide (c.body ≠ generatedBlock annotate document)⟩,
          after.discard (pathOf l).sidecar, hx, by rw [hpatch]; rfl, by simp, fun h => ?_⟩
        rw [hsame (by simpa using h)]
        exact hreleased

end Workspace

end CommandManual
