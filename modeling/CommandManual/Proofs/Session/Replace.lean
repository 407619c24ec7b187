import CommandManual.Proofs.Workspace.Frame
import CommandManual.Session.Step
import Mathlib

/-!
# The places that a replacement may change

A step that puts a document into the region of a file may change that file and nothing else, and it
changes the file only if it says so. This holds in every workspace, whatever is locked in it,
whatever is left over from others and whatever goes wrong with a draft, as long as no link has the
name of the sidecar.

## Main results

* `Session.replace_frame`: what a replacement leaves alone.
-/

namespace CommandManual

namespace Session

/-- **What a replacement leaves alone.** If it fails or finds the text there already, every place is
kept, that of a draft among them, at whatever step it was given up. Otherwise one place has a new
node: the one that the path leads to, which is a file with the same permission bits, the same bytes
up to the end of the start line, and the same bytes from the beginning of the end line on. The
working directory, the locks and the home directories stay. -/
theorem replace_frame (registry : Registry) (w : Workspace) (file document : Text)
    (tags : List Text) (annotate : Bool) (timeout : Value)
    (plain : ∀ t, w.target (w.path file) = .ok t →
      ∀ s, w.disk.node? t.sidecar.names ≠ some (.link s)) :
    ∃ answer disk, perform w registry (.replace file document tags annotate timeout) =
        (answer, { w with disk }) ∧
      (((∃ f, answer = .error f) ∨ answer = .ok (.changed false)) ∧
          (∀ k, w.Kept (w.path file) disk k) ∨
        answer = .ok (.changed true) ∧
          ∃ (l : Location) (pair : Tags) (c : Region.Cut pair) (mode : Nat),
            w.disk.locate w.here (w.path file) = .ok l ∧ Tags.ofList tags = .ok pair ∧
            w.disk.node? l = some (.file (Utf8.encode c.front ++ Utf8.encode c.body ++
              Utf8.encode c.back) mode) ∧
            disk.node? l = some (.file (Utf8.encode c.front ++
              Utf8.encode (generatedBlock annotate document) ++ Utf8.encode c.back) mode) ∧
            disk.node? l ≠ w.disk.node? l ∧ ∀ k, k ≠ l → w.Kept (w.path file) disk k) := by
  obtain ⟨r, disk, hr, hcases⟩ :=
    w.replaceRegion_spec (p := w.path file) (fun _ => Disk.reached_of_locate rfl) plain document
      tags annotate timeout
  refine ⟨(r.map fun i => .changed i.changed).mapError .file, disk, ?_, ?_⟩
  · simp only [perform, hr]
  · rcases hcases with ⟨hr, hkept⟩ |
      ⟨l, pair, rfl, hl, hpair, ⟨c, mode, hold, hnew, hne⟩, hkept⟩
    · refine .inl ⟨?_, hkept⟩
      cases r with
      | error f => exact .inl ⟨.file f, rfl⟩
      | ok i =>
        refine .inr ?_
        simp only [Except.map, Except.mapError_ok, hr i rfl]
    · refine .inr ⟨rfl, l, pair, c, mode, hl, hpair, ?_, ?_, ?_, hkept⟩
      · rw [hold, Region.Cut.text, Utf8.encode_append, Utf8.encode_append]
      · rw [hnew, Utf8.encode_append, Utf8.encode_append]
      · rw [hold, hnew]
        intro h
        rw [Option.some.injEq, Node.file.injEq] at h
        exact hne (Utf8.encode_injective h.1)

/-- A link that leads to a file, with a sidecar beside the file that nobody holds. -/
def linkedWorkspace : Workspace where
  disk := {
    slots := [⟨[['d']], .directory 0o755, 0⟩,
      ⟨[['d'], ['f']], .file (Utf8.encode "a\r\nb\nx\ne\nz".toList) 0o640, 1⟩,
      ⟨[['s']], .link "d/f".toList, 2⟩, ⟨[['d'], ".f.lock".toList], .file [] 0o644, 3⟩]
    nextSerial := 4 }
  here := []

/-- The same, where no draft can be moved. -/
def stuckWorkspace : Workspace :=
  { linkedWorkspace with mishap? := fun _ => some (.rename ⟨13, "Permission denied".toList⟩) }

/-- A replacement through the link: of the other places, the link among them, only that of the
sidecar may change. If the draft cannot be moved, that is so of all places, and no draft remains. -/
theorem replace_frame_of_link :
    (∀ t, linkedWorkspace.target (linkedWorkspace.path ['s']) = .ok t →
        ∀ s, linkedWorkspace.disk.node? t.sidecar.names ≠ some (.link s)) ∧
      (∃ disk, perform linkedWorkspace [] (.replace ['s'] ['y'] [['b'], ['e']] false (.int 5)) =
          (.ok (.changed true), { linkedWorkspace with disk }) ∧
        ∀ k, k ≠ [['d'], ['f']] →
          linkedWorkspace.Kept (linkedWorkspace.path ['s']) disk k) ∧
      ∃ disk, perform stuckWorkspace [] (.replace ['s'] ['y'] [['b'], ['e']] false (.int 5)) =
          (.error (.file (.access ⟨.trouble ⟨13, "Permission denied".toList⟩,
            "/d/.f.00000000.tmp".toList, some "/d/f".toList⟩)), { stuckWorkspace with disk }) ∧
        ∀ k, stuckWorkspace.Kept (stuckWorkspace.path ['s']) disk k := by
  have plain : ∀ t, linkedWorkspace.target (linkedWorkspace.path ['s']) = .ok t →
      ∀ s, linkedWorkspace.disk.node? t.sidecar.names ≠ some (.link s) := by
    intro t ht s hs
    have htarget : linkedWorkspace.target (linkedWorkspace.path ['s']) =
        .ok (Workspace.pathOf [['d'], ['f']]) := by cbv
    obtain rfl := Except.ok.inj (htarget.symm.trans ht)
    have hsidecar : linkedWorkspace.disk.node? (Workspace.pathOf [['d'], ['f']]).sidecar.names =
        some (.file [] 0o644) := rfl
    rw [hsidecar] at hs
    cases hs
  refine ⟨plain, ?_, ?_⟩
  · have hanswer : (perform linkedWorkspace [] (.replace ['s'] ['y'] [['b'], ['e']] false
        (.int 5))).1 = .ok (.changed true) := by cbv
    have hlocate : linkedWorkspace.disk.locate linkedWorkspace.here (linkedWorkspace.path ['s']) =
        .ok [['d'], ['f']] := by cbv
    obtain ⟨answer, disk, h, hcases⟩ :=
      replace_frame [] linkedWorkspace ['s'] ['y'] [['b'], ['e']] false (.int 5) plain
    rw [h] at hanswer
    obtain rfl : answer = _ := hanswer
    refine ⟨disk, h, ?_⟩
    rcases hcases with ⟨⟨f, hf⟩ | hf, -⟩ | ⟨-, l, pair, c, mode, hl, -, -, -, -, hkept⟩
    · cases hf
    · cases hf
    · obtain rfl := Except.ok.inj (hlocate.symm.trans hl)
      exact hkept
  · have hanswer : (perform stuckWorkspace [] (.replace ['s'] ['y'] [['b'], ['e']] false
        (.int 5))).1 = .error (.file (.access ⟨.trouble ⟨13, "Permission denied".toList⟩,
          "/d/.f.00000000.tmp".toList, some "/d/f".toList⟩)) := by cbv
    obtain ⟨answer, disk, h, hcases⟩ :=
      replace_frame [] stuckWorkspace ['s'] ['y'] [['b'], ['e']] false (.int 5) plain
    rw [h] at hanswer
    obtain rfl : answer = _ := hanswer
    refine ⟨disk, h, ?_⟩
    rcases hcases with ⟨-, hkept⟩ | ⟨hchanged, -⟩
    · exact hkept
    · cases hchanged

end Session

end CommandManual
