import CommandManual.Proofs.CommandLine.Stages
import CommandManual.Proofs.Disk.Growth
import CommandManual.Proofs.Workspace.Sidecar
import CommandManual.Session.Step

/-!
# What no step takes away

The steps of a session and the runs of the program change a workspace in many ways, but most of them
leave two things alone: the directories that are there, and the locks that are held. The exceptions
are the steps that take a lock or give one back.

## Main definitions

* `Workspace.Develops`: the disk grows, and nothing but the disk changes.

## Main results

* `Workspace.develops_replaceRegion`: putting a document into a file.
* `CommandLine.develops_run`: a run of the program.
* `Session.develops_perform`: a step that neither takes a lock nor gives one back.
-/

namespace CommandManual

namespace Workspace

variable {w v : Workspace}

/-- The disk grows, and nothing but the disk changes. -/
structure Develops (w after : Workspace) : Prop where
  grows : w.disk.Grows after.disk
  rest : after = { w with disk := after.disk }

theorem Develops.refl (w : Workspace) : Develops w w := ⟨.refl _, rfl⟩

theorem Develops.trans {u : Workspace} (h : Develops w v) (h' : Develops v u) : Develops w u where
  grows := h.grows.trans h'.grows
  rest := by
    rw [h'.rest, h.rest]

theorem Develops.of_grows {e : Disk} (h : w.disk.Grows e) : Develops w { w with disk := e } :=
  ⟨h, rfl⟩

theorem develops_discard (w : Workspace) (p : Path) : Develops w (w.discard p) := by
  rw [discard]
  split
  · next e he => exact .of_grows (Disk.grows_delete he)
  · exact .refl w

/-- A draft that is made is made under one of its names. -/
theorem create_of_createDraft {p q : Path} {tries n : Nat} {e : Disk}
    (h : w.createDraft p tries n = .ok (q, e)) :
    w.disk.create w.here q (.file [] Node.draftMode) = .ok e := by
  induction tries generalizing n with
  | zero => cases h
  | succ tries ih =>
    rw [createDraft] at h
    split at h
    · next e' he =>
      obtain ⟨rfl, rfl⟩ := Prod.mk.inj (Except.ok.inj h)
      exact he
    · split at h
      · exact ih h
      · cases h

/-- The steps of a draft grow the disk, whatever goes wrong with them. -/
theorem grows_attempt_draftSteps {q : Path} {e : Disk}
    (hmade : w.disk.create w.here q (.file [] Node.draftMode) = .ok e) (p : Path)
    (bytes : List UInt8) (mode : Nat) (mishap : Option Mishap) :
    e.Grows (e.attempt (w.draftSteps q p bytes mode mishap)).2 := by
  have hwrite (bs : List UInt8) (d d' : Disk) (h : d.write w.here q bs = .ok d') : d.Grows d' :=
    Disk.grows_write h
  have hmode (d d' : Disk) (h : d.setMode w.here q mode = .ok d') : d.Grows d' :=
    Disk.grows_setMode h
  cases mishap with
  | none => exact Disk.grows_attempt_draft hmade p bytes mode
  | some mishap =>
    refine Disk.grows_attempt e ?_
    cases mishap with
    | unencodable _ => simp [draftSteps]
    | write written _ => simpa [draftSteps] using hwrite (bytes.take written)
    | setMode _ => simpa [draftSteps] using hwrite bytes
    | rename _ => simpa [draftSteps] using ⟨hwrite bytes, hmode⟩

theorem develops_overwrite (w : Workspace) (p : Path) (t : Text) :
    Develops w (w.overwrite p t).2 := by
  rw [overwrite]
  split
  · exact .refl w
  · next old hold =>
    split
    · exact .refl w
    · next q e hdraft =>
      have hmade := create_of_createDraft hdraft
      have hmoved := (Disk.grows_create hmade).trans
        (grows_attempt_draftSteps hmade p (Utf8.encode t) old.mode (w.mishap? w.disk.nextSerial))
      dsimp only
      split
      · next e' he =>
        rw [he] at hmoved
        exact .of_grows hmoved
      · next f e' he =>
        rw [he] at hmoved
        exact (Develops.of_grows hmoved).trans (develops_discard _ q)

theorem develops_patchRegion (w : Workspace) (p : Path) (tags : Tags) (block : Text) :
    Develops w (w.patchRegion p tags block).2 := by
  rw [patchRegion]
  split
  · exact .refl w
  · split
    · exact .refl w
    · split
      · exact .refl w
      · exact develops_overwrite w p _

theorem develops_acquire {p : Path} {timeout : Value} {operation : Text} {serial : Nat}
    (h : w.acquire p timeout operation = .ok (serial, v)) : Develops w v := by
  obtain ⟨-, e, k, htouch, -, rfl⟩ := acquire_spec h
  exact .of_grows (Disk.grows_touch htouch)

theorem develops_replaceRegion (w : Workspace) (p : Path) (document : Text) (tags : List Text)
    (annotate : Bool) (timeout : Value) :
    Develops w (w.replaceRegion p document tags annotate timeout).2 := by
  rw [replaceRegion]
  split
  · exact .refl w
  · exact .refl w
  · next tags target htags htarget =>
    split
    · exact .refl w
    · next serial locked hlocked =>
      rw [Except.mapError_eq_ok_iff] at hlocked
      exact ((develops_acquire hlocked).trans (develops_patchRegion locked _ _ _)).trans
        (develops_discard _ _)

theorem develops_inject (w : Workspace) (root : Command) (asked : Text) (p : Path)
    (tags : List Text) (annotate : Bool) :
    Develops w (w.inject root asked p tags annotate).2 := by
  rw [inject]
  split
  · exact .refl w
  · exact develops_replaceRegion w p _ tags annotate usualTimeout

end Workspace

open Workspace (Develops)

/-! ### Runs of the program -/

namespace CommandLine

variable (registry : Registry) (w : Workspace)

theorem develops_save (document output : Text) : Develops w (save w document output).2 := by
  rw [save]
  have hmade := Disk.grows_makeDirectories w.disk w.here (Path.ofText output).parent
  split
  · next f e he =>
    rw [he] at hmade
    exact .of_grows hmade
  · next e he =>
    rw [he] at hmade
    split
    · exact .of_grows hmade
    · next e' he' => exact .of_grows (hmade.trans (Disk.grows_write he'))

theorem develops_print (made : Noted Text) (output : Option Text) :
    Develops w (print w made output).2 := by
  unfold print
  cases made.result with
  | error p => exact .refl w
  | ok document =>
    cases output with
    | none => exact .refl w
    | some output =>
      dsimp only
      split
      · exact .refl w
      · exact develops_save w document output

theorem develops_inject (s : Settings) (r : RegionRequest) :
    Develops w (inject registry w s r).2 := by
  rw [inject]
  split
  · exact .refl w
  · next document tags hmade =>
    have hdone := w.develops_replaceRegion (Path.ofText r.file) document tags
      (r.annotate.getD s.config.annotate) Workspace.usualTimeout
    split
    · next f after hafter =>
      rw [hafter] at hdone
      exact hdone
    · next i after hafter =>
      rw [hafter] at hdone
      exact hdone

theorem develops_perform (s : Settings) (request : Request) :
    Develops w (perform registry w s request).2 := by
  cases request with
  | markdown output => exact develops_print w _ output
  | tabular calledAs output => exact develops_print w _ output
  | man manualSection output => exact develops_print w _ output
  | inject r => exact develops_inject registry w s r
  | check r diff => exact .refl w

theorem develops_run (args : List Text) : Develops w (run registry w args).2 := by
  rcases run_cases registry w args with h | ⟨s, request, hasks⟩
  · rw [h]
    exact .refl w
  · rw [(run_of_asks registry hasks).2]
    exact develops_perform registry w s request

end CommandLine

/-! ### Steps -/

namespace Session

variable (registry : Registry) (w : Workspace)

/-- A step that takes a lock for keeps or gives one back. -/
def Step.MovesLock : Step → Prop
  | .lock .. | .unlock _ => True
  | _ => False

theorem develops_changeDisk {r : Except AccessFault Disk}
    (h : ∀ e, r = .ok e → w.disk.Grows e) : Develops w (changeDisk w r).2 := by
  cases r with
  | ok e => exact .of_grows (h e rfl)
  | error f => exact .refl w

theorem develops_changeBelow (p : Path) {change : Disk → Except AccessFault Disk}
    (h : ∀ d e, change d = .ok e → d.Grows e) : Develops w (changeBelow w p change).2 := by
  rw [changeBelow]
  have hmade := Disk.grows_makeDirectories w.disk w.here p.parent
  split
  · next f e he =>
    rw [he] at hmade
    exact .of_grows hmade
  · next e he =>
    rw [he] at hmade
    exact (Develops.of_grows hmade).trans (develops_changeDisk _ (h e))

/-- **A step that neither takes a lock nor gives one back** leaves the directories and the locks. -/
theorem develops_perform {s : Step} (h : ¬s.MovesLock) :
    Develops w (perform w registry s).2 := by
  cases s with
  | write file bytes => exact develops_changeBelow w _ fun d e he => Disk.grows_write he
  | delete file => exact develops_changeDisk w fun e he => Disk.grows_delete he
  | makeDirectory file =>
    have hmade := Disk.grows_makeDirectoryBelow w.disk w.here (w.path file)
    rw [perform]
    split
    · next f e he =>
      rw [he] at hmade
      exact .of_grows hmade
    · next e he =>
      rw [he] at hmade
      exact .of_grows hmade
  | link file target => exact develops_changeDisk w fun e he => Disk.grows_link he
  | setMode file mode => exact develops_changeDisk w fun e he => Disk.grows_setMode he
  | getMode file => exact .refl w
  | replace file document tags annotate timeout =>
    exact w.develops_replaceRegion _ document tags annotate timeout
  | inject file root asked tags annotate => exact w.develops_inject root asked _ tags annotate
  | extract file tags => exact .refl w
  | overwrite file content => exact w.develops_overwrite _ content
  | lock file name timeout operation => exact absurd trivial h
  | unlock name => exact absurd trivial h
  | sidecar file => exact .refl w
  | findConfig directory => exact .refl w
  | loadConfig file directory => exact .refl w
  | loadDefinition file => exact .refl w
  | program args => exact CommandLine.develops_run registry w args

end Session

end CommandManual
