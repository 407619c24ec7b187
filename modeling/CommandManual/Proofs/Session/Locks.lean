import CommandManual.Proofs.Workspace.Locking
import Mathlib

/-!
# Locks in a session

A session starts without sidecars, and takes locks, gives them back, puts documents into files and
changes files in any other way, in any order. A lock is taken under a new name each time, for a file
that is named by a path that meets no link. Nobody but the steps that work with locks makes a
sidecar, removes it or changes its permission bits; they may write into it, but then no document is
put into it.

In such a session the lock of a file is held under one name at most, and its sidecar is there
exactly when the lock is held, whatever has become of the file. A step that demands a lock that is
held is refused and changes nothing, and a lock that nobody holds is given to who asks for it.

## Main definitions

* `Session.Fair`, `Session.FairRun`: the steps of such a session.
* `Session.Demands`: a step that needs the lock of a file that is there.
* `Session.LocksInOrder`: what is known of the locks of a workspace.

## Main results

* `Session.orderly_perform`: a fair step keeps the locks in order.
* `Session.orderly_after`: so does a whole session.
* `Session.locksInOrder_of_fairRun`: what is known of the locks behind every session.
-/

namespace CommandManual

open Disk (IsOpen IsPlain Leads)
open Workspace (IsFiniteTime IsSidecar Orderly isOver? pathOf sidecarPlace usualTimeout)

/-- The path has a sidecar: it has a name, and neither the name nor the path of the sidecar is too
long. -/
structure Path.HasSidecar (p : Path) : Prop where
  named : p.names ≠ []
  short : (Utf8.encode p.sidecar.name).length ≤ Disk.maxNameBytes
  usable : Disk.unusable? p.sidecar.text = none

/-! ### Runs of the program that put a document into a file -/

namespace CommandLine

variable {registry : Registry} {w : Workspace} {args : List Text}

/-- The path of the file into which a run of the program is to put a document. -/
def regionPath? (w : Workspace) (args : List Text) : Option Path :=
  match Opening.read w args with
  | .error _ => none
  | .ok o =>
    match Request.read w o.command o.arguments with
    | .ok (.inject r) => some (Path.ofText r.file)
    | _ => none

/-- The path of a run that comes to put a document into a file. -/
theorem eq_of_asks {p : Path} {s : Settings} {request : Request} (h : Asks w args s request)
    (hp : regionPath? w args = some p) : ∃ r, request = .inject r ∧ p = Path.ofText r.file := by
  obtain ⟨o, ho, -, -, -, hrequest⟩ := h
  rw [regionPath?, ho] at hp
  cases request with
  | inject r =>
    simp only [hrequest, Option.some.injEq] at hp
    exact ⟨r, rfl, hp.symm⟩
  | _ => simp only [hrequest, reduceCtorEq] at hp

/-- A run that puts a document into a file does nothing else. -/
theorem run_of_regionPath? {p : Path} (h : regionPath? w args = some p) :
    (run registry w args).2 = w ∨ ∃ document tags annotate timeout,
      (run registry w args).2 = (w.replaceRegion p document tags annotate timeout).2 := by
  rcases run_cases registry w args with hsame | ⟨s, request, hasks⟩
  · exact .inl hsame
  · obtain ⟨r, rfl, rfl⟩ := eq_of_asks hasks h
    rw [(run_of_asks registry hasks).2, perform, inject]
    split
    · exact .inl rfl
    · next document tags hmade =>
      refine .inr ⟨document, tags, r.annotate.getD s.config.annotate, usualTimeout, ?_⟩
      split <;> next heq => rw [heq]

/-- A run that cannot have the lock of its file reports that, and changes nothing. -/
theorem run_of_locked {s : Settings} {r : RegionRequest} {document : Text} {tags : List Text}
    {operation sidecar : Text} {timeout : Value} (h : Asks w args s (.inject r))
    (hmade : (regionDocument registry w s r).result = .ok (document, tags))
    (hlocked : w.replaceRegion (Path.ofText r.file) document tags
      (r.annotate.getD s.config.annotate) usualTimeout =
        (.error (.locked operation timeout sidecar), w)) :
    (run registry w args).1.ending =
        .failed (FileFault.locked operation timeout sidecar).message ∧
      (run registry w args).2 = w := by
  obtain ⟨hending, hafter⟩ := run_of_asks registry h
  rw [hending, hafter, perform, inject, hmade]
  simp only [hlocked, and_true]
  rfl

end CommandLine

namespace Session

variable {registry : Registry} {w : Workspace} {s : Step} {a b : Text} {l : Location}

/-! ### Fair steps -/

/-- The path of the file into which a step is to put a document. -/
def Step.regionPath? (w : Workspace) : Step → Option Path
  | .replace file .. | .inject file .. => some (w.path file)
  | .program args => CommandLine.regionPath? w args
  | _ => none

/-- A step of a session that respects the locks. -/
structure Fair (registry : Registry) (w : Workspace) (s : Step) : Prop where
  /-- A lock is taken for a file that is named by a path without links. -/
  plain : ∀ file name timeout operation, s = .lock file name timeout operation →
    IsPlain w.disk w.here (w.path file) ∧ (w.path file).name ≠ ['.', '.']
  /-- A lock is taken under a new name. -/
  new : ∀ file name timeout operation, s = .lock file name timeout operation →
    ∀ h ∈ w.holds, h.name ≠ name
  /-- No document is put into a sidecar into which something is written. -/
  empty : ∀ p, s.regionPath? w = some p → ∀ k bytes mode, IsSidecar k →
    w.disk.locate w.here p = .ok k → w.disk.node? k = some (.file bytes mode) → bytes = []
  /-- A step that does not work with locks neither makes nor removes sidecars, nor does it change
  their permission bits. -/
  other : ¬s.MovesLock → s.regionPath? w = none → ∀ k, IsSidecar k →
    ((perform w registry s).2.disk.slot? k).map Slot.blank = (w.disk.slot? k).map Slot.blank

/-- All steps of a session are fair. -/
def FairRun (registry : Registry) (w : Workspace) : List Step → Prop
  | [] => True
  | s :: ss => Fair registry w s ∧ FairRun registry (perform w registry s).2 ss

/-- A step that changes one place only is fair if that is no sidecar. -/
theorem fair_of_slot? (hmoves : ¬s.MovesLock) (hregion : s.regionPath? w = none)
    (hl : ¬IsSidecar l)
    (h : ∀ k, k ≠ l → (perform w registry s).2.disk.slot? k = w.disk.slot? k) :
    Fair registry w s where
  plain := fun file name timeout operation hs => absurd (hs ▸ trivial) hmoves
  new := fun file name timeout operation hs => absurd (hs ▸ trivial) hmoves
  empty := fun p hp => by
    rw [hregion] at hp
    cases hp
  other := fun _ _ k hk => by
    rw [h k]
    rintro rfl
    exact hl hk

/-- A workspace without locks and sidecars, in a directory that is there. -/
structure Fresh (w : Workspace) : Prop where
  here : IsOpen w.disk w.here
  holds : w.holds = []
  sidecars : ∀ k, IsSidecar k → w.disk.slot? k = none

theorem Fresh.orderly (h : Fresh w) : Orderly w where
  here := h.here
  nodup := by simp [h.holds]
  kept := by simp [h.holds]
  serial := by simp [h.holds]
  apart := by simp [h.holds]
  occupied := fun k hk hne => absurd (h.sidecars k hk) hne

/-! ### The order stays -/

/-- A step that puts a document into a file does nothing else. -/
theorem perform_of_regionPath? (registry : Registry) {p : Path} (h : s.regionPath? w = some p) :
    (perform w registry s).2 = w ∨ ∃ document tags annotate timeout,
      (perform w registry s).2 = (w.replaceRegion p document tags annotate timeout).2 := by
  cases s with
  | replace file document tags annotate timeout =>
    obtain rfl := Option.some.inj h
    exact .inr ⟨document, tags, annotate, timeout, rfl⟩
  | inject file root asked tags annotate =>
    obtain rfl := Option.some.inj h
    simp only [perform, Workspace.inject]
    split
    · exact .inl rfl
    · next document hdocument => exact .inr ⟨document, tags, annotate, usualTimeout, rfl⟩
  | program args => exact CommandLine.run_of_regionPath? h
  | _ => cases h

/-- **A fair step keeps the locks in order.** -/
theorem orderly_perform (hw : Orderly w) (hs : Fair registry w s) :
    Orderly (perform w registry s).2 := by
  by_cases hmoves : s.MovesLock
  · cases s with
    | lock file name timeout operation =>
      obtain ⟨plain, hdots⟩ := hs.plain file name timeout operation rfl
      have hname := hs.new file name timeout operation rfl
      cases hhold : w.hold name (w.path file) timeout operation with
      | error f =>
        rw [perform, hhold]
        exact hw
      | ok after =>
        rw [perform, hhold]
        obtain ⟨k, hk, hleads, hnone, rfl⟩ := hw.hold_spec rfl plain hdots hname hhold
        exact hw.hold hk hleads hnone hname
    | unlock name =>
      cases hlet : w.letGo? name with
      | none =>
        rw [perform, hlet]
        exact hw
      | some after =>
        rw [perform, hlet]
        obtain ⟨h, hh, -, k, hkept, rfl⟩ := hw.letGo?_spec hlet
        exact hw.letGo hh hkept
    | _ => exact hmoves.elim
  · cases hregion : s.regionPath? w with
    | none => exact hw.develop (develops_perform registry w hmoves) (hs.other hmoves hregion)
    | some p =>
      rcases perform_of_regionPath? registry hregion with
        h | ⟨document, tags, annotate, timeout, h⟩
      · rw [h]
        exact hw
      · rw [h]
        exact hw.replaceRegion (hs.empty p hregion) document tags annotate timeout

/-- **A fair session keeps the locks in order.** -/
theorem orderly_after {ss : List Step} (hw : Orderly w) (hs : FairRun registry w ss) :
    Orderly (after registry w ss) := by
  induction ss generalizing w with
  | nil => exact hw
  | cons s ss ih => exact ih (orderly_perform hw hs.1) hs.2

/-- **Nobody's lock is touched by others**: only the steps that take or give back the lock with a
name change what is held under it. -/
theorem holds_perform (hw : Orderly w) (hs : Fair registry w s)
    (hlock : ∀ file timeout operation, s ≠ .lock file a timeout operation)
    (hunlock : s ≠ .unlock a) :
    (perform w registry s).2.Holds a l ↔ w.Holds a l := by
  by_cases hmoves : s.MovesLock
  · cases s with
    | lock file name timeout operation =>
      have hne : name ≠ a := fun h => hlock file timeout operation (h ▸ rfl)
      obtain ⟨plain, hdots⟩ := hs.plain file name timeout operation rfl
      cases hhold : w.hold name (w.path file) timeout operation with
      | error f => rw [perform, hhold]; rfl
      | ok after =>
        rw [perform, hhold]
        change after.Holds a l ↔ _
        obtain ⟨k, hk, hleads, hnone, rfl⟩ :=
          hw.hold_spec rfl plain hdots (hs.new file name timeout operation rfl) hhold
        refine hw.holds_congr (Disk.grows_put_of_ne _ (by simp [hnone])).directories fun h ha => ?_
        have hnew : h ≠ ⟨name, (w.path file).sidecar, w.disk.nextSerial⟩ := by
          rintro rfl
          exact hne ha
        rw [List.mem_append, List.mem_singleton, or_iff_left hnew]
    | unlock name =>
      have hne : name ≠ a := fun h => hunlock (h ▸ rfl)
      cases hlet : w.letGo? name with
      | none => rw [perform, hlet]
      | some after =>
        rw [perform, hlet]
        obtain ⟨h, hh, rfl, k, hkept, rfl⟩ := hw.letGo?_spec hlet
        obtain ⟨bytes, mode, hfile⟩ := hkept.node?
        refine hw.holds_congr (Disk.grows_erase (by simp [hfile])).directories fun g hg => ?_
        have hother : g.name ≠ h.name := fun hname => hne (hname.symm.trans hg)
        simp [hother]
    | _ => exact hmoves.elim
  · have hd := develops_perform registry w hmoves
    refine hw.holds_congr hd.grows.directories fun h _ => ?_
    rw [hd.rest]

/-! ### Steps that demand a lock -/

/-- A step that needs the lock of the file in a place, and the fault that refuses it. -/
inductive Demands (registry : Registry) (w : Workspace) (l : Location) : Step → FileFault → Prop
  /-- A lock is to be taken, with a time to wait that comes to an end. -/
  | lock {file name : Text} {timeout : Value} {operation : Text} {n : Node}
      (fair : Fair registry w (.lock file name timeout operation))
      (side : (w.path file).HasSidecar) (finite : IsFiniteTime timeout)
      (found : w.disk.stat w.here (w.path file) = .ok (l, n)) :
      Demands registry w l (.lock file name timeout operation)
        (.locked operation timeout (w.path file).sidecar.text)
  /-- A document is to be put between two delimiters that can be told apart. -/
  | replace {file document : Text} {tags : List Text} {pair : Tags} {annotate : Bool}
      {timeout : Value} {n : Node} (delimiters : Tags.ofList tags = .ok pair)
      (finite : IsFiniteTime timeout)
      (found : w.disk.stat w.here (w.path file) = .ok (l, n)) :
      Demands registry w l (.replace file document tags annotate timeout)
        (.locked Workspace.injecting timeout (pathOf l).sidecar.text)
  /-- The document of a tree of commands is to be put there, and it can be made. -/
  | inject {file : Text} {root : Command} {asked document : Text} {tags : List Text} {pair : Tags}
      {annotate : Bool} {n : Node} (made : renderTabular none root asked = .ok document)
      (delimiters : Tags.ofList tags = .ok pair)
      (found : w.disk.stat w.here (w.path file) = .ok (l, n)) :
      Demands registry w l (.inject file root asked tags annotate)
        (.locked Workspace.injecting usualTimeout (pathOf l).sidecar.text)
  /-- The program is to put it there, and it understands what is asked of it. -/
  | program {args : List Text} {settings : CommandLine.Settings} {r : CommandLine.RegionRequest}
      {document : Text} {tags : List Text} {pair : Tags} {n : Node}
      (asks : CommandLine.Asks w args settings (.inject r))
      (made : (CommandLine.regionDocument registry w settings r).result = .ok (document, tags))
      (delimiters : Tags.ofList tags = .ok pair)
      (found : w.disk.stat w.here (Path.ofText r.file) = .ok (l, n)) :
      Demands registry w l (.program args)
        (.locked Workspace.injecting usualTimeout (pathOf l).sidecar.text)

/-- An answer tells of the fault that a file was locked: it is that fault, or the outcome of a run
that reports it. -/
def Reports (f : FileFault) : Except Fault Answer → Prop
  | .error fault => fault = .file f
  | .ok (.outcome o) => o.ending = .failed f.message
  | .ok _ => False

/-- **A lock that is held is refused**, and nothing is changed. -/
theorem perform_of_holds (hw : Orderly w) {f : FileFault} (hs : Demands registry w l s f)
    (ha : w.Holds a l) : ∃ answer, perform w registry s = (answer, w) ∧ Reports f answer := by
  cases hs with
  | @lock file name timeout operation n fair side finite found =>
    obtain ⟨hl, hn⟩ := Disk.stat_eq_ok_iff.1 found
    obtain ⟨plain, hdots⟩ := fair.plain file name timeout operation rfl
    have hleads := Leads.of_isPlain rfl side.named hdots plain hl
    refine ⟨.error (.file (.locked operation timeout (w.path file).sidecar.text)), ?_, rfl⟩
    rw [perform, hw.hold_of_holds ha hleads hl hn side.usable finite]
    rfl
  | @replace file document tags pair annotate timeout n delimiters finite found =>
    obtain ⟨hl, hn⟩ := Disk.stat_eq_ok_iff.1 found
    refine ⟨.error (.file (.locked Workspace.injecting timeout (pathOf l).sidecar.text)), ?_, rfl⟩
    simp only [perform, hw.replaceRegion_of_holds ha delimiters hl hn finite]
    rfl
  | inject made delimiters found =>
    obtain ⟨hl, hn⟩ := Disk.stat_eq_ok_iff.1 found
    refine ⟨.error (.file (.locked Workspace.injecting usualTimeout (pathOf l).sidecar.text)), ?_,
      rfl⟩
    simp only [perform, Workspace.inject, made,
      hw.replaceRegion_of_holds ha delimiters hl hn Workspace.isFiniteTime_usualTimeout]
    rfl
  | @program args settings r document tags pair n asks made delimiters found =>
    obtain ⟨hl, hn⟩ := Disk.stat_eq_ok_iff.1 found
    obtain ⟨hending, hafter⟩ := CommandLine.run_of_locked asks made
      (hw.replaceRegion_of_holds ha delimiters hl hn Workspace.isFiniteTime_usualTimeout document _)
    refine ⟨.ok (.outcome (CommandLine.run registry w args).1), ?_, hending⟩
    rw [perform]
    exact congrArg _ hafter

/-- **A lock that nobody holds is given.** -/
theorem perform_of_free (hw : Orderly w) {file : Text} {timeout : Value} {operation : Text}
    {n : Node} (fair : Fair registry w (.lock file a timeout operation))
    (side : (w.path file).HasSidecar) (hover : isOver? timeout = some false)
    (found : w.disk.stat w.here (w.path file) = .ok (l, n)) (hfree : ∀ b, ¬w.Holds b l) :
    ∃ after, perform w registry (.lock file a timeout operation) = (.ok .done, after) ∧
      after.Holds a l := by
  obtain ⟨hl, hn⟩ := Disk.stat_eq_ok_iff.1 found
  obtain ⟨plain, hdots⟩ := fair.plain file a timeout operation rfl
  have hleads := Leads.of_isPlain rfl side.named hdots plain hl
  have hside : Leads w.disk (w.path file).sidecar (sidecarPlace l) := by
    obtain ⟨hname, -, -⟩ := hleads.name_eq
    have hshort := side.short
    have husable := side.usable
    rw [Path.sidecar, hname] at hshort husable ⊢
    rw [Path.name_withName] at hshort
    exact hleads.withName_of_isProper ⟨Workspace.sidecarName_ne l, hshort⟩ husable
  obtain ⟨after, hhold, hafter⟩ := hw.hold_of_free hfree hleads hl hn hside hover
    (fair.new file a timeout operation rfl) operation
  refine ⟨after, ?_, hafter⟩
  rw [perform, hhold]
  rfl

/-- **A lock that is given back is free.** -/
theorem perform_unlock (hw : Orderly w) (ha : w.Holds a l) :
    ∃ after, perform w registry (.unlock a) = (.ok .done, after) ∧ ∀ b, ¬after.Holds b l := by
  obtain ⟨hl, h, hh, rfl, hkept⟩ := hw.holds_iff.1 ha
  have hlet := hw.letGo?_eq hh hkept
  refine ⟨_, by rw [perform, hlet], fun b hb => ?_⟩
  have hsome := ((hw.letGo hh hkept).isSome_slot?_iff hl).2 ⟨b, hb⟩
  change ((w.disk.erase (sidecarPlace l)).slot? (sidecarPlace l)).isSome = true at hsome
  rw [Disk.slot?_erase, if_pos rfl] at hsome
  cases hsome

/-! ### Whole sessions -/

/-- What is known of the locks of a workspace and of the steps that work with them. -/
structure LocksInOrder (registry : Registry) (w : Workspace) : Prop where
  /-- The lock of a file is held under one name at most. -/
  unique {a b : Text} {l : Location} : w.Holds a l → w.Holds b l → a = b
  /-- Under a name the lock of one file is held at most. -/
  single {a : Text} {l k : Location} : w.Holds a l → w.Holds a k → l = k
  /-- The sidecar of a file is there exactly when the lock is held. -/
  sidecar {l : Location} : l ≠ [] →
    ((w.disk.slot? (sidecarPlace l)).isSome = true ↔ ∃ a, w.Holds a l)
  /-- Only the steps that take or give back the lock with a name change what is held under it. -/
  kept {s : Step} {a : Text} {l : Location} : Fair registry w s →
    (∀ file timeout operation, s ≠ .lock file a timeout operation) → s ≠ .unlock a →
      ((perform w registry s).2.Holds a l ↔ w.Holds a l)
  /-- A step that demands a lock that is held is refused, and changes nothing. -/
  refused {s : Step} {f : FileFault} {a : Text} {l : Location} : Demands registry w l s f →
    w.Holds a l → ∃ answer, perform w registry s = (answer, w) ∧ Reports f answer
  /-- A lock that nobody holds is given, if there is any time to wait for it. -/
  granted {file a : Text} {timeout : Value} {operation : Text} {l : Location} {n : Node} :
    Fair registry w (.lock file a timeout operation) → (w.path file).HasSidecar →
      isOver? timeout = some false → w.disk.stat w.here (w.path file) = .ok (l, n) →
        (∀ b, ¬w.Holds b l) → ∃ after,
          perform w registry (.lock file a timeout operation) = (.ok .done, after) ∧ after.Holds a l
  /-- A lock that is given back is free. -/
  released {a : Text} {l : Location} : w.Holds a l →
    ∃ after, perform w registry (.unlock a) = (.ok .done, after) ∧ ∀ b, ¬after.Holds b l

/-- **The locks are in order behind every fair session** that starts without any. -/
theorem locksInOrder_of_fairRun {steps : List Step} (fresh : Fresh w)
    (fair : FairRun registry w steps) : LocksInOrder registry (after registry w steps) := by
  have hw := orderly_after fresh.orderly fair
  exact {
    unique := hw.holds_unique
    single := hw.place_unique
    sidecar := hw.isSome_slot?_iff
    kept := holds_perform hw
    refused := perform_of_holds hw
    granted := perform_of_free hw
    released := perform_unlock hw }

/-- A workspace with one file, which is empty. -/
def oneFile (name : Text) : Workspace where
  disk := { slots := [⟨[name], .file [] Node.fileMode, 0⟩], nextSerial := 1 }
  here := []

/-- The workspace with one file after its lock is taken. -/
def heldFile : Workspace where
  disk := {
    slots := [⟨[".x.lock".toList], .file [] Node.fileMode, 1⟩, ⟨[['x']], .file [] Node.fileMode, 0⟩]
    nextSerial := 2 }
  here := []
  holds := [⟨['a'], pathOf [".x.lock".toList], 1⟩]

theorem perform_lock_oneFile : perform (oneFile ['x']) [] (.lock ['x'] ['a'] (.int 5) []) =
    (.ok .done, heldFile) := by
  cbv

/-- A file whose lock is held is removed and made again: the locks stay in order. -/
theorem locksInOrder_of_recreated :
    let steps := [Step.lock ['x'] ['a'] (.int 5) [], .delete ['x'], .write ['x'] [0]]
    Fresh (oneFile ['x']) ∧ FairRun [] (oneFile ['x']) steps ∧
      (after [] (oneFile ['x']) steps).Holds ['a'] [['x']] ∧
      LocksInOrder [] (after [] (oneFile ['x']) steps) := by
  intro steps
  have hx : ¬IsSidecar [['x']] := by
    rintro ⟨directory, n, h⟩
    have hlast := congrArg List.getLast? h
    rw [List.getLast?_concat] at hlast
    cases hlast
  have fresh : Fresh (oneFile ['x']) := by
    refine ⟨.root, rfl, fun k hk => ?_⟩
    have hne : [['x']] ≠ k := fun h => hx (h ▸ hk)
    simp [oneFile, Disk.slot?, hne]
  have hdelete : perform heldFile [] (.delete ['x']) =
      (.ok .done, { heldFile with disk := heldFile.disk.erase [['x']] }) := by cbv
  have hwrite : perform { heldFile with disk := heldFile.disk.erase [['x']] } []
      (.write ['x'] [0]) = (.ok .done, { heldFile with
        disk := (heldFile.disk.erase [['x']]).put [['x']] (.file [0] Node.fileMode) }) := by cbv
  have fair : FairRun [] (oneFile ['x']) steps := by
    refine ⟨?_, ?_, ?_, trivial⟩
    · have hfollow : (oneFile ['x']).disk.follow true 0 [] [['x']] = .ok [['x']] := by cbv
      refine {
        plain := ?_
        new := fun _ _ _ _ _ h hh => by cases hh
        empty := fun p hp => by cases hp
        other := fun h => absurd trivial h }
      intro file name timeout operation h
      cases h
      refine ⟨?_, by decide⟩
      change (oneFile ['x']).disk.follow true 0 [] [['x']] ≠ _
      rw [hfollow]
      intro hloop
      cases hloop
    · rw [perform_lock_oneFile]
      refine fair_of_slot? id rfl hx fun k hk => ?_
      rw [hdelete, Disk.slot?_erase, if_neg hk]
    · rw [perform_lock_oneFile, hdelete]
      refine fair_of_slot? id rfl hx fun k hk => ?_
      rw [hwrite, Disk.slot?_put_of_ne _ hk]
  refine ⟨fresh, fair, ?_, locksInOrder_of_fairRun fresh fair⟩
  simp only [steps, after, perform_lock_oneFile, hdelete, hwrite]
  exact ⟨by simp, _, List.mem_singleton_self _, rfl, by cbv⟩

/-! ### Where the order ends -/

/-- Two directories, one in the other. -/
def twoDirectories : Workspace where
  disk := {
    slots := [⟨[['d']], .directory 0o755, 0⟩, ⟨[['d'], ['e']], .directory 0o755, 1⟩]
    nextSerial := 2 }
  here := []

/-- A name of 252 bytes. -/
def longName : Text := List.replicate 63 '𝑛'

set_option maxRecDepth 8000 in
/-- **The conditions are needed.** The lock of a file that nobody holds is not given if the name of
the sidecar is too long, or if there is no name. A directory is locked twice if it is named by a way
back up. A lock that is held is refused with another fault if the time to wait is a number too large
for a clock or too long to be written, or if a document is to be put between delimiters that are not
a pair. And a sidecar that others have written into is replaced by a document for it, so that it is
not locked any more. -/
theorem locks_beyond_conditions :
    ((perform (oneFile longName) [] (.lock longName ['a'] (.int 5) [])).1 =
        .error (.file (.access ⟨.nameTooLong, (pathOf [longName]).sidecar.text, none⟩)) ∧
      (perform (oneFile ['x']) [] (.lock [] ['a'] (.int 5) [])).1 =
        .error (.file (.nameless ['/']))) ∧
    (twoDirectories.disk.stat [] (twoDirectories.path "d/e/..".toList) =
        twoDirectories.disk.stat [] (twoDirectories.path ['d']) ∧
      (run [] twoDirectories [.lock "d/e/..".toList ['a'] (.int 5) [],
        .lock ['d'] ['b'] (.int 5) []]).map (·.1) = [.ok .done, .ok .done]) ∧
    ((perform heldFile [] (.lock ['x'] ['b'] (.int (10 ^ 400)) [])).1 =
        .error (.file .timeoutRange) ∧
      (perform heldFile [] (.lock ['x'] ['b'] (.int (-10 ^ 4300)) [])).1 =
        .error (.file .timeoutDigits) ∧
      ∀ root asked document, renderTabular none root asked = .ok document →
        (perform heldFile [] (.inject ['x'] root asked [['t']] false)).1 =
          .error (.file (.tags (.count 1)))) ∧
    (run [] heldFile [.write ".x.lock".toList (Utf8.encode "b\ne\n".toList),
      .replace ".x.lock".toList ['y'] [['b'], ['e']] false (.int 5),
      .lock ['x'] ['b'] (.int 5) []]).map (·.1) = [.ok .done, .ok (.changed true), .ok .done] := by
  refine ⟨⟨by cbv, by cbv⟩, ⟨by cbv, by cbv⟩, ⟨?_, ?_, ?_⟩, by cbv⟩
  · have hover : isOver? (.int (10 ^ 400)) = some false := by decide +kernel
    have hrange : Workspace.isInRange (.int (10 ^ 400)) = false := by decide +kernel
    generalize Value.int (10 ^ 400) = timeout at hover hrange
    simp only [perform, Workspace.hold, Workspace.acquire, hover, Workspace.seize, hrange]
    cbv
  · have hover : isOver? (.int (-10 ^ 4300)) = some true := by decide +kernel
    have hdigits : (Value.int (-10 ^ 4300)).isWritable = false := by decide +kernel
    generalize Value.int (-10 ^ 4300) = timeout at hover hdigits
    simp only [perform, Workspace.hold, Workspace.acquire, hover, hdigits]
    cbv
  · intro root asked document hdocument
    simp only [perform, Workspace.inject, hdocument]
    rfl

end Session

end CommandManual
