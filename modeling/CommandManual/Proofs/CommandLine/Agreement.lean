import CommandManual.Proofs.CommandLine.Reading
import CommandManual.Proofs.CommandLine.Stages
import CommandManual.Proofs.Workspace.Agreement
import Mathlib

/-!
# A check tells what an injection would do

A check and an injection are asked for by the same line but for the name of the command. They read
the same options, make the same document and then look at the region of the file in two ways: a
check compares what is in it, and an injection compares the whole content before and after. `Agree`
says how the two end together. That they do is followed along the run, from the reading of the line
over the document to the file.

They are two runs, and each lists the members of sets in an order of its own. A default may be a
set, and then the documents of the two runs need not be the same (`check_disagrees`).

## Main definitions

* `Workspace.ReadsAlike`: a definition gives the same tree in another order of sets.
* `CommandLine.Agree`: how a check and an injection end together.

## Main results

* `CommandLine.agree_of_region`: the last steps of the two runs agree.
* `CommandLine.check_agrees`: the two runs agree, and which files they leave alone.
* `CommandLine.check_disagrees`: two things that may come between them.
-/

namespace CommandManual

/-- A run that lists sets in another order reads the same tree from a definition. The definition
holds nothing but characters: it is not refused for half of a surrogate pair. -/
structure Workspace.ReadsAlike (w : Workspace) (order : SetOrder) (p : Path) : Prop where
  tree : { w with setOrder := order }.loadDefinition p = w.loadDefinition p
  characters : ∀ path n, w.loadDefinition p ≠ .error (.yaml path (.surrogate n))

namespace CommandLine

open Disk (IsOpen)

variable {w : Workspace} {e : Ending} {order : SetOrder}

/-- How a check and an injection end together. -/
inductive Agree : Ending → Ending → Prop
  | current (file : Text) : Agree (.current file) (.injected file false)
  | stale (file : Text) : Agree (.stale file none) (.injected file true)
  | failure {checked injected : Ending} (hchecked : checked.IsFailure)
      (hinjected : injected.IsFailure) (same : checked.exitCode = injected.exitCode) :
      Agree checked injected

namespace Agree

/-- A failure that both runs have in common. -/
theorem of_isFailure (h : e.IsFailure) : Agree e e := .failure h h rfl

variable {checked injected : Ending} (h : Agree checked injected)

include h

theorem exitCode_eq_zero_iff : checked.exitCode = 0 ↔ ∃ file, injected = .injected file false := by
  cases h with
  | current file => exact ⟨fun _ => ⟨file, rfl⟩, fun _ => rfl⟩
  | stale file => simp [Ending.exitCode]
  | failure hchecked hinjected _ =>
    refine ⟨fun h => absurd h hchecked.exitCode_ne_zero, ?_⟩
    rintro ⟨file, rfl⟩
    exact hinjected.elim

theorem stale_iff (file : Text) : checked = .stale file none ↔ injected = .injected file true := by
  cases h with
  | current f => simp
  | stale f => simp
  | failure hchecked hinjected _ =>
    constructor
    · rintro rfl
      exact hchecked.elim
    · rintro rfl
      exact hinjected.elim

theorem failure_of_forall_ne (hne : ∀ file changed, injected ≠ .injected file changed) :
    checked.exitCode = injected.exitCode ∧ injected.exitCode ≠ 0 := by
  cases h with
  | current file => exact absurd rfl (hne file false)
  | stale file => exact absurd rfl (hne file true)
  | failure _ hinjected same => exact ⟨same, hinjected.exitCode_ne_zero⟩

end Agree

/-! ### Problems -/

theorem isFailure_endWith (p : Problem) : (endWith p).IsFailure := by
  unfold endWith
  split <;> trivial

theorem isFailure_blame (file : Text) (verb : String) (lost : AccessFault → Bool) (p : Problem) :
    (blame file verb lost p).IsFailure := by
  unfold blame
  cases p.complaint with
  | access f =>
    simp only
    split <;> trivial
  | _ => trivial

/-- The exit code of a problem with a file: two for a wrong command line, else one. -/
theorem exitCode_blame (file : Text) (verb : String) (lost : AccessFault → Bool) (p : Problem) :
    (blame file verb lost p).exitCode =
      match p.complaint with
      | .usage _ => 2
      | _ => 1 := by
  unfold blame
  cases p.complaint with
  | access f =>
    simp only
    split <;> rfl
  | _ => rfl

/-- No file makes the command line wrong. -/
theorem exitCode_blame_file (file : Text) (verb : String) (lost : AccessFault → Bool)
    (f : FileFault) : (blame file verb lost (.file f)).exitCode = 1 := by
  rw [exitCode_blame]
  cases f with
  | access f =>
    rw [Problem.complaint, fileComplaint, accessComplaint]
    by_cases hunknown : f.refusal.number?.isNone
    · rw [if_pos hunknown]
    · rw [if_neg hunknown]
  | _ => rfl

/-! ### The last steps -/

/-- Without a program the tree of commands is that of the definition. -/
theorem result_root_of_definition (registry : Registry) {s : Settings} (happ : s.app = [])
    (hgiven : s.definition ≠ []) : (root registry w s).result =
      (w.loadDefinition (Path.ofText s.definition)).mapError .definition := by
  have hone : (List.isEmpty s.app = List.isEmpty s.definition) = False := by
    rw [happ, List.isEmpty_eq_false_iff.2 hgiven]
    simp
  rw [root, if_neg (of_eq_false hone), happ]
  simp only [Noted.result_bind, List.isEmpty_nil, if_true]
  cases w.loadDefinition (Path.ofText s.definition) <;> rfl

/-- Only a definition is read with regard to the order of sets. -/
theorem regionDocument_of_readsAlike (registry : Registry) {s : Settings} (r : RegionRequest)
    (alike : s.app = [] → w.ReadsAlike order (Path.ofText s.definition)) :
    regionDocument registry { w with setOrder := order } s r = regionDocument registry w s r := by
  have hroot : root registry { w with setOrder := order } s = root registry w s := by
    unfold root
    dsimp only
    by_cases happ : s.app = []
    · rw [(alike happ).tree]
    · have hgiven : s.app.isEmpty = false := List.isEmpty_eq_false_iff.2 happ
      simp only [hgiven, Bool.false_eq_true, if_false]
  rw [regionDocument, hroot]
  rfl

/-- **The last steps agree.** Unless the injection reports a change, it does no more than to take
the lock of the file and to give it back. -/
theorem agree_of_region (registry : Registry) (here : IsOpen w.disk w.here) (s : Settings)
    {r : RegionRequest} (hw : w.Writable (Path.ofText r.file))
    (alike : s.app = [] → w.ReadsAlike order (Path.ofText s.definition)) :
    Agree (check registry { w with setOrder := order } s r false).ending
        (inject registry w s r).1.ending ∧
      ((∀ file, (inject registry w s r).1.ending ≠ .injected file true) →
        w.Released (Path.ofText r.file) (inject registry w s r).2) := by
  have hextract (tags : List Text) : Workspace.extract { w with setOrder := order }
      (Path.ofText r.file) tags r.file = w.extract (Path.ofText r.file) tags r.file := rfl
  unfold check inject
  rw [regionDocument_of_readsAlike registry r alike]
  cases hmade : (regionDocument registry w s r).result with
  | error p =>
    simp only [hmade]
    refine ⟨.failure (isFailure_blame ..) (isFailure_blame ..) ?_, fun _ => w.released_refl _⟩
    rw [exitCode_blame, exitCode_blame]
  | ok made =>
    obtain ⟨document, tags⟩ := made
    rcases w.extract_replaceRegion here hw document tags (r.annotate.getD s.config.annotate)
        r.file with
      ⟨f, g, after, hx, hr, hreleased⟩ | ⟨current, i, after, hx, hr, hsame, hreleased⟩
    · simp only [hmade, hextract, hx, hr]
      refine ⟨.failure (isFailure_blame ..) (isFailure_blame ..) ?_, fun _ => hreleased⟩
      rw [exitCode_blame_file, exitCode_blame_file]
    · simp only [hmade, hextract, hx, hr]
      by_cases hcurrent : current = generatedBlock (r.annotate.getD s.config.annotate) document
      · rw [if_pos hcurrent, hsame.2 hcurrent]
        exact ⟨.current r.file, fun _ => hreleased (hsame.2 hcurrent)⟩
      · rw [if_neg hcurrent, Bool.of_not_eq_false fun h => hcurrent (hsame.1 h)]
        exact ⟨.stale r.file, fun h => absurd rfl (h r.file)⟩

/-! ### Whole runs -/

/-- The arguments of a check ask for a check. -/
theorem eq_check_of_read {args : List Text} {q : Request} (h : Request.read w .check args = .ok q) :
    ∃ r diff, q = .check r diff := by
  obtain ⟨a, -, -, hgiven⟩ := exists_of_read h
  cases hgiven with
  | check hr => exact ⟨_, _, rfl⟩

/-- **A check never changes anything**, whatever is asked for and however it ends. -/
theorem snd_run_of_check (registry : Registry) (w : Workspace) {args : List Text}
    (h : ∀ o, Opening.read w args = .ok o → o.command = .check) : (run registry w args).2 = w := by
  have hcourse := course_run registry w args
  generalize (run registry w args).1.ending = e, (run registry w args).2 = after at hcourse ⊢
  cases hcourse with
  | opening | configuration | request => rfl
  | performance asks =>
    obtain ⟨o, hopening, -, -, -, hrequest⟩ := asks
    rw [h o hopening] at hrequest
    obtain ⟨r, diff, rfl⟩ := eq_check_of_read hrequest
    rfl

/-- **Both runs agree.** Unless the injection reports a change, it does no more than to take the
lock of the file and to give it back. -/
theorem agree_of_run (registry : Registry) {front back : List Text} (leads : Leads front)
    (shared : Shared back) (here : IsOpen w.disk w.here)
    (writable : ∀ r, Request.read w .inject back = .ok (.inject r) →
      w.Writable (Path.ofText r.file))
    (alike : ∀ o, Opening.read w (front ++ Interface.Command.inject.name :: back) = .ok o →
      o.app = [] → w.ReadsAlike order (Path.ofText o.definition)) :
    Agree (run registry { w with setOrder := order }
          (front ++ Interface.Command.check.name :: back)).1.ending
        (run registry w (front ++ Interface.Command.inject.name :: back)).1.ending ∧
      ((∀ file, (run registry w (front ++ Interface.Command.inject.name :: back)).1.ending ≠
          .injected file true) →
        (run registry w (front ++ Interface.Command.inject.name :: back)).2 = w ∨
          ∃ r, Request.read w .inject back = .ok (.inject r) ∧ w.Released (Path.ofText r.file)
            (run registry w (front ++ Interface.Command.inject.name :: back)).2) := by
  -- The arguments and the configuration are read without regard to the order of sets.
  have hsame (c : Interface.Command) : Opening.read { w with setOrder := order }
      (front ++ c.name :: back) = Opening.read w (front ++ c.name :: back) := rfl
  have hconfig (asked : Text) :
      configuration { w with setOrder := order } asked = configuration w asked := rfl
  have hrequest : Request.read { w with setOrder := order } .check back =
      Request.read w .check back := rfl
  -- Up to the last steps both runs go the same way, wherever one of the steps is refused.
  rcases leads.read w with ⟨e, he, hopening⟩ | ⟨o, hopening⟩
  · obtain ⟨hchecked, -⟩ := run_of_error registry ((hsame .check).trans (hopening .check back))
    obtain ⟨hinjected, hafter⟩ := run_of_error registry (hopening .inject back)
    rw [hchecked, hinjected]
    exact ⟨Agree.of_isFailure he, fun _ => .inl hafter⟩
  · obtain ⟨hchecked, -⟩ := run_of_ok registry ((hsame .check).trans (hopening .check back))
    obtain ⟨hinjected, hafter⟩ := run_of_ok registry (hopening .inject back)
    rw [hchecked, hinjected, hafter]
    simp only [conclude, hconfig, hrequest]
    cases (configuration w o.config).result with
    | error p => exact ⟨Agree.of_isFailure (isFailure_endWith p), fun _ => .inl rfl⟩
    | ok config =>
      rcases shared.read w with ⟨e, he, hcheck, hinject⟩ | ⟨r, hcheck, hinject⟩
      · simp only [hcheck, hinject]
        exact ⟨Agree.of_isFailure he, fun _ => .inl trivial⟩
      · simp only [hcheck, hinject, perform]
        obtain ⟨hagree, hreleased⟩ :=
          agree_of_region registry here ⟨o.app, o.definition, config⟩ (writable r hinject)
            (alike { o with command := .inject, arguments := back } (hopening .inject back))
        exact ⟨hagree, fun h => .inr ⟨r, rfl, hreleased h⟩⟩

/-- The texts that name a file and the delimiters of its region. -/
def delimited : List Text :=
  ["--start-tag".toList, ['a'], "--end-tag".toList, ['b'], "f.md".toList]

/-- What they are read as. -/
def givenDelimited : Arguments :=
  ⟨[.value "--start-tag".toList ['a'], .value "--end-tag".toList ['b']], ["f.md".toList]⟩

theorem read_delimited :
    Arguments.read Interface.Command.check.options true delimited = some givenDelimited := by
  decide +kernel

theorem shared_delimited : Shared delimited := shared_of_read read_delimited rfl rfl

/-- The region that they ask for, if the file may be named. -/
theorem request_delimited (w : Workspace) (hfile : checkFile w "f.md".toList = .ok ()) :
    Request.read w .check delimited =
      .ok (.check { file := "f.md".toList, opening := ['a'], closing := ['b'] } false) := by
  simp only [Request.read, read_delimited, readRegion, givenDelimited, hfile]
  rfl

/-- An injection asks for the same region. -/
theorem request_inject_delimited (w : Workspace) (hfile : checkFile w "f.md".toList = .ok ())
    {r : RegionRequest} (h : Request.read w .inject delimited = .ok (.inject r)) :
    r = { file := "f.md".toList, opening := ['a'], closing := ['b'] } := by
  have hcheck := request_delimited w hfile
  rcases shared_delimited.read w with ⟨e, -, he, -⟩ | ⟨r', hr', hinject⟩
  · cases hcheck.symm.trans he
  · obtain rfl := Request.inject.inj (Except.ok.inj (hinject.symm.trans h))
    exact (Request.check.inj (Except.ok.inj (hcheck.symm.trans hr'))).1.symm

/-! ### A default that is a set -/

/-- The members of a set from the last to the first. -/
def backwards : SetOrder := ⟨List.reverse, List.reverse_perm⟩

/-- A definition in which the default of an option is a set of two texts. -/
def setDefinition : Text :=
  "name: a\nflags:\n- name: f\n  default: !!set \x7bx, y\x7d\n".toList

/-- The texts that name the definition. -/
def named : List Text := ["--definition".toList, "cli.yaml".toList]

/-- The settings of a run for the definition. -/
def definitionSettings : Settings := ⟨[], "cli.yaml".toList, {}⟩

/-- The document of the definition, if there is one. -/
def setDocument? (order : SetOrder) : Option Text := do
  let v ← (Yaml.read order setDefinition none).toOption
  let c ← (Command.ofDefinition v).toOption
  (tabular definitionSettings [] c).result.toOption

/-- A file with a text, and the definition. -/
def beside (order : SetOrder) (content : Text) : Workspace where
  disk := {
    slots := [⟨["f.md".toList], .file (Utf8.encode content) 0o644, 0⟩,
      ⟨["cli.yaml".toList], .file (Utf8.encode setDefinition) 0o644, 1⟩]
    nextSerial := 2 }
  here := []
  setOrder := order

theorem leads_named : Leads named := by
  intro a ha
  have hread : Arguments.read (Interface.globalOptions ++ [Interface.help]) false
      (named ++ [Interface.Command.check.name]) =
      some ⟨[.value "--definition".toList "cli.yaml".toList], ["check".toList]⟩ := by
    decide +kernel
  obtain rfl := Option.some.inj (hread.symm.trans ha)
  exact ⟨rfl, rfl⟩

/-- What stands in front of the command and behind it, if the definition may be named. -/
theorem read_named (w : Workspace) (hfile : checkFile w "cli.yaml".toList = .ok ())
    (c : Interface.Command) (back : List Text) :
    Opening.read w (named ++ c.name :: back) =
      .ok ⟨[], "cli.yaml".toList, [], false, c, back⟩ := by
  let given : Arguments := ⟨[.value "--definition".toList "cli.yaml".toList], c.name :: back⟩
  have hread : Arguments.read (Interface.globalOptions ++ [Interface.help]) false
      (named ++ c.name :: back) = some given := by cases c <;> rfl
  have hshort : shortcut? given = none := rfl
  have hoptions : checkOptions w given = checkFile w "cli.yaml".toList >>= fun _ => .ok () := rfl
  rw [Opening.read, readGlobal, hread]
  simp only [hshort, Except.ok_bind, hoptions, hfile]
  cases c <;> rfl

section

variable (order : SetOrder) (content : Text)

theorem read_beside (c : Interface.Command) (back : List Text) :
    Opening.read (beside order content) (named ++ c.name :: back) =
      .ok ⟨[], "cli.yaml".toList, [], false, c, back⟩ :=
  read_named _ (by cbv) c back

/-- The definition gives a tree of which the document is made. -/
theorem exists_loadDefinition_beside {document : Text} (h : setDocument? order = some document) :
    ∃ c, (beside order content).loadDefinition (Path.ofText "cli.yaml".toList) = .ok c ∧
      (tabular definitionSettings [] c).result = .ok document := by
  have hread : (beside order content).disk.read (beside order content).here
      (Path.ofText "cli.yaml".toList) = .ok (Utf8.encode setDefinition) := by cbv
  have hpieces : Utf8.decodePieces (Utf8.encode setDefinition) = (setDefinition, none) := by
    decide +kernel
  have horder : (beside order content).setOrder = order := rfl
  simp only [setDocument?, Option.bind_eq_bind, Option.bind_eq_some_iff,
    Except.toOption_eq_some_iff] at h
  obtain ⟨v, hv, c, hc, hdocument⟩ := h
  refine ⟨c, ?_, hdocument⟩
  simp only [Workspace.loadDefinition, hread, Except.mapError_ok, Except.ok_bind, hpieces, horder,
    hv, hc]

theorem writable_beside : (beside order content).Writable (Path.ofText "f.md".toList) := by
  intro t ht
  have htarget : (beside order content).target (Path.ofText "f.md".toList) =
      .ok (Workspace.pathOf ["f.md".toList]) := by cbv
  obtain rfl := Except.ok.inj (htarget.symm.trans ht)
  let locked : Workspace := { beside order content with
    disk := (beside order content).disk.put [".f.md.lock".toList] (.file [] Node.fileMode) }
  have hacquire : (beside order content).acquire (Workspace.pathOf ["f.md".toList])
      Workspace.usualTimeout Workspace.injecting = .ok (2, locked) := by
    have htouch : (beside order content).disk.touch (beside order content).here
        (Workspace.pathOf ["f.md".toList]).sidecar = .ok (locked.disk, [".f.md.lock".toList]) := by
      cbv
    rw [Workspace.acquire_eq_seize (by cbv) (by simp [Workspace.pathOf])
      Workspace.isOver?_usualTimeout]
    exact Workspace.seize_of_touch htouch (by cbv) ..
  have hdraft : locked.createDraft (Workspace.pathOf ["f.md".toList])
      (locked.disk.slots.length + 1) 0 = .ok (Workspace.pathOf [".f.md.00000000.tmp".toList],
        locked.disk.put [".f.md.00000000.tmp".toList] (.file [] Node.draftMode)) := by cbv
  exact ⟨2, locked, _, hacquire, hdraft, rfl⟩

/-- A check compares the region with the document of the definition. -/
theorem ending_check_beside {document current : Text} (h : setDocument? order = some document)
    (hregion : Region.extract ⟨['a'], ['b'], by decide, by decide⟩ content = .ok current) :
    (run [] (beside order content) (named ++ Interface.Command.check.name :: delimited)).1.ending =
      if current = generatedBlock true document then .current "f.md".toList
      else .stale "f.md".toList none := by
  let r : RegionRequest := { file := "f.md".toList, opening := ['a'], closing := ['b'] }
  have hconfig : (configuration (beside order content) []).result = .ok {} := by cbv
  have hcheck : Request.read (beside order content) .check delimited = .ok (.check r false) :=
    request_delimited _ (by cbv)
  have hmade : (regionDocument [] (beside order content) definitionSettings r).result =
      .ok (document, [['a'], ['b']]) := by
    obtain ⟨c, hload, hdocument⟩ := exists_loadDefinition_beside order content h
    have hroot : (root [] (beside order content) definitionSettings).result = .ok c := by
      rw [result_root_of_definition [] rfl (by decide), definitionSettings, hload]
      rfl
    have htags : (Noted.ofExcept (regionTags definitionSettings r)).result =
        .ok [['a'], ['b']] := rfl
    have htabular : (tabular definitionSettings r.calledAs c).result = .ok document := hdocument
    simp only [regionDocument, Noted.result_bind, htags, hroot, Except.bind, htabular]
    rfl
  have hextract : (beside order content).extract (Path.ofText r.file) [['a'], ['b']] r.file =
      .ok current := by
    have htext : (beside order content).disk.read (beside order content).here
        (Path.ofText r.file) = .ok (Utf8.encode content) := by cbv
    have htags : Tags.ofList [['a'], ['b']] = .ok ⟨['a'], ['b'], by decide, by decide⟩ := by
      decide +kernel
    simp only [Workspace.extract, Workspace.readText, htext, Except.mapError_ok, Except.ok_bind,
      Utf8.decode_encode, htags, hregion]
  have hasks : Asks (beside order content) (named ++ Interface.Command.check.name :: delimited)
      definitionSettings (.check r false) :=
    ⟨_, read_beside order content .check delimited, rfl, rfl, hconfig, hcheck⟩
  rw [(run_of_asks [] hasks).1, perform, check]
  simp only [hmade, hextract]
  exact apply_ite Outcome.ending ..

theorem readsAlike_beside {document : Text} (h : setDocument? order = some document) :
    (beside order content).ReadsAlike order (Path.ofText "cli.yaml".toList) := by
  obtain ⟨c, hload, -⟩ := exists_loadDefinition_beside order content h
  refine ⟨rfl, fun path n hn => ?_⟩
  cases hload.symm.trans hn

/-- Every injection into the region of the file can be made. -/
theorem writable_request_beside (r : RegionRequest)
    (hr : Request.read (beside order content) .inject delimited = .ok (.inject r)) :
    (beside order content).Writable (Path.ofText r.file) := by
  rw [request_inject_delimited _ (by cbv) hr]
  exact writable_beside order content

theorem readsAlike_opening_beside {document : Text} (h : setDocument? order = some document)
    (o : Opening) (ho : Opening.read (beside order content)
      (named ++ Interface.Command.inject.name :: delimited) = .ok o) :
    (beside order content).ReadsAlike order (Path.ofText o.definition) := by
  obtain rfl := Except.ok.inj ((read_beside order content .inject delimited).symm.trans ho)
  exact readsAlike_beside order content h

/-- With one order of sets for both runs, a check that finds the file out of date is followed by an
injection that changes it. -/
theorem ending_inject_beside {document current : Text} (h : setDocument? order = some document)
    (hregion : Region.extract ⟨['a'], ['b'], by decide, by decide⟩ content = .ok current)
    (hold : current ≠ generatedBlock true document) :
    (run [] (beside order content) (named ++ Interface.Command.inject.name :: delimited)).1.ending =
      .injected "f.md".toList true := by
  obtain ⟨hagree, -⟩ := agree_of_run [] leads_named shared_delimited .root
    (writable_request_beside order content)
    fun o ho _ => readsAlike_opening_beside order content h o ho
  have hchecked := ending_check_beside order content h hregion
  rw [if_neg hold] at hchecked
  exact (hagree.stale_iff _).1 hchecked

end

/-- The document of the definition in the usual order of sets, in a region. -/
def described : Text :=
  "a\n".toList ++ generatedBlock true ((setDocument? .byRemainder).getD []) ++ "b\n".toList

/-- The document in the usual order is the one in the region, and in the other order it is not. -/
theorem exists_documents : ∃ document document', setDocument? .byRemainder = some document ∧
    setDocument? backwards = some document' ∧
    Region.extract ⟨['a'], ['b'], by decide, by decide⟩ described =
      .ok (generatedBlock true document) ∧
    generatedBlock true document ≠ generatedBlock true document' := by
  obtain ⟨document, hdocument⟩ : ∃ d, setDocument? .byRemainder = some d :=
    Option.isSome_iff_exists.1 (by decide +kernel)
  obtain ⟨document', hdocument'⟩ : ∃ d, setDocument? backwards = some d :=
    Option.isSome_iff_exists.1 (by decide +kernel)
  have hregion : Region.extract ⟨['a'], ['b'], by decide, by decide⟩ described =
      .ok (generatedBlock true ((setDocument? .byRemainder).getD [])) := by decide +kernel
  have hne : (setDocument? .byRemainder).map (generatedBlock true) ≠
      (setDocument? backwards).map (generatedBlock true) := by decide +kernel
  rw [hdocument] at hregion hne
  rw [hdocument'] at hne
  exact ⟨document, document', hdocument, hdocument', hregion, fun h => hne (congrArg some h)⟩

/-- A file with an empty region between two lines, and a sidecar beside it that nobody holds. -/
def leftover : Workspace where
  disk := {
    slots := [⟨["f.md".toList], .file (Utf8.encode "a\nb\n".toList) 0o644, 0⟩,
      ⟨[".f.md.lock".toList], .file [] 0o644, 1⟩]
    nextSerial := 2 }
  here := []

/-- A program without options and without commands below it. -/
def plainRegistry : Registry :=
  [⟨['m'], false, [(['a'], .command (.mk { name := ['a'] } []) [])]⟩]

/-- The texts that name the program. -/
def plainApp : List Text := ["--app".toList, "m:a".toList]

theorem leads_plainApp : Leads plainApp := by
  intro a ha
  have hread : Arguments.read (Interface.globalOptions ++ [Interface.help]) false
      (plainApp ++ [Interface.Command.check.name]) =
      some ⟨[.value "--app".toList "m:a".toList], ["check".toList]⟩ := by decide +kernel
  obtain rfl := Option.some.inj (hread.symm.trans ha)
  exact ⟨rfl, rfl⟩

theorem read_plainApp (c : Interface.Command) (back : List Text) :
    Opening.read leftover (plainApp ++ c.name :: back) =
      .ok ⟨"m:a".toList, [], [], false, c, back⟩ := by
  cases c <;> rfl

/-- Without a definition there are no sets. -/
theorem readsAlike_plainApp (order : SetOrder) (back : List Text) (o : Opening)
    (h : Opening.read leftover (plainApp ++ Interface.Command.inject.name :: back) = .ok o)
    (happ : o.app = []) : leftover.ReadsAlike order (Path.ofText o.definition) := by
  have hnamed : "m:a".toList ≠ [] := by decide
  obtain rfl := Except.ok.inj ((read_plainApp .inject back).symm.trans h)
  exact absurd happ hnamed

theorem configuration_leftover : (configuration leftover []).result = .ok {} := by cbv

/-- The document of the program can be made. -/
theorem exists_document (r : RegionRequest) (tags : List Text)
    (h : (regionDocument plainRegistry leftover ⟨"m:a".toList, [], {}⟩ r).result.toOption.map
      Prod.snd = some tags) :
    ∃ document, (regionDocument plainRegistry leftover ⟨"m:a".toList, [], {}⟩ r).result =
      .ok (document, tags) := by
  cases hmade : (regionDocument plainRegistry leftover ⟨"m:a".toList, [], {}⟩ r).result with
  | error p =>
    rw [hmade] at h
    cases h
  | ok made =>
    rw [hmade] at h
    obtain rfl : made.2 = tags := Option.some.inj h
    exact ⟨made.1, rfl⟩

theorem target_leftover : leftover.target (Path.ofText "f.md".toList) =
    .ok (Workspace.pathOf ["f.md".toList]) := by cbv

theorem acquire_leftover (operation : Text) :
    leftover.acquire (Workspace.pathOf ["f.md".toList]) Workspace.usualTimeout operation =
      .ok (1, leftover) := by
  have htouch : leftover.disk.touch leftover.here (Workspace.pathOf ["f.md".toList]).sidecar =
      .ok (leftover.disk, [".f.md.lock".toList]) := by cbv
  rw [Workspace.acquire_eq_seize (by cbv) (by simp [Workspace.pathOf])
    Workspace.isOver?_usualTimeout]
  exact Workspace.seize_of_touch htouch (by cbv) ..

theorem writable_leftover : leftover.Writable (Path.ofText "f.md".toList) := by
  intro t ht
  obtain rfl := Except.ok.inj (target_leftover.symm.trans ht)
  have hdraft : leftover.createDraft (Workspace.pathOf ["f.md".toList])
      (leftover.disk.slots.length + 1) 0 =
      .ok (Workspace.pathOf [".f.md.00000000.tmp".toList],
        leftover.disk.put [".f.md.00000000.tmp".toList] (.file [] Node.draftMode)) := by cbv
  exact ⟨1, leftover, _, acquire_leftover _, hdraft, rfl⟩

/-- Without delimiters the usual ones are looked for. They are not there, and a check and an
injection fail with one exit code; but the injection takes the sidecar away. -/
theorem inject_clears_leftover :
    let back := ["f.md".toList]
    let checked := run plainRegistry leftover (plainApp ++ Interface.Command.check.name :: back)
    let injected := run plainRegistry leftover (plainApp ++ Interface.Command.inject.name :: back)
    (Leads plainApp ∧ Shared back ∧ leftover.Writable (Path.ofText "f.md".toList)) ∧
      checked.1.ending.exitCode = 1 ∧ injected.1.ending.exitCode = 1 ∧
      leftover.disk.node? [".f.md.lock".toList] = some (.file [] 0o644) ∧
      injected.2.disk.node? [".f.md.lock".toList] = none := by
  intro back checked injected
  have hread : Arguments.read Interface.Command.check.options true back =
      some ⟨[], ["f.md".toList]⟩ := by decide +kernel
  have shared : Shared back := shared_of_read hread rfl rfl
  have hinject : Request.read leftover .inject back = .ok (.inject { file := "f.md".toList }) := by
    cbv
  obtain ⟨document, hmade⟩ := exists_document { file := "f.md".toList }
    [Tags.defaultOpening, Tags.defaultClosing] (by decide +kernel)
  have htags : Tags.ofList [Tags.defaultOpening, Tags.defaultClosing] = .ok Tags.standard := by
    decide +kernel
  have htext : leftover.readText (Workspace.pathOf ["f.md".toList]) = .ok "a\nb\n".toList := by cbv
  have hfind : Region.find Tags.standard "a\nb\n".toList = .error ⟨Tags.defaultOpening⟩ := by
    decide +kernel
  have hreplace (annotate : Bool) : leftover.replaceRegion (Path.ofText "f.md".toList) document
      [Tags.defaultOpening, Tags.defaultClosing] annotate Workspace.usualTimeout =
      (.error (.missingTag ⟨Tags.defaultOpening⟩ "/f.md".toList),
        leftover.discard (Workspace.pathOf [".f.md.lock".toList])) := by
    rw [Workspace.replaceRegion, htags, target_leftover]
    simp only [Except.mapError_ok, acquire_leftover, Workspace.patchRegion, htext, Region.replace,
      hfind]
    rfl
  obtain ⟨hending, hafter⟩ := run_of_ok plainRegistry (read_plainApp .inject back)
  simp only [conclude, configuration_leftover, hinject, perform, inject, hmade, hreplace]
    at hending hafter
  have hfailed : injected.1.ending.exitCode = 1 :=
    (congrArg Ending.exitCode hending).trans (exitCode_blame_file ..)
  have writable : ∀ r, Request.read leftover .inject back = .ok (.inject r) →
      leftover.Writable (Path.ofText r.file) := by
    intro r hr
    obtain rfl := Request.inject.inj (Except.ok.inj (hinject.symm.trans hr))
    exact writable_leftover
  obtain ⟨hagree, -⟩ := agree_of_run plainRegistry leads_plainApp shared .root writable
    (readsAlike_plainApp leftover.setOrder back)
  obtain ⟨hsame, -⟩ := hagree.failure_of_forall_ne fun file changed h => by
    rw [h] at hfailed
    cases hfailed
  have hgone : (leftover.discard (Workspace.pathOf [".f.md.lock".toList])).disk.node?
      [".f.md.lock".toList] = none := by cbv
  refine ⟨⟨leads_plainApp, shared, writable_leftover⟩, hsame.trans hfailed, hfailed, rfl, ?_⟩
  rw [hafter]
  exact hgone

end CommandLine

end CommandManual
