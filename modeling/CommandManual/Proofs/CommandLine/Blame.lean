import CommandManual.Proofs.CommandLine.Agreement
import CommandManual.Proofs.Document.Skeleton
import CommandManual.Proofs.Workspace.Faults

/-!
# Which file is blamed

When the region of a file is to be filled or checked, all problems on the way are reported by one
handler, and that knows only one file: the one with the region. Whatever is wrong with this file is
reported as it is. But the definition of the commands is read on the way too, and if it is no text,
or if an operation on it fails, the same handler reports it for the file with the region.

## Main definitions

* `CommandLine.regionSteps`: the steps of a run for a region, up to the first problem.
* `CommandLine.Problem.IsEarly`: the problems on the way to a document.
* `CommandLine.Complaint.IsDeserved`: a file is what is reported of it.

## Main results

* `CommandLine.failsOnly_regionDocument`: no problem on the way to a document is with the file.
* `CommandLine.blame_of_run`: when a file is blamed for what it is.
-/

namespace CommandManual

/-- Bytes of which no character begins spell no value. -/
theorem Yaml.read_of_broken (order : SetOrder) (f : Utf8.Fault) :
    read order [] (some f) = .error (.encoding f) := by
  have htokens : tokens (.ofText [] (some f)) = ⟨[], some (.encoding f)⟩ := rfl
  rw [read, document, htokens]
  rfl

namespace CommandLine

open Disk (IsOpen NullFree)
open Except (FailsOnly)

variable {w : Workspace} {args : List Text} {s : Settings} {q : Request} {r : RegionRequest}
  {p : Path} {lost : AccessFault → Bool}

/-! ### Commands for a region -/

/-- The region that is to be filled or checked, if the command is one of the two for that. -/
def Request.region? : Request → Option RegionRequest
  | .inject r | .check r _ => some r
  | _ => none

/-- The word for what was to be done with the file. -/
def Request.verb : Request → String
  | .check .. => "read"
  | _ => "update"

/-- Does a failed access mean that the file is missing? A check takes it so if nothing was found. -/
def Request.countsAsMissing : Request → AccessFault → Bool
  | .check .. => fun f => f.refusal = .notFound
  | _ => fun _ => false

/-- The steps of a run for the region of a file, up to the first problem: the document is made, and
then the region is replaced or read. -/
def regionSteps (registry : Registry) (w : Workspace) (s : Settings) : Request → Except Problem Unit
  | .inject r => do
    let (document, tags) ← (regionDocument registry w s r).result
    let _ ← (w.replaceRegion (Path.ofText r.file) document tags
      (r.annotate.getD s.config.annotate) Workspace.usualTimeout).1.mapError .file
  | .check r _ => do
    let (_, tags) ← (regionDocument registry w s r).result
    let _ ← (w.extract (Path.ofText r.file) tags r.file).mapError .file
  | _ => .ok ()

/-- A run for a region fails with the report of the problem that stopped it, if there is one. -/
theorem perform_of_region (registry : Registry) (w : Workspace) (s : Settings)
    (hr : q.region? = some r) :
    (∃ p, regionSteps registry w s q = .error p ∧
        (perform registry w s q).1.ending = blame r.file q.verb q.countsAsMissing p) ∨
      regionSteps registry w s q = .ok () ∧ ¬ (perform registry w s q).1.ending.IsFailure := by
  cases q with
  | markdown | tabular | man => cases hr
  | inject r' =>
    obtain rfl := Option.some.inj hr
    unfold perform inject
    cases hmade : (regionDocument registry w s r').result with
    | error p => exact .inl ⟨p, by rw [regionSteps, hmade]; rfl, by simp only [hmade]; rfl⟩
    | ok made =>
      obtain ⟨document, tags⟩ := made
      cases hreplaced : w.replaceRegion (Path.ofText r'.file) document tags
          (r'.annotate.getD s.config.annotate) Workspace.usualTimeout with
      | mk replaced after =>
        cases replaced with
        | error f =>
          refine .inl ⟨.file f, ?_, by simp only [hmade, hreplaced]; rfl⟩
          simp only [regionSteps, hmade, Except.ok_bind, hreplaced]
          rfl
        | ok i =>
          refine .inr ⟨?_, by simp only [hmade, hreplaced]; exact id⟩
          simp only [regionSteps, hmade, Except.ok_bind, hreplaced]
          rfl
  | check r' diff =>
    obtain rfl := Option.some.inj hr
    unfold perform check
    cases hmade : (regionDocument registry w s r').result with
    | error p => exact .inl ⟨p, by rw [regionSteps, hmade]; rfl, by simp only [hmade]; rfl⟩
    | ok made =>
      obtain ⟨document, tags⟩ := made
      cases hcurrent : w.extract (Path.ofText r'.file) tags r'.file with
      | error f =>
        refine .inl ⟨.file f, ?_, by simp only [hmade, hcurrent]; rfl⟩
        simp only [regionSteps, hmade, Except.ok_bind, hcurrent]
        rfl
      | ok current =>
        refine .inr ⟨?_, ?_⟩
        · simp only [regionSteps, hmade, Except.ok_bind, hcurrent]
          rfl
        · simp only [hmade, hcurrent]
          split <;> exact id

/-! ### What is reported -/

/-- The file behind a path is what is reported of it: it is no text, and breaks at the offset that
is given; it is not there; or an operation failed on it, on its sidecar or on a draft beside it. -/
def Complaint.IsDeserved (w : Workspace) (p : Path) (lost : AccessFault → Bool) : Complaint → Prop
  | .encoding f => ∃ bytes, w.disk.read w.here p = .ok bytes ∧ (∀ t, Utf8.encode t ≠ bytes) ∧
      Utf8.BreaksAt bytes f.position
  | .noTarget => w.disk.IsMissing w.here p
  | .access f =>
    if lost f then w.disk.IsMissing w.here p
    else f.path = p.text ∨ ∃ t, w.target p = .ok t ∧ f.IsAbout t
  | .usage _ | .plain _ | .unexpected => True

/-- What is reported of a problem with the file. -/
theorem isDeserved_of_explains {f : FileFault} (h : w.Explains p f)
    (hlost : ∀ g, f = .access g → lost g = true → w.disk.IsMissing w.here p) :
    (fileComplaint f).IsDeserved w p lost ∨
      fileComplaint f = .noTarget ∧ w.HasLinkedSidecar p := by
  cases f with
  | encoding g =>
    obtain ⟨bytes, hread, hbreaks⟩ := h
    exact .inl ⟨bytes, hread, hbreaks.encode_ne, hbreaks⟩
  | noTarget t => exact h.imp id fun hlink => ⟨rfl, hlink⟩
  | access g =>
    rw [fileComplaint, accessComplaint]
    split
    · exact .inl trivial
    · refine .inl ?_
      rw [Complaint.IsDeserved]
      split
      · next hg => exact hlost g rfl hg
      · exact h
  | nothingToLock | locked | nameless | timeoutKind | timeoutRange | timeoutDigits | tags
  | missingTag => exact .inl trivial

/-! ### The way to a document -/

theorem Noted.failsOnly_bind {α β : Type} {P : Problem → Prop} {x : Noted α} {f : α → Noted β}
    (h : FailsOnly P x.result) (hf : ∀ a, x.result = .ok a → FailsOnly P (f a).result) :
    FailsOnly P (x >>= f).result := by
  rw [Noted.result_bind]
  exact h.bind hf

/-- A problem on the way to a document. It is with no file but the definition, and with that only if
one is given that cannot be loaded. -/
inductive Problem.IsEarly (w : Workspace) (s : Settings) : Problem → Prop
  | sources : IsEarly w s .sources
  | tagPair : IsEarly w s .tagPair
  | registry (f : Registry.Fault) : IsEarly w s (.registry f)
  | declaration (f : FlagFault) : IsEarly w s (.declaration f)
  | definition {f : DefinitionFault} (given : s.definition ≠ [])
      (h : w.loadDefinition (Path.ofText s.definition) = .error f) : IsEarly w s (.definition f)
  | document {f : DocumentFault} (h : f.IsOfTree) : IsEarly w s (.document f)

/-- Why the tree of commands is not found. -/
theorem failsOnly_root (registry : Registry) (w : Workspace) (s : Settings) :
    FailsOnly (·.IsEarly w s) (root registry w s).result := by
  unfold root
  dsimp only
  split
  · refine Noted.failsOnly_bind ?_ fun u hu => by cases hu
    exact Except.failsOnly_error_iff.2 .sources
  next hone =>
  refine Noted.failsOnly_bind (Except.failsOnly_ok _) fun _ _ => ?_
  split
  · next happ =>
    have hgiven : s.definition ≠ [] := by
      intro hnil
      rw [happ, hnil] at hone
      exact hone rfl
    refine Noted.failsOnly_bind ?_ fun c _ =>
      Noted.failsOnly_bind (Except.failsOnly_ok _) fun _ _ => Except.failsOnly_ok _
    exact Except.failsOnly_mapError_iff.2 fun f hf => .definition hgiven hf
  · refine Noted.failsOnly_bind ?_ fun declared _ => Noted.failsOnly_bind ?_ fun c _ =>
      Noted.failsOnly_bind (Except.failsOnly_ok _) fun _ _ => Except.failsOnly_ok _
    · exact Except.failsOnly_mapError_iff.2 fun f _ => .registry f
    · exact Except.failsOnly_mapError_iff.2 fun f _ => .declaration f

theorem failsOnly_noteView (w : Workspace) (s : Settings) (form : String) (c : Command)
    (asked : Text) : FailsOnly (·.IsEarly w s) (noteView form c asked).result := by
  unfold noteView
  refine Noted.failsOnly_bind (Except.failsOnly_ok _) fun _ _ =>
    Noted.failsOnly_bind ?_ fun _ _ => Except.failsOnly_ok _
  exact Except.failsOnly_mapError_iff.2 fun f _ => .document (.view f)

/-- Why the tabular document cannot be made. -/
theorem failsOnly_tabular (w : Workspace) (s : Settings) (calledAs : Text) (c : Command) :
    FailsOnly (·.IsEarly w s) (tabular s calledAs c).result :=
  Noted.failsOnly_bind (failsOnly_noteView w s _ c _) fun _ _ =>
    Except.failsOnly_mapError_iff.2 fun f hf => .document (failsOnly_renderTabular c _ f hf)

/-- **No problem on the way to a document is with the file** that it is made for. -/
theorem failsOnly_regionDocument (registry : Registry) (w : Workspace) (s : Settings)
    (r : RegionRequest) : FailsOnly (·.IsEarly w s) (regionDocument registry w s r).result := by
  unfold regionDocument
  refine Noted.failsOnly_bind ?_ fun tags _ => Noted.failsOnly_bind (failsOnly_root registry w s)
    fun c _ => Noted.failsOnly_bind (failsOnly_tabular w s _ c) fun _ _ => Except.failsOnly_ok _
  unfold regionTags Noted.ofExcept
  split
  · exact Except.failsOnly_error_iff.2 .tagPair
  · split <;> exact Except.failsOnly_ok _

/-- A definition that cannot be loaded is the problem on the way to a document. -/
theorem regionDocument_of_loadDefinition (registry : Registry) {tags : List Text}
    {f : DefinitionFault} (htags : regionTags s r = .ok tags) (happ : s.app = [])
    (hgiven : s.definition ≠ []) (hload : w.loadDefinition (Path.ofText s.definition) = .error f) :
    (regionDocument registry w s r).result = .error (.definition f) := by
  have hroot : (root registry w s).result = .error (.definition f) := by
    rw [result_root_of_definition registry happ hgiven, hload]
    rfl
  rw [regionDocument, Noted.result_bind, htags]
  simp only [Noted.ofExcept, Noted.result_bind, hroot]
  rfl

/-! ### Whole runs -/

/-- What is reported of a file is so, or it is reported in another's place: in that of a definition
that cannot be loaded, or in that of a sidecar that is a link. -/
inductive Problem.IsExplained (w : Workspace) (s : Settings) (p : Path) (lost : AccessFault → Bool)
    (problem : Problem) : Prop
  | deserved (h : problem.complaint.IsDeserved w p lost)
  | definition {f : DefinitionFault} (fault : problem = .definition f) (given : s.definition ≠ [])
      (h : w.loadDefinition (Path.ofText s.definition) = .error f)
  | sidecar (missing : problem.complaint = .noTarget) (h : w.HasLinkedSidecar p)

theorem Problem.IsEarly.isExplained {problem : Problem} (h : problem.IsEarly w s) :
    problem.IsExplained w s p lost := by
  cases h with
  | definition given h => exact .definition rfl given h
  | sources | tagPair | declaration f => exact .deserved trivial
  | registry f => exact .deserved (by cases f <;> trivial)
  | document h => exact .deserved (by cases h <;> trivial)

theorem isExplained_of_explains {f : FileFault} (h : w.Explains p f)
    (hlost : ∀ g, f = .access g → lost g = true → w.disk.IsMissing w.here p) :
    (Problem.file f).IsExplained w s p lost :=
  (isDeserved_of_explains h hlost).elim (fun h => .deserved h) fun ⟨hmissing, hlink⟩ =>
    .sidecar hmissing hlink

/-- **Every problem of a run for a region** is explained. -/
theorem failsOnly_regionSteps (registry : Registry) (s : Settings) (here : IsOpen w.disk w.here)
    (named : NullFree w.disk w.here) (hr : q.region? = some r) :
    FailsOnly (·.IsExplained w s (Path.ofText r.file) q.countsAsMissing)
      (regionSteps registry w s q) := by
  cases q with
  | markdown | tabular | man => cases hr
  | inject r' =>
    obtain rfl := Option.some.inj hr
    refine ((failsOnly_regionDocument registry w s r').mono fun _ h => h.isExplained).bind
      fun made _ => Except.FailsOnly.bind ?_ fun _ _ => Except.failsOnly_ok _
    refine Except.failsOnly_mapError_iff.2 fun f hf => isExplained_of_explains ?_ ?_
    · exact Workspace.explains_of_replaceRegion here named hf
    · intro g _ hg
      cases hg
  | check r' diff =>
    obtain rfl := Option.some.inj hr
    refine ((failsOnly_regionDocument registry w s r').mono fun _ h => h.isExplained).bind
      fun made _ => Except.FailsOnly.bind ?_ fun _ _ => Except.failsOnly_ok _
    refine Except.failsOnly_mapError_iff.2 fun f hf => ?_
    obtain ⟨hexplains, hmissing⟩ := Workspace.explains_of_extract hf
    exact isExplained_of_explains hexplains fun g hfg hg => hmissing g hfg (of_decide_eq_true hg)

/-- **A file is blamed for what it is**, with two exceptions. Let a run fill or check the region of
a file. If it fails, its ending is the report of the one problem that stopped it. If it is reported
that the file is no UTF-8, then its bytes are those of no text and break at the offset that is
given; if it is reported that it is not found, then nothing is behind its path; and if it is
reported that it cannot be updated or read, then the operation that failed was on it, on its sidecar
or on a draft beside it. Or else the problem is that the definition of the commands cannot be
loaded, which is reported of the file as if it were the file's; or the file is reported missing
because a link is in the place of its sidecar. -/
theorem blame_of_run (registry : Registry) (here : IsOpen w.disk w.here)
    (named : NullFree w.disk w.here) (asks : Asks w args s q) (hr : q.region? = some r) :
    (∃ problem, regionSteps registry w s q = .error problem ∧
        (run registry w args).1.ending = blame r.file q.verb q.countsAsMissing problem ∧
        problem.IsExplained w s (Path.ofText r.file) q.countsAsMissing) ∨
      regionSteps registry w s q = .ok () ∧ ¬ (run registry w args).1.ending.IsFailure := by
  obtain ⟨hending, -⟩ := run_of_asks registry asks
  rw [hending]
  refine (perform_of_region registry w s hr).imp_left ?_
  rintro ⟨problem, hsteps, hblame⟩
  exact ⟨problem, hsteps, hblame, failsOnly_regionSteps registry s here named hr problem hsteps⟩

/-- A file with an empty region between two lines, and a file that is no text. -/
def muddled : Workspace where
  disk := {
    slots := [⟨["f.md".toList], .file (Utf8.encode "a\nb\n".toList) 0o644, 0⟩,
      ⟨["cli.yaml".toList], .file [0xFF] 0o644, 1⟩]
    nextSerial := 2 }
  here := []

/-- The byte that no character begins with. -/
def strayByte : Utf8.Fault := ⟨0, [0xFF], .startByte⟩

/-- The file that is no text is checked, and blamed for it. -/
theorem blame_of_run_of_strayByte :
    let args := plainApp ++ ["check".toList, "cli.yaml".toList]
    let r : RegionRequest := { file := "cli.yaml".toList }
    (IsOpen muddled.disk muddled.here ∧ NullFree muddled.disk muddled.here ∧
        Asks muddled args ⟨"m:a".toList, [], {}⟩ (.check r false)) ∧
      (run plainRegistry muddled args).1.ending =
        .failed "cli.yaml is not valid UTF-8: invalid start byte at byte 0".toList ∧
      ∃ bytes, muddled.disk.read muddled.here (Path.ofText r.file) = .ok bytes ∧
        (∀ t, Utf8.encode t ≠ bytes) ∧ Utf8.BreaksAt bytes 0 := by
  intro args r
  have hopening : Opening.read muddled args =
      .ok ⟨"m:a".toList, [], [], false, .check, ["cli.yaml".toList]⟩ := rfl
  have hconfig : (configuration muddled []).result = .ok {} := by cbv
  have hrequest : Request.read muddled .check ["cli.yaml".toList] = .ok (.check r false) := by cbv
  have asks : Asks muddled args ⟨"m:a".toList, [], {}⟩ (.check r false) :=
    ⟨_, hopening, rfl, rfl, hconfig, hrequest⟩
  have named : NullFree muddled.disk muddled.here := by
    refine ⟨by simp [muddled], fun l t hl => ?_⟩
    rw [Disk.node?] at hl
    split at hl
    · cases hl
    · obtain ⟨slot, hslot, hnode⟩ := Option.map_eq_some_iff.1 hl
      have hmem := List.mem_of_find?_eq_some hslot
      simp only [muddled, List.mem_cons, List.not_mem_nil, or_false] at hmem
      rcases hmem with rfl | rfl <;> cases hnode
  have hsteps : regionSteps plainRegistry muddled ⟨"m:a".toList, [], {}⟩ (.check r false) =
      .error (.file (.encoding strayByte)) := by
    have htags : ((regionDocument plainRegistry muddled ⟨"m:a".toList, [], {}⟩ r).result.toOption.map
        Prod.snd) = some [Tags.defaultOpening, Tags.defaultClosing] := by decide +kernel
    cases hmade : (regionDocument plainRegistry muddled ⟨"m:a".toList, [], {}⟩ r).result with
    | error problem => rw [hmade] at htags; cases htags
    | ok made =>
      rw [hmade] at htags
      obtain ⟨document, tags⟩ := made
      obtain rfl : tags = _ := Option.some.inj htags
      have hextract : muddled.extract (Path.ofText r.file)
          [Tags.defaultOpening, Tags.defaultClosing] r.file = .error (.encoding strayByte) := by cbv
      simp only [regionSteps, hmade, Except.ok_bind, hextract]
      rfl
  rcases blame_of_run plainRegistry .root named asks rfl with
    ⟨problem, hproblem, hending, hexplained⟩ | ⟨hgood, -⟩
  swap
  · cases hsteps.symm.trans hgood
  obtain rfl := Except.error.inj (hsteps.symm.trans hproblem)
  refine ⟨⟨.root, named, asks⟩, hending, ?_⟩
  cases hexplained with
  | deserved h => exact h
  | definition fault => cases fault
  | sidecar missing => cases missing

/-- A definition that is no text is reported of the file that is to be changed, although that is
one. -/
theorem blame_of_broken_definition :
    let args := ["--definition".toList, "cli.yaml".toList, "inject".toList, "f.md".toList]
    (run [] muddled args).1.ending =
        .failed "f.md is not valid UTF-8: invalid start byte at byte 0".toList ∧
      muddled.disk.read muddled.here (Path.ofText "f.md".toList) =
        .ok (Utf8.encode "a\nb\n".toList) := by
  intro args
  have hopening : Opening.read muddled args =
      .ok ⟨[], "cli.yaml".toList, [], false, .inject, ["f.md".toList]⟩ :=
    read_named muddled (by cbv) .inject ["f.md".toList]
  have hconfig : (configuration muddled []).result = .ok {} := by cbv
  have hrequest : Request.read muddled .inject ["f.md".toList] =
      .ok (.inject { file := "f.md".toList }) := by cbv
  have hload : muddled.loadDefinition (Path.ofText "cli.yaml".toList) =
      .error (.encoding strayByte) := by
    have hread : muddled.disk.read muddled.here (Path.ofText "cli.yaml".toList) = .ok [0xFF] := by
      cbv
    have hpieces : Utf8.decodePieces [0xFF] = ([], some strayByte) := by decide
    simp only [Workspace.loadDefinition, hread, Except.mapError_ok, Except.ok_bind, hpieces,
      Yaml.read_of_broken]
    rfl
  have hmade := regionDocument_of_loadDefinition [] (s := ⟨[], "cli.yaml".toList, {}⟩)
    (r := { file := "f.md".toList }) rfl rfl (by decide) hload
  obtain ⟨hending, -⟩ := run_of_ok [] hopening
  simp only [conclude, hconfig, hrequest, perform, inject, hmade] at hending
  exact ⟨hending, by cbv⟩

end CommandLine

end CommandManual
