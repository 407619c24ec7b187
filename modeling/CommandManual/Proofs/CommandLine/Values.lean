import CommandManual.Proofs.CommandLine.Blame
import CommandManual.Proofs.Declaration.Withheld
import CommandManual.Proofs.Workspace.Configuration
import CommandManual.Proofs.View.Places

/-!
# Values that are handed over

A region is not replaced or read with delimiters that are none, and no page is made for a section
below one. The program does not expect to be told so, and no run is: what is handed over is given on
the command line, where it is checked, or set in the configuration, which is valid whatever file it
is read from. Another problem with a page is not expected either, and there are runs that meet it: a
number in the page can have too many digits to be written.

## Main definitions

* `CommandLine.Problem.IsRefusedValue`: a value that was handed over is refused.
* `CommandLine.Ending.IsStop`: how a run ends while its line is read.

## Main results

* `CommandLine.Asks.valid`, `CommandLine.Asks.one_le`: what the settings and the section of a run
  are.
* `CommandLine.manual_eq_digits_iff`: when a page has a number that is too long.
* `CommandLine.not_isRefusedValue_of_run`: no run ends because a value is refused.
* `CommandLine.values_of_run`: what is handed over in a run, and when a page has a number too long.
-/

namespace CommandManual

theorem Tags.ofList_pair (t : Tags) : ofList [t.opening, t.closing] = .ok t :=
  dif_pos ⟨t.opening_ne, t.closing_ne⟩

/-- An option that has a value is given. -/
theorem Arguments.mem_given_of_value? {a : Arguments} {o t : Text} (h : a.value? o = some t) :
    o ∈ a.given := by
  obtain ⟨s, hs, hvalue⟩ := List.exists_of_findSome?_eq_some h
  rw [given, List.mem_eraseDups]
  refine List.mem_map.2 ⟨s, List.mem_reverse.1 hs, ?_⟩
  cases s with
  | switch o' on => cases hvalue
  | value o' t' =>
    dsimp only at hvalue
    split at hvalue
    · assumption
    · cases hvalue

namespace CommandLine

open Except (FailsOnly)
open Interface (definitionKey configKey outputKey sectionKey)

variable {w : Workspace} {args : List Text} {s : Settings} {q : Request} {r : RegionRequest}
  {e : Ending} {p : Problem} {tags : List Text} {n : Option Int} {output : Option Text}

/-! ### The command line -/

/-- How a run ends while its line is read: with help or with the version, or at a text that is
refused. -/
inductive Ending.IsStop : Ending → Prop
  | help : IsStop .help
  | version : IsStop .version
  | refusal {e : Ending} (h : e.IsRefusal) : IsStop e

theorem isStop_of_shortcut? {a : Arguments} (h : shortcut? a = some e) : e.IsStop := by
  obtain ⟨s, -, hs⟩ := List.exists_of_findSome?_eq_some h
  split at hs
  · obtain rfl := Option.some.inj hs
    exact .help
  · split at hs
    · obtain rfl := Option.some.inj hs
      exact .version
    · cases hs

theorem failsOnly_readGlobal (args : List Text) : FailsOnly Ending.IsStop (readGlobal args) := by
  unfold readGlobal
  split
  · exact Except.failsOnly_error_iff.2 (.refusal .misused)
  · split
    · next hshort => exact Except.failsOnly_error_iff.2 (isStop_of_shortcut? hshort)
    · exact Except.failsOnly_ok _

theorem failsOnly_opening (w : Workspace) (args : List Text) :
    FailsOnly Ending.IsStop (Opening.read w args) := by
  refine (failsOnly_readGlobal args).bind fun a _ =>
    ((failsOnly_checkOptions w a).mono fun _ => .refusal).bind fun _ _ => ?_
  split
  · exact Except.failsOnly_error_iff.2 (.refusal .misused)
  · split
    · exact (failsOnly_readGlobal _).bind fun _ _ =>
        Except.failsOnly_error_iff.2 (.refusal .misused)
    · exact Except.failsOnly_ok _

theorem failsOnly_noArguments (a : Arguments) : FailsOnly Ending.IsRefusal (noArguments a) := by
  unfold noArguments
  split
  · exact Except.failsOnly_ok ()
  · exact Except.failsOnly_error_iff.2 .misused

theorem failsOnly_request (w : Workspace) (c : Interface.Command) (args : List Text) :
    FailsOnly Ending.IsStop (Request.read w c args) := by
  unfold Request.read
  split
  · exact Except.failsOnly_error_iff.2 (.refusal .misused)
  · next a _ =>
    have hbare (q : Request) : FailsOnly Ending.IsRefusal (noArguments a >>= fun _ => .ok q) :=
      (failsOnly_noArguments a).bind fun _ _ => Except.failsOnly_ok q
    have hregion (f : RegionRequest → Request) :
        FailsOnly Ending.IsRefusal (readRegion w a >>= fun r => .ok (f r)) :=
      (failsOnly_readRegion w a).bind fun r _ => Except.failsOnly_ok (f r)
    cases hshort : shortcut? a with
    | some e => exact Except.failsOnly_error_iff.2 (isStop_of_shortcut? hshort)
    | none =>
      refine Except.FailsOnly.mono ((failsOnly_checkOptions w a).bind fun _ _ => ?_)
        fun _ => .refusal
      cases c with
      | markdown | tabular | man => exact hbare _
      | inject | check => exact hregion _

/-- A section that is given and was checked counts from one. -/
theorem one_le_of_checkOptions {a : Arguments} (h : checkOptions w a = .ok ()) :
    ∀ m ∈ (a.value? sectionKey).bind Text.wholeNumber?, 1 ≤ m := by
  intro m hm
  obtain ⟨t, ht, hm⟩ := Option.bind_eq_some_iff.1 hm
  have hchecked := Except.forM_eq_ok_iff.1 h sectionKey (Arguments.mem_given_of_value? ht)
  have hfile : ¬ [definitionKey, configKey, outputKey].contains sectionKey := by decide
  rw [ht, Option.map_some, Option.getD_some, checkOption, if_neg hfile, if_pos rfl, checkSection,
    hm] at hchecked
  dsimp only at hchecked
  split at hchecked
  · assumption
  · cases hchecked

theorem one_le_of_read {c : Interface.Command} (h : Request.read w c args = .ok (.man n output)) :
    ∀ m ∈ n, 1 ≤ m := by
  obtain ⟨a, -, hchecked, hgiven⟩ := exists_of_read h
  cases hgiven with
  | man => exact one_le_of_checkOptions hchecked

/-! ### The configuration -/

theorem failsOnly_configuration (w : Workspace) (asked : Text) :
    FailsOnly (fun p => ∃ f, p = .config f) (configuration w asked).result := by
  unfold configuration
  refine Noted.failsOnly_bind (Except.failsOnly_mapError_iff.2 fun f _ => ⟨f, rfl⟩) fun found _ => ?_
  cases found with
  | none => exact Noted.failsOnly_bind (Except.failsOnly_ok _) fun _ _ => Except.failsOnly_ok _
  | some p =>
    exact Noted.failsOnly_bind (Except.failsOnly_mapError_iff.2 fun f _ => ⟨f, rfl⟩) fun v _ =>
      Noted.failsOnly_bind (Except.failsOnly_ok _) fun _ _ =>
        Except.failsOnly_mapError_iff.2 fun f _ => ⟨.content f, rfl⟩

theorem valid_of_configuration {asked : Text} {c : Config}
    (h : (configuration w asked).result = .ok c) : c.Valid := by
  unfold configuration at h
  rw [Noted.result_bind] at h
  obtain ⟨found, -, h⟩ := Except.bind_eq_ok_iff.1 h
  cases found with
  | none =>
    obtain rfl := Except.ok.inj h
    exact Config.valid_default
  | some p =>
    simp only [Noted.result_bind] at h
    obtain ⟨v, -, h⟩ := Except.bind_eq_ok_iff.1 h
    obtain ⟨-, -, h⟩ := Except.bind_eq_ok_iff.1 h
    exact Config.valid_of_ofValue (Except.mapError_eq_ok_iff.1 h)

/-- The configuration of a run is valid, whatever file it is read from. -/
theorem Asks.valid (asks : Asks w args s q) : s.config.Valid := by
  obtain ⟨o, -, -, -, hconfig, -⟩ := asks
  exact valid_of_configuration hconfig

/-- The section of a page counts from one, whether it is given or set in the configuration. -/
theorem Asks.one_le (asks : Asks w args s (.man n output)) :
    1 ≤ n.getD s.config.manualSection := by
  have hvalid := asks.valid
  obtain ⟨o, -, -, -, -, hrequest⟩ := asks
  cases n with
  | none => exact hvalid.one_le_manualSection
  | some m => exact one_le_of_read hrequest m rfl

/-- The delimiters that a run hands over are two, and both are there. -/
theorem exists_tags_of_regionTags (hs : s.config.Valid) (h : regionTags s r = .ok tags) :
    ∃ t : Tags, tags = [t.opening, t.closing] := by
  have hink {t : Text} (ht : t.hasInk = true) : t ≠ [] := by
    rintro rfl
    cases ht
  unfold regionTags at h
  split at h
  · cases h
  · next hboth =>
    split at h
    · obtain rfl := Except.ok.inj h
      exact ⟨⟨_, _, hink hs.hasInk_opening, hink hs.hasInk_closing⟩, rfl⟩
    · next hopening =>
      rw [ne_eq, not_not] at hboth
      obtain rfl := Except.ok.inj h
      have hclosing : ¬ List.isEmpty r.closing = true := by rwa [← hboth]
      exact ⟨⟨r.opening, r.closing, mt List.isEmpty_iff.2 hopening,
        mt List.isEmpty_iff.2 hclosing⟩, rfl⟩

/-- What is put into a region comes with the delimiters of the region. -/
theorem regionTags_of_regionDocument {registry : Registry} {document : Text}
    (h : (regionDocument registry w s r).result = .ok (document, tags)) :
    regionTags s r = .ok tags := by
  unfold regionDocument at h
  simp only [Noted.result_bind] at h
  obtain ⟨tags', htags, h⟩ := Except.bind_eq_ok_iff.1 h
  obtain ⟨c, -, h⟩ := Except.bind_eq_ok_iff.1 h
  obtain ⟨d, -, h⟩ := Except.bind_eq_ok_iff.1 h
  obtain ⟨-, rfl⟩ := Prod.mk.inj (Except.ok.inj h)
  exact htags

/-! ### Documents -/

/-- The narrative document is refused only for what the tree has to show. -/
theorem failsOnly_narrative (w : Workspace) (s : Settings) (c : Command) :
    FailsOnly (·.IsEarly w s) (narrative c).result :=
  Noted.failsOnly_bind (failsOnly_noteView w s _ c _) fun _ _ =>
    Except.failsOnly_mapError_iff.2 fun f hf => .document (failsOnly_renderNarrative c 0 f hf)

/-- From section one on, the same holds of a page. -/
theorem failsOnly_manual (w : Workspace) (c : Command) (hn : 1 ≤ n.getD s.config.manualSection) :
    FailsOnly (·.IsEarly w s) (manual s n c).result := by
  refine Noted.failsOnly_bind (failsOnly_noteView w s _ c _) fun _ _ =>
    Noted.failsOnly_bind ?_ fun page _ =>
      Noted.failsOnly_bind (Except.failsOnly_ok ()) fun _ _ => Except.failsOnly_ok page.text
  exact Except.failsOnly_mapError_iff.2 fun f hf => .document (failsOnly_renderManual c hn f hf)

theorem result_noteView (form : String) (c : Command) (asked : Text) :
    (noteView form c asked).result =
      ((DocumentView.build c asked 0).mapError fun f => .document (.view f)).map fun _ => () := by
  unfold noteView
  rw [Noted.result_bind]
  cases DocumentView.build c asked 0 <;> rfl

theorem result_manual (s : Settings) (n : Option Int) (c : Command) :
    (manual s n c).result = (noteView "markdown" c []).result.bind fun _ =>
      ((renderManual none c (n.getD s.config.manualSection)).mapError .document).map
        Roff.Page.text := by
  unfold manual
  rw [Noted.result_bind]
  refine congrArg (Except.bind _) (funext fun _ => ?_)
  rw [Noted.result_bind]
  cases renderManual none c (n.getD s.config.manualSection) <;> rfl

/-- If all that a page shows can be written, then only its conversion can fail. -/
theorem renderManual_ne_view {root : Command} {m : Int} (hm : 1 ≤ m)
    (hfault : DocumentView.fault? root = none) (hwrite : isWritable m = true) (f : ViewFault) :
    renderManual none root m ≠ .error (.view f) := by
  have hlaid := layOut_none Narrative.render (v := DocumentView.ofCommand root [] m) hwrite
  rw [renderManual_of_fault?_eq_none hm hfault, hlaid]
  change (Roff.convert _).mapError _ ≠ _
  cases Roff.convert (Narrative.render (DocumentView.ofCommand root [] m)) <;> simp

/-- **A page has a number that is too long** if and only if a flag has one to show, or the section
is one. -/
theorem manual_eq_digits_iff {c : Command} (hn : 1 ≤ n.getD s.config.manualSection) :
    (manual s n c).result = .error (.document (.view .digits)) ↔
      DocumentView.fault? c = some .digits ∨
        DocumentView.fault? c = none ∧ isWritable (n.getD s.config.manualSection) = false := by
  rw [result_manual, result_noteView, DocumentView.build]
  generalize n.getD s.config.manualSection = m at hn ⊢
  cases hfault : DocumentView.fault? c with
  | some f =>
    refine ⟨fun h => ?_, ?_⟩
    · cases h
      exact .inl rfl
    · rintro (h | ⟨h, -⟩)
      · obtain rfl := Option.some.inj h
        rfl
      · cases h
  | none =>
    change ((renderManual none c m).mapError _).map _ = _ ↔ _
    cases hwrite : isWritable m with
    | false =>
      rw [renderManual_of_not_isWritable hn hfault hwrite]
      exact iff_of_true rfl (.inr ⟨rfl, rfl⟩)
    | true =>
      refine iff_of_false (fun h => ?_) (by simp)
      cases hpage : renderManual none c m with
      | ok page =>
        rw [hpage] at h
        cases h
      | error f =>
        rw [hpage] at h
        cases h
        exact renderManual_ne_view hn hfault hwrite _ hpage

/-! ### Endings -/

/-- A value that was handed over is refused: a list of tags that is no pair of delimiters, or a
section below one. -/
inductive Problem.IsRefusedValue : Problem → Prop
  | tags (f : Tags.Fault) : IsRefusedValue (.file (.tags f))
  | manualSection (n : Int) : IsRefusedValue (.document (.manualSection n))

theorem Problem.IsEarly.not_isRefusedValue (h : p.IsEarly w s) : ¬ p.IsRefusedValue := by
  rintro ⟨⟩
  · cases h
  · cases h with
    | document h => cases h

/-- A problem that is not expected is told as it is. -/
theorem eq_of_endWith {p' : Problem} (h : endWith p = .broken p') : p = p' := by
  unfold endWith at h
  split at h <;> cases h
  rfl

@[inherit_doc eq_of_endWith] theorem eq_of_blame {file : Text} {verb : String}
    {lost : AccessFault → Bool} {p' : Problem} (h : blame file verb lost p = .broken p') :
    p = p' := by
  unfold blame at h
  cases hcomplaint : p.complaint with
  | usage m | plain m | noTarget | encoding f =>
    rw [hcomplaint] at h
    cases h
  | access f =>
    rw [hcomplaint] at h
    dsimp only at h
    split at h <;> cases h
  | unexpected =>
    rw [hcomplaint] at h
    exact Ending.broken.inj h

/-- A document that cannot be written meets a failed access. -/
theorem access_of_save {document output : Text} (h : (save w document output).1 = .broken p) :
    ∃ f, p = .file (.access f) := by
  unfold save at h
  dsimp only at h
  split at h
  · split at h
    · cases h
    · exact ⟨_, (Ending.broken.inj h).symm⟩
  · split at h
    · dsimp only at h
      split at h
      · cases h
      · exact ⟨_, (Ending.broken.inj h).symm⟩
    · cases h

/-- A run that prints or writes a document ends at a problem of the document or at a failed
access. -/
theorem result_of_print {made : Noted Text} (h : (print w made output).1.ending = .broken p) :
    made.result = .error p ∨ ∃ f, p = .file (.access f) := by
  unfold print at h
  cases hmade : made.result with
  | error p' =>
    rw [hmade] at h
    exact .inl (congrArg _ (eq_of_endWith h))
  | ok document =>
    rw [hmade] at h
    cases output with
    | none => cases h
    | some output =>
      dsimp only at h
      split at h
      · cases h
      · exact .inr (access_of_save h)

/-- No value is refused when a document is printed or written. -/
theorem not_isRefusedValue_of_print {made : Noted Text}
    (hmade : FailsOnly (·.IsEarly w s) made.result)
    (h : (print w made output).1.ending = .broken p) : ¬ p.IsRefusedValue := by
  rcases result_of_print h with hresult | ⟨f, rfl⟩
  · exact (hmade p hresult).not_isRefusedValue
  · rintro ⟨⟩

/-- No value is refused on the way to a region. -/
theorem failsOnly_regionSteps_of_valid (registry : Registry) (w : Workspace)
    (hs : s.config.Valid) (q : Request) :
    FailsOnly (¬ ·.IsRefusedValue) (regionSteps registry w s q) := by
  have hdocument (r : RegionRequest) :
      FailsOnly (¬ ·.IsRefusedValue) (regionDocument registry w s r).result :=
    (failsOnly_regionDocument registry w s r).mono fun _ h => h.not_isRefusedValue
  have hpair {r : RegionRequest} {made : Text × List Text}
      (hmade : (regionDocument registry w s r).result = .ok made) (g : Tags.Fault) :
      Tags.ofList made.2 ≠ .error g := by
    obtain ⟨t, ht⟩ := exists_tags_of_regionTags hs (regionTags_of_regionDocument hmade)
    rw [ht, Tags.ofList_pair]
    exact nofun
  cases q with
  | markdown | tabular | man => exact Except.failsOnly_ok ()
  | inject r =>
    refine (hdocument r).bind fun made hmade => Except.FailsOnly.bind ?_ fun _ _ =>
      Except.failsOnly_ok ()
    refine Except.failsOnly_mapError_iff.2 fun f hf => ?_
    rintro ⟨g⟩
    exact hpair hmade g (Workspace.ofList_of_replaceRegion hf)
  | check r diff =>
    refine (hdocument r).bind fun made hmade => Except.FailsOnly.bind ?_ fun _ _ =>
      Except.failsOnly_ok ()
    refine Except.failsOnly_mapError_iff.2 fun f hf => ?_
    rintro ⟨g⟩
    exact hpair hmade g (Workspace.ofList_of_extract hf)

/-- **No step of a run has a value refused.** -/
theorem not_isRefusedValue_of_perform (registry : Registry) (asks : Asks w args s q)
    (h : (perform registry w s q).1.ending = .broken p) : ¬ p.IsRefusedValue := by
  have hroot := failsOnly_root registry w s
  have hregion {r : RegionRequest} (hr : q.region? = some r) : ¬ p.IsRefusedValue := by
    rcases perform_of_region registry w s hr with ⟨p', hsteps, hblame⟩ | ⟨-, hgood⟩
    · obtain rfl := eq_of_blame (hblame.symm.trans h)
      exact failsOnly_regionSteps_of_valid registry w asks.valid q p' hsteps
    · rw [h] at hgood
      exact absurd trivial hgood
  cases q with
  | markdown output =>
    exact not_isRefusedValue_of_print (Noted.failsOnly_bind hroot fun c _ =>
      failsOnly_narrative w s c) h
  | tabular calledAs output =>
    exact not_isRefusedValue_of_print (Noted.failsOnly_bind hroot fun c _ =>
      failsOnly_tabular w s calledAs c) h
  | man n output =>
    exact not_isRefusedValue_of_print (Noted.failsOnly_bind hroot fun c _ =>
      failsOnly_manual w c asks.one_le) h
  | inject r | check r diff => exact hregion rfl

/-! ### Whole runs -/

theorem Ending.IsStop.not_isRefusedValue (h : e.IsStop) (he : e = .broken p) :
    ¬ p.IsRefusedValue := by
  subst he
  cases h with
  | refusal h =>
    cases h with
    | nullCharacter given => rintro ⟨⟩

/-- **No run has a value refused.** -/
theorem not_isRefusedValue_of_run (registry : Registry)
    (h : (run registry w args).1.ending = .broken p) : ¬ p.IsRefusedValue := by
  have hcourse := course_run registry w args
  generalize (run registry w args).1.ending = e, (run registry w args).2 = after at hcourse h
  cases hcourse with
  | opening hopening => exact (failsOnly_opening w args _ hopening).not_isRefusedValue h
  | configuration _ hconfig =>
    obtain rfl := eq_of_endWith h
    obtain ⟨f, rfl⟩ := failsOnly_configuration w _ _ hconfig
    rintro ⟨⟩
  | request _ hrequest => exact (failsOnly_request w _ _ _ hrequest).not_isRefusedValue h
  | performance asks => exact not_isRefusedValue_of_perform registry asks h

/-- A declared application is found if it is named, declared and well-formed. -/
theorem root_of_find {registry : Registry} {d : Declaration} {c : Command} (w : Workspace)
    (happ : s.app ≠ []) (hdefinition : s.definition = []) (hfind : registry.find s.app = .ok d)
    (hc : Command.ofDeclaration [] d = .ok c) : (root registry w s).result = .ok c := by
  have hempty : List.isEmpty s.app = false := List.isEmpty_eq_false_iff.2 happ
  rw [root, hdefinition, hempty, if_neg (by simp)]
  simp only [Noted.result_bind, Bool.false_eq_true, if_false, hfind]
  change ((Command.ofDeclaration [] d).mapError Problem.declaration).bind _ = _
  rw [hc]
  rfl

/-- A page that is asked for of an application that can be found ends the run at a number that is
too long if and only if a flag has one to show, or else the section is one. -/
theorem ending_eq_digits_iff {registry : Registry} {c : Command}
    (asks : Asks w args s (.man n output)) (hroot : (root registry w s).result = .ok c) :
    (run registry w args).1.ending = .broken (.document (.view .digits)) ↔
      DocumentView.fault? c = some .digits ∨
        DocumentView.fault? c = none ∧ isWritable (n.getD s.config.manualSection) = false := by
  have hmade : (do manual s n (← root registry w s) : Noted Text).result =
      (manual s n c).result := by
    rw [Noted.result_bind, hroot]
    rfl
  rw [← manual_eq_digits_iff asks.one_le, (run_of_asks registry asks).1, perform, ← hmade]
  constructor
  · intro h
    rcases result_of_print h with hresult | ⟨f, hf⟩
    · exact hresult
    · cases hf
  · intro h
    unfold print
    rw [h]
    rfl

/-- **What a run hands over is accepted**, whatever its arguments and its files are. If it comes to
replace or read a region, then with two delimiters that are both there; if it comes to make a page,
then for a section from one on. So no run ends because a value is refused. But a page can end a run
at another problem that is not expected: if the application is found, then exactly when a flag has a
number to show that is too long to be written, or else the section is one. -/
theorem values_of_run (registry : Registry) (w : Workspace) (args : List Text) :
    (∀ s q r document tags, Asks w args s q → q.region? = some r →
        (regionDocument registry w s r).result = .ok (document, tags) →
        ∃ opening closing, tags = [opening, closing] ∧ opening ≠ [] ∧ closing ≠ []) ∧
      (∀ s n output, Asks w args s (.man n output) → 1 ≤ n.getD s.config.manualSection) ∧
      (∀ p, (run registry w args).1.ending = .broken p → ¬ p.IsRefusedValue) ∧
      ∀ s n output c, Asks w args s (.man n output) → (root registry w s).result = .ok c →
        ((run registry w args).1.ending = .broken (.document (.view .digits)) ↔
          DocumentView.fault? c = some .digits ∨
            DocumentView.fault? c = none ∧ isWritable (n.getD s.config.manualSection) = false) := by
  refine ⟨?_, fun s n output asks => asks.one_le, fun p => not_isRefusedValue_of_run registry,
    fun s n output c asks hroot => ending_eq_digits_iff asks hroot⟩
  intro s q r document tags asks _ hmade
  obtain ⟨t, ht⟩ := exists_tags_of_regionTags asks.valid (regionTags_of_regionDocument hmade)
  exact ⟨t.opening, t.closing, ht, t.opening_ne, t.closing_ne⟩

/-- A region is filled with the usual delimiters, and a page is made for section seven. -/
theorem values_of_run_of_leftover :
    let s : Settings := ⟨"m:a".toList, [], {}⟩
    let r : RegionRequest := { file := "f.md".toList }
    let filling := plainApp ++ ["inject".toList, "f.md".toList]
    let paging := plainApp ++ ["man".toList, sectionKey, ['7']]
    (Asks leftover filling s (.inject r) ∧ Asks leftover paging s (.man (some 7) none)) ∧
      (∃ document opening closing, (regionDocument plainRegistry leftover s r).result =
          .ok (document, [opening, closing]) ∧ opening ≠ [] ∧ closing ≠ []) ∧
      (1 : Int) ≤ (some 7).getD s.config.manualSection ∧
      (run plainRegistry leftover paging).1.ending ≠ .broken (.document (.view .digits)) := by
  intro s r filling paging
  have hfilling : Asks leftover filling s (.inject r) :=
    ⟨_, read_plainApp .inject ["f.md".toList], rfl, rfl, configuration_leftover, by cbv⟩
  have hpaging : Asks leftover paging s (.man (some 7) none) := by
    refine ⟨_, read_plainApp .man [sectionKey, ['7']], rfl, rfl, configuration_leftover, ?_⟩
    let given : Arguments := ⟨[.value sectionKey ['7']], []⟩
    have hread : Arguments.read Interface.Command.man.options true [sectionKey, ['7']] =
        some given := by decide +kernel
    have hseven : Text.wholeNumber? ['7'] = some 7 := by decide +kernel
    have hchecked : checkOptions leftover given = .ok () := by
      refine Except.forM_eq_ok_iff.2 fun o ho => ?_
      obtain rfl : o = sectionKey := List.mem_singleton.1 ho
      change checkSection ['7'] = .ok ()
      rw [checkSection, hseven]
      rfl
    have hshort : shortcut? given = none := rfl
    simp only [Request.read, hread, hshort, hchecked, Except.ok_bind]
    change Except.ok (Request.man (Text.wholeNumber? ['7']) none) = _
    rw [hseven]
  obtain ⟨hregion, -, -, -⟩ := values_of_run plainRegistry leftover filling
  obtain ⟨-, hsection, -, hpage⟩ := values_of_run plainRegistry leftover paging
  have hroot : (root plainRegistry leftover s).result = .ok (.mk { name := ['a'] } []) :=
    root_of_find leftover (by decide) rfl (by cbv) ((Command.ofDeclaration_eq_tree [] _).trans rfl)
  refine ⟨⟨hfilling, hpaging⟩, ?_, hsection _ _ _ hpaging, ?_⟩
  · obtain ⟨document, hmade⟩ := exists_document r [Tags.defaultOpening, Tags.defaultClosing]
      (by decide +kernel)
    obtain ⟨opening, closing, htags, hthere⟩ := hregion s _ r document _ hfilling rfl hmade
    exact ⟨document, opening, closing, htags ▸ hmade, hthere⟩
  · rw [ne_eq, hpage _ _ _ _ hpaging hroot]
    have hwrite : isWritable 7 = true := isWritable_of_lt_ten (by decide)
    rintro (hfault | ⟨-, hlong⟩)
    · cases hfault
    · cases hwrite.symm.trans hlong

/-- An application with an option that shows a number as its default. -/
def numbered (n : Int) : Declaration :=
  .mk { name := ['a']
        parameters := [.option { spellings := ["--n".toList], type := .int
                                 defaultValue := some (.int n), showDefault := .bool true }] } []

/-- Nothing can be shown of the application if the number is too long. -/
theorem fault?_numbered {n : Int} (h : isWritable n = false) :
    ∃ c, Command.ofDeclaration [] (numbered n) = .ok c ∧
      DocumentView.fault? c = some .digits := by
  let f : Flag := { names := ⟨[['n']], rfl⟩, kind := .int, defaultValue := .int n }
  have hflag : f.viewFault? = some .digits := by
    have hvalue : f.defaultValue.isWritable = false := h
    rw [Flag.viewFault?, hvalue]
    rfl
  have hvisible : CommandDetails.visibleFlags { name := ['a'], flags := [f] } = [f] := rfl
  exact ⟨.mk { name := ['a'], flags := [f] } [], (Command.ofDeclaration_eq_tree [] _).trans rfl,
    (DocumentView.fault?_of_visibleFlags hvisible).trans hflag⟩

/-- A page for section one ends the run although no value is refused: the default of an option has
more digits than can be written. -/
theorem broken_of_long_default :
    let registry : Registry :=
      [⟨['m'], false, [(['a'], .command (numbered (Nat.pow 10 maxDigits)) [])]⟩]
    let args := plainApp ++ ["man".toList]
    let s : Settings := ⟨"m:a".toList, [], {}⟩
    (Asks leftover args s (.man none none) ∧ 1 ≤ s.config.manualSection) ∧
      (run registry leftover args).1.ending = .broken (.document (.view .digits)) := by
  intro registry args s
  have asks : Asks leftover args s (.man none none) :=
    ⟨_, read_plainApp .man [], rfl, rfl, configuration_leftover, by cbv⟩
  obtain ⟨c, hc, hfault⟩ := fault?_numbered isWritable_pow_maxDigits
  have hroot : (root registry leftover s).result = .ok c :=
    root_of_find leftover (by decide) rfl rfl hc
  exact ⟨⟨asks, by decide⟩, (ending_eq_digits_iff asks hroot).2 (.inl hfault)⟩

end CommandLine

end CommandManual
