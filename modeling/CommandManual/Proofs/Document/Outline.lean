import CommandManual.Document.Narrative
import CommandManual.Proofs.Markdown.Outline
import CommandManual.Proofs.View.Listing

/-!
# The outline of the narrative document

The narrative document is put together of parts, and each part consists of whole lines. Headings
stand in front of a part; what is said about flags and commands is free text, in which no line
begins like a heading or a fence; usage texts are quoted or indented, so that it does not matter
what they say. The outline of the document is therefore the headings of its parts, for every tree of
commands.

## Main definitions

* `DocumentView.IsPlain`: what a view has to be like for its free text to add nothing to the
  outline.
* `Narrative.outline`: the headings of the document of a view.

## Main results

* `Narrative.outlines_parts`: the parts behind the title line have the headings of the outline.
-/

namespace CommandManual

/-- What is said about a flag adds no line that begins like a heading or a fence. -/
structure Flag.IsPlain (f : Flag) : Prop where
  names : ∀ n ∈ f.names.toList, '\n' ∉ n
  usage : Markdown.IsPlain f.usage
  default : Markdown.IsPlain f.defaultDisplay
  envVars : ∀ e ∈ f.envVars, Markdown.IsPlain e
  category : Markdown.IsPlain f.category

/-- What is said about a command adds no line that begins like a heading or a fence. The usage text
may be anything. -/
structure CommandDetails.IsPlain (d : CommandDetails) : Prop where
  names : ∀ n ∈ d.names, '\n' ∉ n
  usage : Markdown.IsPlain d.usage
  flags : ∀ f ∈ d.visibleFlags, f.IsPlain

namespace Narrative

open Markdown (IsPlain Outlines)

/-! ### Flags -/

section Flags

variable {f : Flag} {d : CommandDetails} {g : FlagGroup}

/-- The environment variables of a flag as they are listed behind it. -/
theorem isPlain_envVars (h : ∀ e ∈ f.envVars, IsPlain e) :
    IsPlain (Text.commaList (f.envVars.map ('$' :: ·))) := by
  refine IsPlain.commaList fun t ht => ?_
  obtain ⟨e, he, rfl⟩ := List.mem_map.1 ht
  exact (h e he).cons (by decide) (by decide) (by decide)

theorem isPlain_remarks (h : f.IsPlain) : IsPlain f.remarks := by
  -- Behind the usage come parts that begin with a space, if they are there.
  have hpart {s t : Text} {p : Prop} [Decidable p] (hs : IsPlain s) (ht : IsPlain t)
      (hhead : t.head? ≠ some Text.backtick) : IsPlain (s ++ if p then t else []) := by
    split
    · exact hs.append ht (.inr hhead)
    · rwa [List.append_nil]
  have hpart' {s t : Text} {p : Prop} [Decidable p] (hs : IsPlain s) (ht : IsPlain t)
      (hhead : t.head? ≠ some Text.backtick) : IsPlain (s ++ if p then [] else t) := by
    split
    · rwa [List.append_nil]
    · exact hs.append ht (.inr hhead)
  have hdefault : IsPlain (" (default: ".toList ++ f.defaultDisplay ++ [')']) :=
    .between (by decide) h.default (by decide) (by decide) (by decide)
  have henv : IsPlain (" [".toList ++ Text.commaList (f.envVars.map ('$' :: ·)) ++ [']']) :=
    .between (by decide) (isPlain_envVars h.envVars) (by decide) (by decide) (by decide)
  unfold Flag.remarks
  exact hpart (hpart (hpart' (hpart h.usage hdefault (by simp [Text.backtick])) henv
    (by simp [Text.backtick])) (by decide) (by decide)) (by decide) (by decide)

theorem isPlain_display (h : f.IsPlain) : IsPlain f.display := by
  have hnames : '\n' ∉ Text.commaList f.names.spelled :=
    Text.newline_notMem_commaList (FlagNames.notMem_spelled (by decide) h.names)
  have hfront : IsPlain ("**".toList ++ Text.commaList f.names.spelled ++ "**".toList
      ++ (if f.takesValue then "=\"\"".toList else []) ++ ": ".toList) := by
    refine .of_line ?_ (.of_head? (by simp) (by simp [Text.backtick]))
    split <;> simp [hnames]
  unfold Flag.display
  refine hfront.append (isPlain_remarks h) (.inl ?_)
  rw [List.getLast?_append]
  simp [Text.backtick]

/-- The flags of a group add nothing to the outline. -/
theorem outlines_groupPart (h : ∀ f ∈ d.visibleFlags, f.IsPlain) (hg : g ∈ groupFlags d.flags) :
    Outlines (groupPart g) [] := by
  obtain ⟨hne, hflags⟩ := flags_of_mem_groupFlags hg
  have hcategory : IsPlain g.category := by
    obtain ⟨v, hv⟩ := List.exists_mem_of_ne_nil _ hne
    obtain ⟨f, hf, hlabel, -⟩ := hflags v hv
    exact hlabel ▸ (h f hf).category
  have hlabel :
      Outlines (unlessEmpty g.category ("\n**".toList ++ g.category ++ "**\n".toList)) [] := by
    have hbold : IsPlain ("**".toList ++ g.category ++ "**".toList) :=
      .between (by decide) hcategory (by decide) (by decide) (by decide)
    have hline := (Outlines.of_plain hbold).newline_cons
    unfold unlessEmpty
    split
    · exact .nil
    · rwa [List.append_assoc] at hline
  have hdisplays : Outlines (g.flags.flatMap fun f => '\n' :: f.display ++ ['\n']) [] := by
    refine .flatMap_nil fun v hv => ?_
    obtain ⟨f, hf, -, rfl⟩ := hflags v hv
    exact (Outlines.of_plain (isPlain_display (h f hf))).newline_cons
  exact hlabel.append hdisplays

end Flags

/-! ### Commands -/

/-- Usage texts are quoted or indented, so that they add nothing to the outline whatever they say.
-/
theorem outlines_usageBlock (t : Text) : Outlines (Prose.usageBlock Prose.blockIndent t) [] := by
  have hbody : ∀ l ∈ (Text.lines (Prose.trimNewlines t)).map
      (List.replicate Prose.blockIndent.toNat ' ' ++ ·), '\n' ∉ l ∧ Markdown.IsPlainLine l := by
    intro l hl
    obtain ⟨k, hk, rfl⟩ := List.mem_map.1 hl
    have hplain := Text.newline_notMem_of_mem_lines hk
    have hindent : List.replicate Prose.blockIndent.toNat ' ' = [' ', ' ', ' ', ' '] := rfl
    rw [hindent]
    exact ⟨by simpa using hplain, .of_head? (by simp) (by simp [Text.backtick])⟩
  unfold Prose.usageBlock Prose.indentBlock
  split
  · exact .nil
  · simp only
    split
    · split
      · exact .nil
      · exact .of_lines (.of_terminated fun l hl => (hbody l hl).1) fun l hl => (hbody l hl).2
    · next hline =>
      have hplain : '\n' ∉ Prose.trimNewlines t := by simpa using hline
      exact .of_plain (.of_line (by simpa using hplain)
        (.of_head? (by simp) (by simp [Text.backtick])))

/-- The heading of a command: the number of its hashes, and its names. -/
def commandTitle (c : CommandSummary) : Nat × Text :=
  (headingLevel c.level, Text.strip (Text.commaList c.names))

theorem heading?_replicate {n : Nat} (hpos : 0 < n) (hle : n ≤ 6) (t : Text) :
    Markdown.heading? (List.replicate n '#' ++ ' ' :: t) = some (n, Text.strip t) := by
  have hall : ∀ c ∈ List.replicate n '#', decide (c = '#') = true := fun c hc =>
    decide_eq_true (List.eq_of_mem_replicate hc)
  have hhashes : (List.replicate n '#' ++ ' ' :: t).takeWhile (· = '#') = List.replicate n '#' := by
    rw [List.takeWhile_append_of_pos hall, List.takeWhile_cons_of_neg (by decide), List.append_nil]
  have hrest : (List.replicate n '#' ++ ' ' :: t).dropWhile (· = '#') = ' ' :: t := by
    rw [List.dropWhile_append_of_pos hall, List.dropWhile_cons_of_neg (by decide)]
  have hblank : isBlank ' ' = true := by decide
  simp only [Markdown.heading?, hhashes, hrest, hblank, List.length_replicate,
    List.isEmpty_replicate]
  rw [if_neg (by simp; omega)]
  exact if_pos trivial

section Commands

variable {d : CommandDetails} {v : Visit}

/-- The names of a command that has one are a heading with a text. -/
theorem strip_commaList_names_ne_nil (h : d.name.hasInk = true) :
    Text.strip (Text.commaList d.names) ≠ [] := by
  obtain ⟨u, hu⟩ := Text.exists_commaList_cons d.name d.aliases
  refine Text.strip_ne_nil ?_
  rw [CommandDetails.names, hu, Text.hasInk, Text.isBlankText, List.all_append, Bool.not_and]
  exact Bool.or_eq_true_iff.2 (.inl h)

theorem outlines_summaryLine {usage : Text} (h : IsPlain usage) (block : Text) :
    Outlines (Prose.summaryLine usage block) [] := by
  unfold Prose.summaryLine
  split
  · exact .nil
  · have hline := Outlines.of_plain h
    have hblank : Outlines (if block.isEmpty then [] else ['\n']) [] := by
      split
      · exact .nil
      · exact Outlines.nil.newline_cons
    have hall := hline.append hblank
    rwa [List.append_assoc] at hall

/-- **The outline of a command** is its heading. -/
theorem outlines_commandPart (h : v.command.details.IsPlain)
    (hname : v.command.details.name.hasInk = true) :
    Outlines (commandPart v.summary) [commandTitle v.summary] := by
  have hgroups : Outlines (v.summary.flagGroups.flatMap groupPart) [] :=
    .flatMap_nil fun g hg => outlines_groupPart h.flags hg
  have htext := (outlines_summaryLine h.usage
    (Prose.usageBlock Prose.blockIndent v.command.details.usageText)).append
    ((outlines_usageBlock v.command.details.usageText).append hgroups)
  have hheading := heading?_replicate (n := headingLevel v.summary.level)
    (Nat.lt_min.2 ⟨Nat.succ_pos _, by decide⟩) (Nat.min_le_right _ _)
    (Text.commaList v.summary.names)
  have hline : '\n' ∉ List.replicate (headingLevel v.summary.level) '#' ++
      ' ' :: Text.commaList v.summary.names := by
    have hnames : '\n' ∉ Text.commaList v.summary.names := Text.newline_notMem_commaList h.names
    simp [hnames]
  have hall := (htext.newline_cons.heading hline hheading
    (strip_commaList_names_ne_nil hname)).newline_cons
  unfold commandPart
  simp only [List.append_assoc, List.cons_append] at hall ⊢
  exact hall

end Commands

end Narrative

/-! ### The document -/

/-- A name of a page: letters, digits, hyphens and underscores, the first of them a letter or a
digit. -/
structure IsPageName (t : Text) : Prop where
  begins : ∃ c ∈ t.head?, c.isAlphanum = true
  chars : ∀ c ∈ t, c.isAlphanum = true ∨ c = '-' ∨ c = '_'

/-- What a view has to be like for its free text to add nothing to the outline of the document. -/
structure DocumentView.IsPlain (v : DocumentView) : Prop where
  name : IsPageName v.name
  calledAs : v.calledAs = v.name
  usage : '\n' ∉ v.usage
  usageText : Markdown.Outlines v.usageText []
  description : Markdown.IsPlain v.description
  synopsisArgs : ∀ a ∈ v.synopsisArgs, '\n' ∉ a ∧ Markdown.isFence a = false
  flagGroups : ∀ g ∈ v.flagGroups, Markdown.Outlines (Narrative.groupPart g) []
  allCommands : ∀ c ∈ v.allCommands,
    Markdown.Outlines (Narrative.commandPart c.summary) [Narrative.commandTitle c.summary]
  authors : ∀ a ∈ v.authors, Markdown.IsPlain a
  copyright : Markdown.IsPlain v.copyright

namespace IsPageName

variable {t : Text}

theorem ne_nil (h : IsPageName t) : t ≠ [] := by
  rintro rfl
  obtain ⟨c, hc, -⟩ := h.begins
  cases hc

theorem isBlank_eq_false (h : IsPageName t) : ∀ c ∈ t, isBlank c = false := by
  intro c hc
  rcases h.chars c hc with hc | rfl | rfl
  · exact isBlank_of_isAlphanum hc
  · decide
  · decide

theorem newline_notMem (h : IsPageName t) : '\n' ∉ t := fun hmem =>
  absurd (h.isBlank_eq_false _ hmem) (by decide)

/-- A line that begins with a name of a page is plain. -/
theorem isPlainLine_append (h : IsPageName t) (u : Text) : Markdown.IsPlainLine (t ++ u) := by
  obtain ⟨c, hc, halnum⟩ := h.begins
  have hhead : (t ++ u).head? = some c := by rw [List.head?_append, hc]; rfl
  refine .of_head? ?_ ?_ <;> rw [hhead] <;> rintro ⟨⟩ <;> cases halnum

end IsPageName

namespace Narrative

open Markdown (IsPlain Outlines)

/-- The headings of a part that is left out when there is nothing to put into it. -/
def partOutline {α : Type} (xs : List α) (hs : List (Nat × Text)) : List (Nat × Text) :=
  if xs.isEmpty then [] else hs

/-- The headings of the document of a view. -/
def outline (v : DocumentView) : List (Nat × Text) :=
  [(1, "NAME".toList), (1, "SYNOPSIS".toList)]
    ++ partOutline v.description [(1, "DESCRIPTION".toList)]
    ++ partOutline v.flags [(1, "GLOBAL OPTIONS".toList)]
    ++ partOutline v.commands
      ((1, "COMMANDS".toList) :: v.allCommands.map fun c => commandTitle c.summary)
    ++ partOutline v.authors [(1, "AUTHORS".toList)]
    ++ partOutline v.copyright [(1, "COPYRIGHT".toList)]

section Parts

variable {v : DocumentView}

theorem outlines_unlessEmpty {α : Type} {xs : List α} {t : Text} {hs : List (Nat × Text)}
    (h : Outlines t hs) : Outlines (unlessEmpty xs t) (partOutline xs hs) := by
  unfold unlessEmpty partOutline
  split
  · exact .nil
  · exact h

theorem outlines_opening (h : v.IsPlain) : Outlines (namePart v ++ synopsisPart v)
    [(1, "NAME".toList), (1, "SYNOPSIS".toList)] := by
  have hargs : Outlines (unlessEmpty v.synopsisArgs
      ("\n```\n".toList ++ Text.terminated v.synopsisArgs ++ "```\n".toList)) [] := by
    have hfenced := (Outlines.nil.fenced (.of_terminated fun a ha => (h.synopsisArgs a ha).1)
      fun a ha => (h.synopsisArgs a ha).2).newline_cons
    unfold unlessEmpty
    split
    · exact .nil
    · rw [List.append_assoc]
      exact hfenced
  have hname : IsPlain v.name := by
    have hline := h.name.isPlainLine_append []
    rw [List.append_nil] at hline
    exact .of_line h.name.newline_notMem hline
  have hsummary : IsPlain (v.name ++ unlessEmpty v.usage (" - ".toList ++ v.usage)) := by
    refine .of_line ?_ (h.name.isPlainLine_append _)
    unfold unlessEmpty
    split <;> simp [h.name.newline_notMem, h.usage]
  have hsynopsis := (((Outlines.of_plain hname).append hargs).newline_cons.heading
    (l := "# SYNOPSIS".toList) (by decide) rfl (by decide)).newline_cons
  have hall := ((Outlines.of_plain hsummary).append hsynopsis).newline_cons.heading
    (l := "# NAME".toList) (by decide) rfl (by decide)
  unfold namePart synopsisPart
  simp only [List.append_assoc, List.cons_append, List.nil_append] at hall ⊢
  exact hall

theorem outlines_descriptionPart (h : v.IsPlain) : Outlines (descriptionPart v)
    (partOutline v.description [(1, "DESCRIPTION".toList)]) := by
  have hall := ((Outlines.of_plain h.description).newline_cons.heading
    (l := "# DESCRIPTION".toList) (by decide) rfl (by decide)).newline_cons
  refine outlines_unlessEmpty ?_
  rw [List.append_assoc]
  exact hall

theorem outlines_usageLine (h : v.IsPlain) : Outlines (usageLine v) [] := by
  have hline : '\n' ∉ v.name ++ (" [GLOBAL OPTIONS]".toList ++
      (unlessEmpty v.commands " [command [COMMAND OPTIONS]]".toList ++
        " [ARGUMENTS...]".toList)) := by
    unfold unlessEmpty
    split <;> simp [h.name.newline_notMem]
  have hinside : ∀ l ∈ [v.name ++ (" [GLOBAL OPTIONS]".toList ++
      (unlessEmpty v.commands " [command [COMMAND OPTIONS]]".toList ++
        " [ARGUMENTS...]".toList))], Markdown.isFence l = false := by
    intro l hl
    rw [List.mem_singleton.1 hl]
    exact (h.name.isPlainLine_append _).fence
  have hall := Outlines.nil.fenced (Text.HasLines.nil.line hline) hinside
  unfold usageLine
  rw [h.calledAs]
  simp only [List.append_assoc, List.cons_append, List.nil_append] at hall ⊢
  exact hall

theorem outlines_usagePart (h : v.IsPlain) : Outlines (usagePart v) [] := by
  have hlabel : Outlines "\n**Usage**:\n\n".toList [] :=
    Outlines.of_plain (t := "\n**Usage**:\n".toList) (by decide)
  have hbody : Outlines (if v.usageText.isEmpty then usageLine v else v.usageText) [] := by
    split
    · exact outlines_usageLine h
    · exact h.usageText
  exact hlabel.append hbody

theorem outlines_optionsPart (h : v.IsPlain) : Outlines (optionsPart v)
    (partOutline v.flags [(1, "GLOBAL OPTIONS".toList)]) := by
  have hgroups : Outlines (v.flagGroups.flatMap groupPart) [] := .flatMap_nil h.flagGroups
  exact outlines_unlessEmpty (hgroups.heading
    (l := "# GLOBAL OPTIONS".toList) (by decide) rfl (by decide)).newline_cons

theorem outlines_commandsPart (h : v.IsPlain) : Outlines (commandsPart v)
    (partOutline v.commands
      ((1, "COMMANDS".toList) :: v.allCommands.map fun c => commandTitle c.summary)) := by
  have hcommands := Outlines.flatMap h.allCommands
  rw [← List.map_eq_flatMap] at hcommands
  exact outlines_unlessEmpty (hcommands.heading
    (l := "# COMMANDS".toList) (by decide) rfl (by decide)).newline_cons

theorem outlines_authorsPart (h : v.IsPlain) : Outlines (authorsPart v)
    (partOutline v.authors [(1, "AUTHORS".toList)]) := by
  have hitems {as : List Text} (has : ∀ a ∈ as, IsPlain a) :
      IsPlain (as.flatMap fun a => "\n- ".toList ++ a) := by
    induction as with
    | nil => exact .nil
    | cons a as ih =>
      have ha : IsPlain ("\n- ".toList ++ a) :=
        .append (by decide) (has a (List.mem_cons_self ..)) (.inl (by decide))
      refine ha.append (ih fun b hb => has b (List.mem_cons_of_mem a hb)) (.inr ?_)
      cases as <;> simp [Text.backtick]
  have hall := ((Outlines.of_plain (hitems h.authors)).heading
    (l := "# AUTHORS".toList) (by decide) rfl (by decide)).newline_cons
  refine outlines_unlessEmpty ?_
  rw [List.append_assoc]
  exact hall

theorem outlines_copyrightPart (h : v.IsPlain) : Outlines (copyrightPart v)
    (partOutline v.copyright [(1, "COPYRIGHT".toList)]) := by
  have hall := ((Outlines.of_plain h.copyright).newline_cons.heading
    (l := "# COPYRIGHT".toList) (by decide) rfl (by decide)).newline_cons
  refine outlines_unlessEmpty ?_
  rw [List.append_assoc]
  exact hall

/-- **The parts behind the title line** have the headings of the outline. -/
theorem outlines_parts (h : v.IsPlain) :
    Outlines (namePart v ++ synopsisPart v ++ descriptionPart v ++ usagePart v ++ optionsPart v ++
      commandsPart v ++ authorsPart v ++ copyrightPart v) (outline v) := by
  have hall := ((((((outlines_opening h).append (outlines_descriptionPart h)).append
    (outlines_usagePart h)).append (outlines_optionsPart h)).append
    (outlines_commandsPart h)).append (outlines_authorsPart h)).append (outlines_copyrightPart h)
  rwa [List.append_nil] at hall

end Parts

end Narrative

/-! ### The view of an application -/

/-- What is said about an application adds nothing to the outline of its document. Usage texts may
be anything. -/
structure Command.IsPlain (root : Command) : Prop where
  name : IsPageName root.details.name
  inked : ∀ v ∈ root.shown, v.command.details.name.hasInk = true
  details : ∀ d ∈ root.shownDetails, d.IsPlain
  description : Markdown.IsPlain root.details.description
  authors : ∀ a ∈ root.details.authors, Markdown.IsPlain a.shown
  copyright : Markdown.IsPlain root.details.copyright

theorem Flag.isFence_synopsis (f : Flag) : Markdown.isFence f.synopsis = false := rfl

theorem Flag.IsPlain.newline_notMem_synopsis {f : Flag} (h : f.IsPlain) : '\n' ∉ f.synopsis := by
  have hnames := Text.newline_notMem_intercalate (by decide : '\n' ∉ ['|'])
    (FlagNames.notMem_spelled (by decide) h.names)
  unfold Flag.synopsis
  split <;> simp [hnames]

/-- The view of an application whose free text adds nothing to the outline. -/
theorem Command.IsPlain.ofCommand {root : Command} (h : root.IsPlain) (manualSection : Int) :
    (DocumentView.ofCommand root [] manualSection).IsPlain := by
  have hroot := h.details _ (List.mem_cons_self ..)
  refine ⟨h.name, ?_, Text.newline_notMem_oneLine _, Narrative.outlines_usageBlock _, h.description,
    ?_, fun g hg => Narrative.outlines_groupPart hroot.flags hg, ?_, ?_, h.copyright⟩
  · have hname := h.name.ne_nil
    simp [DocumentView.ofCommand, DocumentView.callName, Text.firstGiven, hname]
  · intro a ha
    obtain ⟨view, hview, rfl⟩ := List.mem_map.1 ha
    rw [groupedFlags_groupFlags] at hview
    obtain ⟨f, hf, rfl⟩ := List.mem_map.1 hview
    exact ⟨(hroot.flags f (mem_inGroups.1 hf)).newline_notMem_synopsis, f.isFence_synopsis⟩
  · intro c hc
    obtain ⟨v, hv, hsummary⟩ := DocumentView.exists_shown_of_mem_allCommands hc
    have hdetails := h.details _ (List.mem_cons_of_mem _ (List.mem_map_of_mem hv))
    rw [← hsummary]
    exact Narrative.outlines_commandPart hdetails (h.inked v hv)
  · intro a ha
    obtain ⟨author, hauthor, rfl⟩ := List.mem_map.1 ha
    exact h.authors author hauthor

end CommandManual
