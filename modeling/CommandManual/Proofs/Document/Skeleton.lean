import CommandManual.Document.Render
import CommandManual.Proofs.Document.Outline
import CommandManual.Proofs.Roff.Headings
import CommandManual.Proofs.Text.Numerals

/-!
# The skeleton of a manual page

A manual page has a section for each part of the narrative document and a subsection for each
visible command. Which ones there are depends on nothing but which parts are empty and which
commands are visible: free text adds no section and takes none away. So the skeleton of a page is a
function of the tree, and a page is made of every tree whose free text is plain, unless something of
it is a number with too many digits to be written.

## Main definitions

* `Command.skeleton`: the headings of the page of an application.
* `DocumentFault.IsOfTree`: the faults of the tree itself.

## Main results

* `failsOnly_renderNarrative`, `failsOnly_renderTabular`, `failsOnly_renderManual`: without a
  template and from section one on, documents are refused for nothing else.
* `skeleton_of_renderManual`: the page of an application has its skeleton.
-/

namespace CommandManual

/-- The heading of a command on a page: its names. -/
def Visit.headingLine (v : Visit) : Text :=
  ".SS ".toList ++ Roff.inline (Text.strip (Text.commaList v.command.details.names))

/-- The headings of the page of an application. -/
def Command.skeleton (root : Command) : List Text :=
  [".SH NAME".toList, ".SH SYNOPSIS".toList]
    ++ (if root.details.description.isEmpty then [] else [".SH DESCRIPTION".toList])
    ++ (if root.details.visibleFlags.isEmpty then [] else [".SH GLOBAL OPTIONS".toList])
    ++ (if root.visibleCommands.isEmpty then []
        else ".SH COMMANDS".toList :: root.shown.map Visit.headingLine)
    ++ (if root.details.authors.isEmpty then [] else [".SH AUTHORS".toList])
    ++ (if root.details.copyright.isEmpty then [] else [".SH COPYRIGHT".toList])

/-! ### The outline of an application -/

section Outline

variable (root : Command) (n : Int)

/-- The heading of a part has no mark in it and is set as it is. -/
theorem headingLine_of_all {t : Text}
    (hall : t.all (· ∉ ['\\', '-', Text.backtick, '*', '.', '\'']) = true) :
    Roff.headingLine (1, t) = ".SH ".toList ++ t := by
  have h := Text.forall_mem_of_all hall
  have hnot {c : Char} (hc : c ∈ ['\\', '-', Text.backtick, '*', '.', '\'']) : c ∉ t :=
    fun hmem => h c hmem hc
  have htext : Roff.looksLikeRequest t = false := by
    cases t with
    | nil => rfl
    | cons c t =>
      have hc := h c (List.mem_cons_self ..)
      simp only [List.mem_cons, not_or] at hc
      simp [Roff.looksLikeRequest, hc]
  unfold Roff.headingLine
  rw [if_pos rfl, Roff.inline_of_notMem (hnot (by decide)) (hnot (by decide)) (hnot (by decide))
    (hnot (by decide)) htext]

/-- The headings of the commands are those of the visible ones. -/
theorem map_headingLine_commandTitle :
    ((DocumentView.ofCommand root [] n).allCommands.map
        fun c => Narrative.commandTitle c.summary).map Roff.headingLine =
      root.shown.map Visit.headingLine := by
  have hsubsection (v : Visit) :
      Roff.headingLine (Narrative.commandTitle v.summary) = v.headingLine := by
    have hlevel : Narrative.headingLevel v.summary.level ≠ 1 := by
      simp only [Narrative.headingLevel]
      omega
    exact congrArg (· ++ _) (if_neg hlevel)
  have hsummaries := DocumentView.map_summary_allCommands root [] n
  calc ((DocumentView.ofCommand root [] n).allCommands.map
        fun c => Narrative.commandTitle c.summary).map Roff.headingLine
      = ((DocumentView.ofCommand root [] n).allCommands.map (·.summary)).map
          (Roff.headingLine ∘ Narrative.commandTitle) := by
        rw [List.map_map, List.map_map]
        rfl
    _ = root.shown.map Visit.headingLine := by
        rw [hsummaries, List.map_map]
        exact List.map_congr_left fun v _ => hsubsection v

theorem map_headingLine_partOutline {α β : Type} {xs : List α} {ys : List β} (h : xs = [] ↔ ys = [])
    (hs : List (Nat × Text)) : (Narrative.partOutline xs hs).map Roff.headingLine =
      if ys.isEmpty then [] else hs.map Roff.headingLine := by
  have hempty : xs.isEmpty = ys.isEmpty := by
    rw [Bool.eq_iff_iff, List.isEmpty_iff, List.isEmpty_iff, h]
  unfold Narrative.partOutline
  rw [hempty]
  split <;> rfl

/-- **The outline of an application** is its skeleton. -/
theorem map_headingLine_outline :
    (Narrative.outline (DocumentView.ofCommand root [] n)).map Roff.headingLine =
      root.skeleton := by
  have hname := headingLine_of_all (t := "NAME".toList) (by decide)
  have hsynopsis := headingLine_of_all (t := "SYNOPSIS".toList) (by decide)
  have hdescription := headingLine_of_all (t := "DESCRIPTION".toList) (by decide)
  have hoptions := headingLine_of_all (t := "GLOBAL OPTIONS".toList) (by decide)
  have hcommands := headingLine_of_all (t := "COMMANDS".toList) (by decide)
  have hauthors := headingLine_of_all (t := "AUTHORS".toList) (by decide)
  have hcopyright := headingLine_of_all (t := "COPYRIGHT".toList) (by decide)
  have hflags : (DocumentView.ofCommand root [] n).flags = [] ↔ root.details.visibleFlags = [] := by
    rw [DocumentView.flags_ofCommand, List.map_eq_nil_iff, inGroups_eq_nil_iff]
  have hshown : (DocumentView.ofCommand root [] n).commands = [] ↔ root.visibleCommands = [] := by
    rw [DocumentView.commands_eq_nil_iff, Command.shown_eq_nil_iff]
  have hnamed : (DocumentView.ofCommand root [] n).authors = [] ↔ root.details.authors = [] :=
    List.map_eq_nil_iff
  unfold Narrative.outline Command.skeleton
  simp only [List.map_append, List.map_cons, List.map_nil, map_headingLine_partOutline hflags,
    map_headingLine_partOutline hshown, map_headingLine_partOutline hnamed,
    map_headingLine_partOutline Iff.rfl, map_headingLine_commandTitle]
  rw [hname, hsynopsis, hdescription, hoptions, hcommands, hauthors, hcopyright]
  rfl

end Outline

/-! ### Numbers that are written -/

/-- Digits are set as they are. -/
theorem Roff.escape_ofInt {n : Int} (h : 0 ≤ n) : Roff.escape (Text.ofInt n) = Text.ofInt n := by
  have hnot {c : Char} (hc : c.isDigit = false) : c ∉ Text.ofInt n := fun hmem => by
    simp [Text.ofInt_digits h hmem] at hc
  have htext : Roff.looksLikeRequest (Text.ofInt n) = false := by
    cases hcs : Text.ofInt n with
    | nil => rfl
    | cons c cs =>
      have hc : c.isDigit = true := Text.ofInt_digits h (hcs ▸ List.mem_cons_self ..)
      refine Bool.eq_false_iff.2 fun hrequest => ?_
      rcases Bool.or_eq_true _ _ ▸ hrequest with hdot | hquote
      · rw [of_decide_eq_true hdot] at hc
        cases hc
      · rw [of_decide_eq_true hquote] at hc
        cases hc
  exact Roff.escape_of_notMem (hnot (by decide)) (hnot (by decide)) htext

/-! ### Refusals -/

/-- The fault is one of the tree itself: neither the section nor the template that is asked for has
to do with it. -/
inductive DocumentFault.IsOfTree : DocumentFault → Prop
  | view (f : ViewFault) : IsOfTree (.view f)
  | conversion (f : Markdown.Fault) : IsOfTree (.conversion f)

section Refusals

open Except (FailsOnly)

variable (root : Command) (asked : Text) (n : Int)

theorem failsOnly_build :
    FailsOnly DocumentFault.IsOfTree ((DocumentView.build root asked n).mapError .view) :=
  Except.failsOnly_mapError_iff.2 fun f _ => .view f

theorem failsOnly_layOut_none (usual : DocumentView → Text) (v : DocumentView) :
    FailsOnly DocumentFault.IsOfTree (layOut none usual v) := by
  rw [layOut]
  split
  · exact Except.failsOnly_ok _
  · exact Except.failsOnly_error_iff.2 (.view .digits)

theorem failsOnly_renderNarrative :
    FailsOnly DocumentFault.IsOfTree (renderNarrative none root n) :=
  (failsOnly_build root [] n).bind fun v _ => failsOnly_layOut_none Narrative.render v

theorem failsOnly_renderTabular :
    FailsOnly DocumentFault.IsOfTree (renderTabular none root asked) :=
  (failsOnly_build root asked 0).bind fun v _ =>
    (failsOnly_layOut_none Tabular.draft v).bind fun _ _ => Except.failsOnly_ok _

/-- From section one on, a page is refused only for what the tree has to show. -/
theorem failsOnly_renderManual {n : Int} (hn : 1 ≤ n) :
    FailsOnly DocumentFault.IsOfTree (renderManual none root n) := by
  rw [renderManual, if_neg (Int.not_lt.2 hn)]
  exact (failsOnly_renderNarrative root n).bind fun _ _ =>
    Except.failsOnly_mapError_iff.2 fun f _ => .conversion f

end Refusals

/-! ### Pages -/

section Pages

variable {root : Command} {n : Int}

theorem renderManual_of_fault {f : ViewFault} (hn : 1 ≤ n)
    (hfault : DocumentView.fault? root = some f) : renderManual none root n = .error (.view f) := by
  have hbuild : DocumentView.build root [] n = .error f := by rw [DocumentView.build, hfault]
  simp only [renderManual, renderNarrative, hbuild, if_neg (Int.not_lt.2 hn), Except.mapError_error,
    Except.error_bind]

theorem renderManual_of_fault?_eq_none (hn : 1 ≤ n) (hfault : DocumentView.fault? root = none) :
    renderManual none root n =
      (layOut none Narrative.render (DocumentView.ofCommand root [] n)).bind fun t =>
        (Roff.convert t).mapError .conversion := by
  simp only [renderManual, renderNarrative, DocumentView.build_eq_ok hfault,
    if_neg (Int.not_lt.2 hn), Except.mapError_ok, Except.ok_bind]
  rfl

theorem renderManual_of_not_isWritable (hn : 1 ≤ n) (hfault : DocumentView.fault? root = none)
    (hwrite : isWritable n = false) : renderManual none root n = .error (.view .digits) := by
  have hlaid := layOut_none_of_not_isWritable Narrative.render
    (v := DocumentView.ofCommand root [] n) hwrite
  rw [renderManual_of_fault?_eq_none hn hfault, hlaid]
  rfl

/-- The page of a section is made of the title line and the parts. -/
theorem render_eq (hn : 1 ≤ n) : Narrative.render (DocumentView.ofCommand root [] n) =
    "% ".toList ++ root.details.name ++ ' ' :: Text.ofInt n ++ '\n' :: '\n' ::
      (Narrative.namePart (DocumentView.ofCommand root [] n) ++
        Narrative.synopsisPart (DocumentView.ofCommand root [] n) ++
        Narrative.descriptionPart (DocumentView.ofCommand root [] n) ++
        Narrative.usagePart (DocumentView.ofCommand root [] n) ++
        Narrative.optionsPart (DocumentView.ofCommand root [] n) ++
        Narrative.commandsPart (DocumentView.ofCommand root [] n) ++
        Narrative.authorsPart (DocumentView.ofCommand root [] n) ++
        Narrative.copyrightPart (DocumentView.ofCommand root [] n)) := by
  have htitle : Narrative.titleLine (DocumentView.ofCommand root [] n) =
      "% ".toList ++ root.details.name ++ ' ' :: Text.ofInt n ++ "\n\n".toList := by
    unfold Narrative.titleLine
    exact if_pos (by exact hn)
  unfold Narrative.render
  rw [htitle]
  simp only [List.append_assoc, List.cons_append]
  rfl

/-- **The page of an application has its skeleton.** There is a page unless a visible flag has names
or a default that are no text, or the section has too many digits to be written. -/
theorem skeleton_of_renderManual (hn : 1 ≤ n) (h : root.IsPlain) :
    (∀ f, DocumentView.fault? root = some f → renderManual none root n = .error (.view f)) ∧
      (DocumentView.fault? root = none → isWritable n = false →
        renderManual none root n = .error (.view .digits)) ∧
      (DocumentView.fault? root = none → isWritable n = true →
        ∃ p, renderManual none root n = .ok p ∧
          (Text.lines p.text).take 2 = [".nh".toList,
            ".TH ".toList ++ Roff.escape root.details.name ++ ' ' :: Text.ofInt n] ∧
          (Text.lines p.text).filter Roff.isHeading = root.skeleton) := by
  refine ⟨fun f => renderManual_of_fault hn, renderManual_of_not_isWritable hn,
    fun hfault hwrite => ?_⟩
  have hnonneg : 0 ≤ n := Int.le_trans (by decide) hn
  have hdigit (c : Char) (hc : c ∈ Text.ofInt n) : c.isDigit = true :=
    Text.ofInt_digits hnonneg hc
  have hink (c : Char) (hc : c ∈ Text.ofInt n) : isBlank c = false :=
    isBlank_of_isAlphanum (by simp [Char.isAlphanum, hdigit c hc])
  have hlaid := layOut_none Narrative.render (v := DocumentView.ofCommand root [] n) hwrite
  obtain ⟨p, hp, htitle, hheadings⟩ := Roff.exists_convert h.name.ne_nil
    (Text.ofInt_ne_nil hnonneg) h.name.isBlank_eq_false hink
    (Narrative.outlines_parts (h.ofCommand n)).newline_cons
  rw [← render_eq hn] at hp
  rw [map_headingLine_outline] at hheadings
  have hlines := Roff.lines_text_of_convert hp
  refine ⟨p, ?_, ?_, ?_⟩
  · rw [renderManual_of_fault?_eq_none hn hfault, hlaid]
    change (Roff.convert _).mapError _ = _
    rw [hp, Except.mapError_ok]
  · have hlength : 2 ≤ p.lines.length := by
      have htwo : min 2 p.lines.length = 2 := by rw [← List.length_take, htitle]; rfl
      omega
    rw [hlines, List.take_append_of_le_length hlength, htitle, Roff.titleLines,
      Roff.escape_ofInt hnonneg]
  · rw [hlines, List.filter_append, hheadings]
    exact List.append_nil _

end Pages

/-- An application whose usage text opens a fence and says a heading, with a hidden command and with
commands eight levels deep, the names of which have marks in them. -/
theorem skeleton_of_renderManual_of_fence :
    let port : Flag := { names := ⟨["port".toList], rfl⟩, category := "a\nb".toList,
                         usage := "Listen\non.".toList, envVars := ["PORT".toList] }
    let deep : Command := .mk { name := "*x*".toList, aliases := ["x-y".toList] } []
    let hidden : Command := .mk { name := "key".toList, hidden := true } [deep]
    let run : Command := .mk { name := "run".toList, usage := "Run.".toList }
      [hidden, .mk { name := ['b'] } [.mk { name := ['c'] } [.mk { name := ['d'] }
        [.mk { name := ['e'] } [.mk { name := ['f'] } [deep]]]]]]
    let root : Command := .mk { name := "a-b".toList, usageText := "\x60\x60\x60\n# NAME".toList,
                                flags := [port], authors := [⟨"Ann".toList, []⟩] } [run]
    (1 : Int) ≤ 8 ∧ root.IsPlain ∧ ∃ p, renderManual none root 8 = .ok p ∧
      (Text.lines p.text).take 2 = [".nh".toList, ".TH a\\-b 8".toList] ∧
      (Text.lines p.text).filter Roff.isHeading =
        [".SH NAME".toList, ".SH SYNOPSIS".toList, ".SH GLOBAL OPTIONS".toList,
          ".SH COMMANDS".toList, ".SS run".toList, ".SS b".toList, ".SS c".toList, ".SS d".toList,
          ".SS e".toList, ".SS f".toList, ".SS \\fIx\\fP, x\\-y".toList, ".SH AUTHORS".toList] := by
  intro port deep hidden run root
  have hport : port.IsPlain := ⟨by decide, by decide, by decide, by decide, by decide⟩
  have hflags : ∀ f ∈ [port], f.IsPlain := fun f hf => List.mem_singleton.1 hf ▸ hport
  have hroot : root.details.IsPlain := ⟨by decide, by decide, hflags⟩
  have hbare : ∀ v ∈ root.shown, v.command.details.visibleFlags = [] ∧
      (∀ n ∈ v.command.details.names, '\n' ∉ n) ∧ Markdown.IsPlain v.command.details.usage ∧
      v.command.details.name.hasInk = true := by
    decide +kernel +zetaReduce
  have hdetails : ∀ d ∈ root.shownDetails, d.IsPlain := by
    rw [Command.shownDetails, List.forall_mem_cons, List.forall_mem_map]
    refine ⟨hroot, fun v hv => ?_⟩
    obtain ⟨hflags, hnames, husage, -⟩ := hbare v hv
    exact ⟨hnames, husage, fun f hf => by simp [hflags] at hf⟩
  have hplain : root.IsPlain :=
    ⟨⟨⟨'a', rfl, rfl⟩, Text.forall_mem_of_all (by decide)⟩, fun v hv => (hbare v hv).2.2.2,
      hdetails, by decide, by decide, by decide⟩
  have hpage := (skeleton_of_renderManual (n := 8) (by decide) hplain).2.2 rfl
    (isWritable_of_lt_ten (by decide))
  have hskeleton : root.skeleton = [".SH NAME".toList, ".SH SYNOPSIS".toList,
      ".SH GLOBAL OPTIONS".toList, ".SH COMMANDS".toList, ".SS run".toList, ".SS b".toList,
      ".SS c".toList, ".SS d".toList, ".SS e".toList, ".SS f".toList,
      ".SS \\fIx\\fP, x\\-y".toList, ".SH AUTHORS".toList] := by
    decide +kernel +zetaReduce
  rw [hskeleton] at hpage
  exact ⟨by decide, hplain, hpage⟩

/-- A section with too many digits to be written has no page. -/
theorem renderManual_of_long_section :
    let root : Command := .mk { name := ['a'] } []
    root.IsPlain ∧ 1 ≤ (Nat.pow 10 maxDigits : Int) ∧
      renderManual none root (Nat.pow 10 maxDigits) = .error (.view .digits) := by
  intro root
  have hroot : root.details.IsPlain := ⟨by decide, by decide, fun f hf => by cases hf⟩
  have hplain : root.IsPlain :=
    ⟨⟨⟨'a', rfl, rfl⟩, Text.forall_mem_of_all (by decide)⟩, fun v hv => (by cases hv),
      fun d hd => List.mem_singleton.1 hd ▸ hroot, by decide, by decide, by decide⟩
  have hlong : 1 ≤ (Nat.pow 10 maxDigits : Int) := by
    generalize maxDigits = m
    exact Int.ofNat_le.2 (Nat.pow_pos (Nat.succ_pos 9))
  exact ⟨hplain, hlong, renderManual_of_not_isWritable hlong rfl isWritable_pow_maxDigits⟩

end CommandManual
