import CommandManual.Document.Render
import CommandManual.Proofs.Outcome
import CommandManual.Proofs.Text.Tidy
import CommandManual.Proofs.View.Listing
import Mathlib.Data.List.Basic

/-!
# What a tabular document lists

The lines of a tabular document that name something are the rows of its tables and the headings of
its commands. They are told from the other lines by their first characters, and they are exactly
what is visible: a row for every flag, in the order of the groups, and a heading for every command,
in front of the rows of its flags.

Every part of the document is written as the lines it consists of (`tableLines`, `sectionLines`,
`draftLines`), so that a part is looked through by filtering a list. Tidying keeps what is found
(`Prose.filter_lines_tidy`).

## Main definitions

* `Tabular.isEntry`, `Tabular.entries`: the lines that name something.
* `Command.listed`: what a document lists of an application.
* `Command.IsTabular`: nothing that is shown breaks a line or looks like an entry.

## Main results

* `Tabular.entries_draft`: what a document lists before it is tidied.
* `entries_of_renderTabular`: what a tabular document lists.
-/

namespace CommandManual

/-! ### What is shown in lines -/

/-- The texts of a flag that a row shows as they are have no newline in them. -/
structure Flag.IsUnbroken (f : Flag) : Prop where
  names : ∀ n ∈ f.names.toList, '\n' ∉ n
  default : '\n' ∉ f.defaultDisplay
  envVars : ∀ e ∈ f.envVars, '\n' ∉ e

instance (f : Flag) : Decidable f.IsUnbroken :=
  decidable_of_iff ((∀ n ∈ f.names.toList, '\n' ∉ n) ∧ '\n' ∉ f.defaultDisplay ∧
      ∀ e ∈ f.envVars, '\n' ∉ e)
    ⟨fun ⟨names, default, envVars⟩ => ⟨names, default, envVars⟩,
      fun ⟨names, default, envVars⟩ => ⟨names, default, envVars⟩⟩

/-- What is shown of a flag has no newline in it. -/
structure Flag.IsOneLined (f : Flag) : Prop where
  names : ∀ n ∈ f.names.toList, '\n' ∉ n
  default : '\n' ∉ f.defaultDisplay
  envVars : ∀ e ∈ f.envVars, '\n' ∉ e
  category : '\n' ∉ f.category

theorem Flag.IsOneLined.isUnbroken {f : Flag} (h : f.IsOneLined) : f.IsUnbroken :=
  ⟨h.names, h.default, h.envVars⟩

namespace Tabular

/-- The beginning of a heading of a command. -/
def headingMark : Text := "### `".toList

/-- The beginning of a row of a flag. -/
def rowMark : Text := "| `".toList

/-- Does the line name something? -/
def isEntry (l : Text) : Bool := l.startsWith headingMark || l.startsWith rowMark

/-- The lines of a document that name something. -/
def entries (t : Text) : List Text := (Text.lines t).filter isEntry

/-- The rows of the visible flags of a command, in the order of their groups. -/
def rowsOf (d : CommandDetails) : List Text :=
  (inGroups d.visibleFlags).map fun f => row (FlagView.ofFlag f)

/-- The heading of a command, and the rows of its flags. -/
def listedCommand (v : Visit) : List Text :=
  commandHeading v.summary :: rowsOf v.command.details

end Tabular

/-- What a document lists of an application: the rows of its own flags, and every visible command
with its rows, from the top. -/
def Command.listed (root : Command) : List Text :=
  Tabular.rowsOf root.details ++ root.shown.flatMap Tabular.listedCommand

/-- What is said about a command does not break a line and does not look like an entry. -/
structure CommandDetails.IsTabular (d : CommandDetails) : Prop where
  names : ∀ n ∈ d.names, '\n' ∉ n
  usage : Tabular.isEntry (Prose.oneLine d.usage) = false
  description : Tabular.isEntry (Prose.oneLine d.description) = false
  flags : ∀ f ∈ d.visibleFlags, f.IsOneLined

/-- Nothing that is shown of an application breaks a line or looks like an entry. -/
structure Command.IsTabular (root : Command) (asked : Text) : Prop where
  asked : '\n' ∉ asked
  details : ∀ d ∈ root.shownDetails, d.IsTabular
  authors : ∀ a ∈ root.details.authors, '\n' ∉ a.shown

namespace Tabular

/-! ### Rows and headings -/

theorem newline_notMem_code {t : Text} (h : '\n' ∉ t) : '\n' ∉ code t := by
  simpa [code, Text.backtick] using h

theorem newline_notMem_row {f : Flag} (h : f.IsUnbroken) : '\n' ∉ row (FlagView.ofFlag f) := by
  have hnames : '\n' ∉ Text.commaList
      ((FlagView.ofFlag f).names.map (nameSpan (FlagView.ofFlag f))) := by
    refine Text.newline_notMem_commaList fun t ht => ?_
    obtain ⟨n, hn, rfl⟩ := List.mem_map.1 ht
    have hplain := FlagNames.notMem_spelled (by decide) h.names n hn
    refine newline_notMem_code ?_
    split <;> simpa using hplain
  have hdefault : '\n' ∉ defaultCell (FlagView.ofFlag f) := by
    unfold defaultCell
    split
    · exact List.not_mem_nil
    · exact newline_notMem_code h.default
  have henv : '\n' ∉ envCell (FlagView.ofFlag f) := by
    unfold envCell
    split
    · decide
    · refine Text.newline_notMem_commaList fun t ht => ?_
      obtain ⟨e, he, rfl⟩ := List.mem_map.1 ht
      exact newline_notMem_code (h.envVars e he)
  have husage : '\n' ∉ (FlagView.ofFlag f).usage := Text.newline_notMem_cell f.usage
  unfold row
  simp [hnames, hdefault, henv, husage]

/-! ### Lines that are entries and lines that are none -/

section Entries

variable {l s t : Text}

@[simp] theorem isEntry_nil : isEntry [] = false := rfl

theorem isEntry_iff : isEntry l = true ↔ headingMark <+: l ∨ rowMark <+: l := by
  simp [isEntry, Text.startsWith]

theorem isEntry_of_isPrefix (h : isEntry s = true) (hst : s <+: t) : isEntry t = true :=
  isEntry_iff.2 ((isEntry_iff.1 h).imp (·.trans hst) (·.trans hst))

/-- A line that names nothing is passed over. -/
theorem filter_isEntry_cons (h : isEntry l = false) (ls : List Text) :
    (l :: ls).filter isEntry = ls.filter isEntry := List.filter_cons_of_neg (by simp [h])

/-- A character that no mark has in it does not make a line an entry. -/
theorem isEntry_of_append_singleton {c : Char} (hheading : c ∉ headingMark) (hrow : c ∉ rowMark)
    (h : isEntry (l ++ [c]) = true) : isEntry l = true := by
  have hshort {mark : Text} (hc : c ∉ mark) (hmark : mark <+: l ++ [c]) : mark <+: l :=
    (List.prefix_concat_iff.1 hmark).resolve_left fun he => hc (he ▸ by simp)
  exact isEntry_iff.2 ((isEntry_iff.1 h).imp (hshort hheading) (hshort hrow))

/-- A text that is put on one line stays as it is when that is done again. -/
theorem oneLine_oneLine (t : Text) : Prose.oneLine (Prose.oneLine t) = Prose.oneLine t := by
  rw [Prose.oneLine, Text.substitute_of_notMem (Text.newline_notMem_oneLine t), Prose.oneLine,
    Text.strip_strip]

/-- A sentence looks like an entry only if its text does. -/
theorem isEntry_sentence (h : isEntry (Prose.oneLine t) = false) :
    isEntry (Prose.cell t ++ ['.']) = false := by
  refine Bool.eq_false_iff.2 fun hs => Bool.eq_false_iff.1 h ?_
  exact isEntry_of_isPrefix (isEntry_of_append_singleton (by decide) (by decide) hs)
    (Text.trimEnd_isPrefix _ _)

theorem isEntry_oneLine_oneLine (h : isEntry (Prose.oneLine t) = false) :
    isEntry (Prose.oneLine (Prose.oneLine t)) = false := (oneLine_oneLine t).symm ▸ h

theorem isEntry_row (f : Flag) : isEntry (row (FlagView.ofFlag f)) = true := by
  obtain ⟨n, ns, hn⟩ := List.exists_cons_of_ne_nil f.names.spelled_ne_nil
  have hnames : (FlagView.ofFlag f).names = n :: ns := hn
  obtain ⟨u, hu⟩ := Text.exists_commaList_cons (nameSpan (FlagView.ofFlag f) n)
    (ns.map (nameSpan (FlagView.ofFlag f)))
  unfold row
  rw [hnames, List.map_cons, hu]
  rfl

theorem isEntry_commandHeading (c : CommandSummary) : isEntry (commandHeading c) = true := rfl

theorem getLast?_row (f : FlagView) : (row f).getLast? ≠ some ' ' := by
  unfold row
  rw [List.getLast?_append]
  exact fun h => absurd (Option.some.inj h) (by decide)

theorem getLast?_commandHeading (c : CommandSummary) : (commandHeading c).getLast? ≠ some ' ' := by
  unfold commandHeading
  rw [List.getLast?_append, List.getLast?_append]
  by_cases h : c.aliases.isEmpty
  · rw [if_pos h]
    exact fun h => absurd (Option.some.inj h) (by decide)
  · rw [if_neg h, List.getLast?_concat]
    exact fun h => absurd (Option.some.inj h) (by decide)

/-- No entry ends in a space. -/
theorem getLast?_of_mem_listed {root : Command} (h : l ∈ root.listed) : l.getLast? ≠ some ' ' := by
  have hrows {d : CommandDetails} (h : l ∈ rowsOf d) : l.getLast? ≠ some ' ' := by
    obtain ⟨f, -, rfl⟩ := List.mem_map.1 h
    exact getLast?_row _
  rcases List.mem_append.1 h with h | h
  · exact hrows h
  · obtain ⟨v, -, hv⟩ := List.mem_flatMap.1 h
    rcases List.mem_cons.1 hv with rfl | hv
    · exact getLast?_commandHeading _
    · exact hrows hv

end Entries

/-! ### The lines of the parts -/

/-- The lines of a table. -/
def tableLines (g : FlagGroup) : List Text :=
  [] :: (if g.category.isEmpty then [] else ["**".toList ++ g.category ++ "**".toList])
    ++ [] :: (tableHead ++ g.flags.map row) ++ [[]]

/-- The lines of the tables of some groups, under a line that announces them. -/
def tablesLines (announcement : Text) (gs : List FlagGroup) : List Text :=
  if (groupedFlags gs).isEmpty then [] else announcement :: gs.flatMap tableLines

/-- The lines of a usage line of a shell. -/
def shellLines (line : Text) : List Text :=
  ["Usage:".toList, [], "```bash".toList, '$' :: ' ' :: line, "```".toList, []]

/-- The lines of a quotation. -/
def quotationLines (ls : List Text) : List Text := ls.map fun l => '>' :: ' ' :: l

section Parts

variable {d : CommandDetails} {g : FlagGroup} {line : Text} {ls : List Text}

theorem hasLines_groupTable (h : ∀ f ∈ d.visibleFlags, f.IsOneLined) (hg : g ∈ groupFlags d.flags) :
    (groupTable g).HasLines (tableLines g) := by
  obtain ⟨hne, hflags⟩ := flags_of_mem_groupFlags hg
  have hrows : ∀ l ∈ tableHead ++ g.flags.map row, '\n' ∉ l := by
    intro l hl
    rcases List.mem_append.1 hl with hl | hl
    · have hhead : ∀ l ∈ tableHead, '\n' ∉ l := by decide
      exact hhead l hl
    · obtain ⟨v, hv, rfl⟩ := List.mem_map.1 hl
      obtain ⟨f, hf, -, rfl⟩ := hflags v hv
      exact newline_notMem_row (h f hf).isUnbroken
  have hcategory : '\n' ∉ g.category := by
    obtain ⟨v, hv⟩ := List.exists_mem_of_ne_nil _ hne
    obtain ⟨f, hf, hlabel, -⟩ := hflags v hv
    exact hlabel ▸ (h f hf).category
  have hlabel : Text.HasLines
      (if g.category.isEmpty then [] else "**".toList ++ g.category ++ "**\n".toList)
      (if g.category.isEmpty then [] else ["**".toList ++ g.category ++ "**".toList]) := by
    split
    · exact .nil
    · have hline := Text.HasLines.nil.line
        (l := "**".toList ++ g.category ++ "**".toList) (by simpa using hcategory)
      rwa [List.append_assoc] at hline
  have hbody := (Text.HasLines.of_terminated hrows).append Text.HasLines.nil.newline_cons
  have hall := hlabel.newline_cons.append hbody.newline_cons
  unfold groupTable tableLines
  simpa using hall

theorem hasLines_tables (h : ∀ f ∈ d.visibleFlags, f.IsOneLined) (announcement : Text)
    (ha : '\n' ∉ announcement) : Text.HasLines
      (if (groupedFlags (groupFlags d.flags)).isEmpty then []
       else announcement ++ '\n' :: (groupFlags d.flags).flatMap groupTable)
      (tablesLines announcement (groupFlags d.flags)) := by
  unfold tablesLines
  split
  · exact .nil
  · exact (Text.HasLines.flatMap fun g hg => hasLines_groupTable h hg).line ha

theorem hasLines_shellBlock (h : '\n' ∉ line) : (shellBlock line).HasLines (shellLines line) := by
  have hdollar : '\n' ∉ '$' :: ' ' :: line := by simpa using h
  have hfence := (Text.HasLines.nil.newline_cons.line (l := "```".toList) (by decide)).line hdollar
  have hall := (hfence.line (l := "```bash".toList) (by decide)).newline_cons.line
    (l := "Usage:".toList) (by decide)
  have htext : shellBlock line = "Usage:".toList ++ '\n' :: ([] ++ '\n' :: ("```bash".toList ++
      '\n' :: (('$' :: ' ' :: line) ++ '\n' :: ("```".toList ++ '\n' :: ([] ++ '\n' :: []))))) :=
    List.append_assoc _ line _
  rw [htext]
  exact hall

theorem hasLines_quotation (h : ∀ l ∈ ls, '\n' ∉ l) :
    (quotation ls).HasLines (quotationLines ls) := by
  refine .of_terminated fun l hl => ?_
  obtain ⟨k, hk, rfl⟩ := List.mem_map.1 hl
  simpa using h k hk

theorem filter_isEntry_tableLines (hg : g ∈ groupFlags d.flags) :
    (tableLines g).filter isEntry = g.flags.map row := by
  have hrows : (g.flags.map row).filter isEntry = g.flags.map row := by
    refine List.filter_eq_self.2 fun l hl => ?_
    obtain ⟨v, hv, rfl⟩ := List.mem_map.1 hl
    obtain ⟨f, -, -, rfl⟩ := (flags_of_mem_groupFlags hg).2 v hv
    exact isEntry_row f
  have hhead : tableHead.filter isEntry = [] := by decide
  have hlabel : (if g.category.isEmpty then []
      else ["**".toList ++ g.category ++ "**".toList]).filter isEntry = [] := by
    split <;> rfl
  unfold tableLines
  rw [List.filter_append, List.filter_append, filter_isEntry_cons isEntry_nil,
    filter_isEntry_cons isEntry_nil, List.filter_append, hlabel, hhead, hrows, List.nil_append,
    List.nil_append]
  exact List.append_nil _

/-- The rows of the groups of a command are those of its visible flags. -/
theorem map_row_groupedFlags (d : CommandDetails) :
    (groupedFlags (groupFlags d.flags)).map row = rowsOf d := by
  rw [groupedFlags_groupFlags, List.map_map]
  rfl

theorem filter_isEntry_tablesLines (announcement : Text) (ha : isEntry announcement = false) :
    (tablesLines announcement (groupFlags d.flags)).filter isEntry = rowsOf d := by
  have hrows := map_row_groupedFlags d
  have htables : ((groupFlags d.flags).flatMap tableLines).filter isEntry = rowsOf d := by
    rw [← hrows, groupedFlags, List.map_flatMap, List.filter_flatMap]
    exact List.flatMap_congr fun g hg => filter_isEntry_tableLines hg
  unfold tablesLines
  split
  · next h => rw [← hrows, List.isEmpty_iff.1 h, List.filter_nil, List.map_nil]
  · rw [filter_isEntry_cons ha, htables]

end Parts

/-! ### The lines of the document -/

/-- The lines of the section of a command. -/
def sectionLines (calledAs : Text) (c : CommandSummary) : List Text :=
  commandHeading c :: [] :: sentence c.usage :: [] :: (quotationLines c.usageTextLines ++
    [] :: sentence c.description :: [] :: (shellLines (calledAs ++ " [GLOBAL FLAGS] ".toList ++
        c.fullName ++ (if c.flags.isEmpty then [] else " [COMMAND FLAGS]".toList) ++
        ' ' :: argsText c.argsUsage) ++
      tablesLines "The following flags are supported:".toList c.flagGroups))

section Document

variable {root : Command} {asked calledAs : Text} {v : Visit}

theorem newline_notMem_sentence {t : Text} (h : '\n' ∉ t) : '\n' ∉ sentence t := by
  rw [sentence]
  split
  · exact List.not_mem_nil
  · simpa using h

theorem newline_notMem_argsText {t : Text} (h : '\n' ∉ t) : '\n' ∉ argsText t := by
  unfold argsText
  split
  · decide
  · exact h

theorem newline_notMem_commandHeading (h : v.command.details.IsTabular)
    (hname : '\n' ∉ v.summary.fullName) : '\n' ∉ commandHeading v.summary := by
  have haliases : '\n' ∉ Text.commaList (v.summary.aliases.map code) := by
    refine Text.newline_notMem_commaList fun t ht => ?_
    obtain ⟨a, ha, rfl⟩ := List.mem_map.1 ht
    exact newline_notMem_code (h.names a (List.mem_cons_of_mem _ ha))
  have hcode := newline_notMem_code hname
  unfold commandHeading
  split <;> split <;> simp [hcode, haliases]

theorem hasLines_commandSection (h : v.command.details.IsTabular) (hcalled : '\n' ∉ calledAs)
    (hname : '\n' ∉ v.summary.fullName) :
    (commandSection calledAs v.summary).HasLines (sectionLines calledAs v.summary) := by
  have hline : '\n' ∉ calledAs ++ " [GLOBAL FLAGS] ".toList ++ v.summary.fullName ++
      (if v.summary.flags.isEmpty then [] else " [COMMAND FLAGS]".toList) ++
      ' ' :: argsText v.summary.argsUsage := by
    have hargs : '\n' ∉ argsText v.summary.argsUsage :=
      newline_notMem_argsText (Text.newline_notMem_cell _)
    split <;> simp [hcalled, hname, hargs]
  have hquotes : ∀ l ∈ v.summary.usageTextLines, '\n' ∉ l := fun l hl =>
    Text.newline_notMem_of_mem_lines (List.mem_filter.1 hl).1
  have hend := (hasLines_shellBlock hline).append (hasLines_tables h.flags
    "The following flags are supported:".toList (by decide))
  have hmiddle := (hasLines_quotation hquotes).append (hend.newline_cons.line
    (newline_notMem_sentence (Text.newline_notMem_cell v.command.details.description))).newline_cons
  have hall := (hmiddle.newline_cons.line
    (newline_notMem_sentence (Text.newline_notMem_cell v.command.details.usage))).newline_cons.line
    (newline_notMem_commandHeading h hname)
  have hblank : "\n\n".toList = ['\n', '\n'] := rfl
  have hannounced : "The following flags are supported:\n".toList =
      "The following flags are supported:".toList ++ ['\n'] := rfl
  refine ⟨?_, hall.newline_notMem⟩
  refine Eq.trans ?_ hall.eq_terminated
  unfold commandSection
  simp only [hblank, hannounced, List.append_assoc, List.cons_append, List.nil_append]
  rfl

theorem filter_isEntry_shellLines (line : Text) : (shellLines line).filter isEntry = [] := rfl

theorem filter_isEntry_quotationLines (ls : List Text) :
    (quotationLines ls).filter isEntry = [] := by
  refine List.filter_eq_nil_iff.2 fun l hl => ?_
  obtain ⟨k, -, rfl⟩ := List.mem_map.1 hl
  exact Bool.false_ne_true

theorem filter_isEntry_sectionLines (h : v.command.details.IsTabular) :
    (sectionLines calledAs v.summary).filter isEntry = listedCommand v := by
  have hsentence {t : Text} (ht : isEntry (Prose.oneLine t) = false) :
      isEntry (sentence (Prose.cell t)) = false := by
    rw [sentence]
    split
    · rfl
    · exact isEntry_sentence ht
  have husage : isEntry (sentence v.summary.usage) = false := hsentence h.usage
  have hdescription : isEntry (sentence v.summary.description) = false := hsentence h.description
  unfold sectionLines
  rw [List.filter_cons_of_pos (isEntry_commandHeading _), filter_isEntry_cons rfl,
    filter_isEntry_cons husage, filter_isEntry_cons rfl, List.filter_append,
    filter_isEntry_quotationLines, List.nil_append, filter_isEntry_cons rfl,
    filter_isEntry_cons hdescription, filter_isEntry_cons rfl, List.filter_append,
    filter_isEntry_shellLines, List.nil_append]
  exact congrArg _ (filter_isEntry_tablesLines _ rfl)

end Document

/-! ### Full names -/

mutual

/-- The names on the way to a listed command break no line. -/
theorem newline_notMem_parent_of_visits : ∀ (c : Command) {level : Nat} {parent : Text},
    '\n' ∉ parent → (∀ v ∈ c.visits level parent, '\n' ∉ v.command.details.name) →
    ∀ v ∈ c.visits level parent, '\n' ∉ v.parent
  | .mk d cs, level, parent, hparent, hnames, v, hv => by
    rw [Command.visits] at hnames hv
    rcases List.mem_cons.1 hv with rfl | hv
    · exact hparent
    · have hname : '\n' ∉ d.name := hnames _ (List.mem_cons_self ..)
      have hfull : '\n' ∉ fullName parent d.name := fun hmem =>
        absurd (Text.strip_subset _ hmem) (by simp [hparent, hname])
      exact newline_notMem_parent_of_visitsAll cs hfull
        (fun w hw => hnames w (List.mem_cons_of_mem _ hw)) v hv

theorem newline_notMem_parent_of_visitsAll : ∀ (cs : List Command) {level : Nat} {parent : Text},
    '\n' ∉ parent → (∀ v ∈ visitsAll level parent cs, '\n' ∉ v.command.details.name) →
    ∀ v ∈ visitsAll level parent cs, '\n' ∉ v.parent
  | [], _, _, _, _, v, hv => absurd hv (by simp [visitsAll])
  | c :: cs, level, parent, hparent, hnames, v, hv => by
    rw [visitsAll] at hnames hv
    split at hv
    · next hc =>
      rw [if_pos hc] at hnames
      exact newline_notMem_parent_of_visitsAll cs hparent hnames v hv
    · next hc =>
      rw [if_neg hc] at hnames
      rcases List.mem_append.1 hv with hv | hv
      · exact newline_notMem_parent_of_visits c hparent
          (fun w hw => hnames w (List.mem_append_left _ hw)) v hv
      · exact newline_notMem_parent_of_visitsAll cs hparent
          (fun w hw => hnames w (List.mem_append_right _ hw)) v hv

end

end Tabular

namespace Command.IsTabular

variable {root : Command} {asked : Text} {v : Visit}

theorem details_of_mem_shown (h : root.IsTabular asked) (hv : v ∈ root.shown) :
    v.command.details.IsTabular :=
  h.details _ (List.mem_cons_of_mem _ (List.mem_map_of_mem hv))

theorem newline_notMem_fullName (h : root.IsTabular asked) (hv : v ∈ root.shown) :
    '\n' ∉ v.summary.fullName := by
  have hname (w : Visit) (hw : w ∈ root.shown) : '\n' ∉ w.command.details.name :=
    (h.details_of_mem_shown hw).names _ (List.mem_cons_self ..)
  have hparent :=
    Tabular.newline_notMem_parent_of_visitsAll root.commands List.not_mem_nil hname v hv
  intro hmem
  exact absurd (Text.strip_subset _ hmem) (by simp [hparent, hname v hv])

theorem newline_notMem_callName (h : root.IsTabular asked) :
    '\n' ∉ DocumentView.callName asked root.details.name := by
  have hname : '\n' ∉ root.details.name :=
    (h.details _ (List.mem_cons_self ..)).names _ (List.mem_cons_self ..)
  simp only [DocumentView.callName, Text.firstGiven]
  split
  · split
    · decide
    · exact hname
  · exact h.asked

end Command.IsTabular

namespace Tabular

/-- The lines of the authors of an application. -/
def authorLines (authors : List Text) : List Text :=
  if authors.isEmpty then []
  else "### Authors".toList :: [] :: authors.map fun a => '-' :: ' ' :: a

/-- The lines of a document before it is tidied. -/
def draftLines (v : DocumentView) : List Text :=
  ("## CLI interface - ".toList ++ v.calledAs) :: [] ::
    (if v.description.isEmpty then [] else Prose.cell v.description ++ ['.']) :: [] ::
    (if v.usage.isEmpty then [] else Prose.cell v.usage ++ ['.']) :: [] ::
    (quotationLines v.usageTextLines ++ [] ::
      (shellLines (v.calledAs
          ++ (if v.flags.isEmpty then [] else " [GLOBAL FLAGS]".toList)
          ++ (if v.commands.isEmpty then [] else " [COMMAND] [COMMAND FLAGS]".toList)
          ++ ' ' :: argsText v.argsUsage) ++
        (tablesLines "Global flags:".toList v.flagGroups ++ [] :: [] ::
          ((v.allCommands.flatMap fun c => sectionLines v.calledAs c.summary ++ [[], []]) ++ [] ::
            (authorLines v.authors ++ [[]])))))

section Draft

variable {root : Command} {asked : Text}

theorem hasLines_authors {authors : List Text} (h : ∀ a ∈ authors, '\n' ∉ a) :
    Text.HasLines
      (if authors.isEmpty then []
        else "### Authors\n\n".toList ++ Text.terminated (authors.map fun a => '-' :: ' ' :: a))
      (authorLines authors) := by
  unfold authorLines
  split
  · exact .nil
  · have hitems : ∀ l ∈ authors.map fun a => '-' :: ' ' :: a, '\n' ∉ l := by
      intro l hl
      obtain ⟨a, ha, rfl⟩ := List.mem_map.1 hl
      simpa using h a ha
    exact (Text.HasLines.of_terminated hitems).newline_cons.line
      (l := "### Authors".toList) (by decide)

/-- The lines of a document before it is tidied, from those of its parts. -/
theorem hasLines_draft_of {v : DocumentView} (hcalled : '\n' ∉ v.calledAs)
    (hargs : '\n' ∉ v.argsUsage) (hquotes : ∀ l ∈ v.usageTextLines, '\n' ∉ l)
    (hauthors : ∀ a ∈ v.authors, '\n' ∉ a)
    (htables : Text.HasLines
      (if v.flags.isEmpty then []
        else "Global flags:".toList ++ '\n' :: v.flagGroups.flatMap groupTable)
      (tablesLines "Global flags:".toList v.flagGroups))
    (hsections : ∀ c ∈ v.allCommands, (commandSection v.calledAs c.summary ++ ['\n', '\n']).HasLines
      (sectionLines v.calledAs c.summary ++ [[], []])) :
    (draft v).HasLines (draftLines v) := by
  have hstopped (s t : Text) :
      '\n' ∉ (if s.isEmpty then [] else Prose.cell t ++ ['.']) := by
    split
    · exact List.not_mem_nil
    · simpa using Text.newline_notMem_cell t
  have husageLine : '\n' ∉ v.calledAs
      ++ (if v.flags.isEmpty then [] else " [GLOBAL FLAGS]".toList)
      ++ (if v.commands.isEmpty then [] else " [COMMAND] [COMMAND FLAGS]".toList)
      ++ ' ' :: argsText v.argsUsage := by
    have hargsText := newline_notMem_argsText hargs
    split <;> split <;> simp [hcalled, hargsText]
  have htitle : '\n' ∉ "## CLI interface - ".toList ++ v.calledAs := by simpa using hcalled
  have hend := (hasLines_authors hauthors).append Text.HasLines.nil.newline_cons
  have hcommands := (Text.HasLines.flatMap hsections).append hend.newline_cons
  have hflags := htables.append hcommands.newline_cons.newline_cons
  have husage := (hasLines_quotation hquotes).append
    ((hasLines_shellBlock husageLine).append hflags).newline_cons
  have hall := ((husage.newline_cons.line (hstopped v.usage v.usage)).newline_cons.line
    (hstopped v.description v.description)).newline_cons.line htitle
  have hblank : "\n\n".toList = ['\n', '\n'] := rfl
  have hannounced : "Global flags:\n".toList = "Global flags:".toList ++ ['\n'] := rfl
  refine ⟨?_, hall.newline_notMem⟩
  refine Eq.trans ?_ hall.eq_terminated
  unfold draft
  simp only [hblank, hannounced, List.append_assoc, List.cons_append, List.nil_append]

/-- **The lines of a document** before it is tidied. -/
theorem hasLines_draft (h : root.IsTabular asked) :
    (draft (DocumentView.ofCommand root asked 0)).HasLines
      (draftLines (DocumentView.ofCommand root asked 0)) := by
  have hroot := h.details _ (List.mem_cons_self ..)
  refine hasLines_draft_of h.newline_notMem_callName (Text.newline_notMem_cell _)
    (fun l hl => Text.newline_notMem_of_mem_lines (List.mem_filter.1 hl).1) ?_
    (hasLines_tables hroot.flags _ (by decide)) fun c hc => ?_
  · intro a ha
    obtain ⟨author, hauthor, rfl⟩ := List.mem_map.1 ha
    exact h.authors author hauthor
  · obtain ⟨v, hv, hsummary⟩ := DocumentView.exists_shown_of_mem_allCommands hc
    rw [← hsummary]
    exact (hasLines_commandSection (h.details_of_mem_shown hv) h.newline_notMem_callName
      (h.newline_notMem_fullName hv)).append Text.HasLines.nil.newline_cons.newline_cons

/-! ### Entries -/

theorem filter_isEntry_authorLines (authors : List Text) :
    (authorLines authors).filter isEntry = [] := by
  unfold authorLines
  split
  · rfl
  · have hitems : (authors.map fun a => '-' :: ' ' :: a).filter isEntry = [] := by
      refine List.filter_eq_nil_iff.2 fun l hl => ?_
      obtain ⟨a, -, rfl⟩ := List.mem_map.1 hl
      exact Bool.false_ne_true
    exact hitems

/-- The sections of the commands list every visible command with its flags. -/
theorem filter_isEntry_sections (h : root.IsTabular asked) (calledAs : Text) :
    ((DocumentView.ofCommand root asked 0).allCommands.flatMap fun c =>
        sectionLines calledAs c.summary ++ [[], []]).filter isEntry =
      root.shown.flatMap listedCommand := by
  have hblank (ls : List Text) : (ls ++ [[], []]).filter isEntry = ls.filter isEntry := by
    rw [List.filter_append]
    exact List.append_nil _
  have hsummaries : ((DocumentView.ofCommand root asked 0).allCommands.map (·.summary)).flatMap
      (fun c => (sectionLines calledAs c).filter isEntry) = root.shown.flatMap listedCommand := by
    rw [DocumentView.map_summary_allCommands, List.flatMap_map]
    exact List.flatMap_congr fun v hv => filter_isEntry_sectionLines (h.details_of_mem_shown hv)
  rw [← hsummaries, List.flatMap_map, List.filter_flatMap]
  exact List.flatMap_congr fun c _ => hblank _

/-- The lines that name something are those of the tables and of the sections. -/
theorem filter_isEntry_draftLines {v : DocumentView}
    (hdescription : isEntry (Prose.oneLine v.description) = false)
    (husage : isEntry (Prose.oneLine v.usage) = false) :
    (draftLines v).filter isEntry =
      (tablesLines "Global flags:".toList v.flagGroups).filter isEntry ++
        (v.allCommands.flatMap fun c =>
          sectionLines v.calledAs c.summary ++ [[], []]).filter isEntry := by
  have hstopped {s t : Text} (ht : isEntry (Prose.oneLine t) = false) :
      isEntry (if s.isEmpty then [] else Prose.cell t ++ ['.']) = false := by
    split
    · rfl
    · exact isEntry_sentence ht
  unfold draftLines
  rw [filter_isEntry_cons rfl, filter_isEntry_cons rfl,
    filter_isEntry_cons (hstopped hdescription), filter_isEntry_cons rfl,
    filter_isEntry_cons (hstopped husage), filter_isEntry_cons rfl, List.filter_append,
    filter_isEntry_quotationLines, List.nil_append, filter_isEntry_cons rfl, List.filter_append,
    filter_isEntry_shellLines, List.nil_append, List.filter_append, filter_isEntry_cons rfl,
    filter_isEntry_cons rfl, List.filter_append, filter_isEntry_cons rfl, List.filter_append,
    filter_isEntry_authorLines, List.nil_append, filter_isEntry_cons rfl, List.filter_nil,
    List.append_nil]

/-- **What a document lists** before it is tidied. -/
theorem entries_draft (h : root.IsTabular asked) :
    entries (draft (DocumentView.ofCommand root asked 0)) = root.listed := by
  have hroot := h.details _ (List.mem_cons_self ..)
  have hgroups : (DocumentView.ofCommand root asked 0).flagGroups = groupFlags root.details.flags :=
    rfl
  have hsections := filter_isEntry_sections h (DocumentView.ofCommand root asked 0).calledAs
  have htables := filter_isEntry_tablesLines (d := root.details) "Global flags:".toList rfl
  have hnil : [[]].filter isEntry = [] := rfl
  calc entries (draft (DocumentView.ofCommand root asked 0))
      = List.filter isEntry (draftLines (DocumentView.ofCommand root asked 0) ++ [[]]) :=
        congrArg (List.filter isEntry) (hasLines_draft h).lines_eq
    _ = (draftLines (DocumentView.ofCommand root asked 0)).filter isEntry := by
        rw [List.filter_append, hnil, List.append_nil]
    _ = _ := filter_isEntry_draftLines hroot.description (isEntry_oneLine_oneLine hroot.usage)
    _ = root.listed := by
        rw [hsections, hgroups, htables, Command.listed]

/-- A document begins with its heading. -/
theorem exists_draft_eq_cons (v : DocumentView) : ∃ t, draft v = '#' :: t := ⟨_, rfl⟩

/-- What a document lists is not touched when it is tidied, if nothing of it ends in a space. -/
theorem entries_render {v : DocumentView} (h : ∀ l ∈ entries (draft v), l.getLast? ≠ some ' ') :
    entries (render v) = entries (draft v) := by
  obtain ⟨t, ht⟩ := exists_draft_eq_cons v
  unfold render
  rw [ht] at h ⊢
  exact Prose.filter_lines_tidy isEntry_nil
    (fun l hl => isEntry_of_isPrefix hl (List.prefix_append l _)) (by decide) (by decide) h

end Draft

end Tabular

/-- **What a tabular document lists** is exactly what is visible: a row for every flag of the
application, then for every command from the top its heading and a row for each of its flags. There
is no document only if a visible flag has names or a default that are no text. -/
theorem entries_of_renderTabular {root : Command} {asked : Text} (h : root.IsTabular asked) :
    match DocumentView.fault? root with
    | some f => renderTabular none root asked = .error (.view f)
    | none => ∃ t, renderTabular none root asked = .ok t ∧ Tabular.entries t = root.listed := by
  cases hfault : DocumentView.fault? root with
  | some f =>
    have hbuild : DocumentView.build root asked 0 = .error f := by rw [DocumentView.build, hfault]
    simp only [renderTabular, hbuild, Except.mapError_error, Except.error_bind]
  | none =>
    have hentries := Tabular.entries_draft h
    have hlaid :=
      layOut_none Tabular.draft (v := DocumentView.ofCommand root asked 0) isWritable_zero
    refine ⟨Tabular.render (DocumentView.ofCommand root asked 0), ?_, ?_⟩
    · simp only [renderTabular, DocumentView.build_eq_ok hfault, Except.mapError_ok, Except.ok_bind,
        hlaid]
      rfl
    · rw [Tabular.entries_render, hentries]
      intro l hl
      rw [hentries] at hl
      exact Tabular.getLast?_of_mem_listed hl

/-- A flag that is grouped comes behind one that is not, and a command that is hidden is left out
with its flags. -/
theorem entries_of_renderTabular_of_groups :
    let port : Flag := { names := ⟨["port".toList, "p".toList], rfl⟩, category := "net".toList,
                         defaultText := "80".toList, envVars := ["PORT".toList] }
    let debug : Flag := { names := ⟨["debug".toList], rfl⟩, kind := .switch,
                          usage := "Talk.".toList }
    let now : Command := .mk { name := "now".toList, flags := [debug] } []
    let run : Command := .mk { name := "run".toList, aliases := ["r".toList] } [now]
    let secret : Command := .mk { name := "key".toList, flags := [port], hidden := true } []
    let root : Command := .mk { name := "app".toList, flags := [port, debug] } [secret, run]
    root.IsTabular [] ∧ ∃ t, renderTabular none root [] = .ok t ∧ Tabular.entries t =
      ["| `--debug` | Talk | `false` | *none* |".toList,
        "| `--port=\"…\"`, `-p=\"…\"` |  | `80` | `PORT` |".toList,
        "### `run` command (aliases: `r`)".toList,
        "### `run now` subcommand".toList,
        "| `--debug` | Talk | `false` | *none* |".toList] := by
  intro port debug now run secret root
  have hport : port.IsOneLined := ⟨by decide, by decide, by decide, by decide⟩
  have hdebug : debug.IsOneLined := ⟨by decide, by decide, by decide, by decide⟩
  have hflags : ∀ f ∈ [port, debug], f.IsOneLined := by
    rintro f (_ | ⟨_, _ | ⟨_, hf⟩⟩)
    · exact hport
    · exact hdebug
    · cases hf
  have happ : root.details.IsTabular := ⟨by decide, by decide, by decide, hflags⟩
  have hrun : run.details.IsTabular := ⟨by decide, by decide, by decide, fun f hf => by cases hf⟩
  have hnow : now.details.IsTabular :=
    ⟨by decide, by decide, by decide, fun f hf => hflags f (List.mem_cons_of_mem port hf)⟩
  have hdetails : ∀ d ∈ [root.details, run.details, now.details], d.IsTabular := by
    simp only [List.forall_mem_cons]
    exact ⟨happ, hrun, hnow, fun d hd => by cases hd⟩
  have hroot : root.IsTabular [] := ⟨by decide, hdetails, by decide⟩
  have hfault : DocumentView.fault? root = none := by rfl
  have hlisted : root.listed = ["| `--debug` | Talk | `false` | *none* |".toList,
      "| `--port=\"…\"`, `-p=\"…\"` |  | `80` | `PORT` |".toList,
      "### `run` command (aliases: `r`)".toList, "### `run now` subcommand".toList,
      "| `--debug` | Talk | `false` | *none* |".toList] := by
    decide +kernel +zetaReduce
  have hdocument := entries_of_renderTabular hroot
  rw [hfault, hlisted] at hdocument
  exact ⟨hroot, hdocument⟩

end CommandManual
