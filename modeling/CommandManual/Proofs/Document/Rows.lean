import CommandManual.Proofs.Document.Cells
import CommandManual.Proofs.Document.Tables

/-!
# The rows of a document

A document is put together of texts that may hold anything, line ends included. What it keeps of
them is told by its line ends: whatever stands in front of a row ends a line, and so does the row
itself, so that a row without a line end inside is a line of the document. `KeepsLines` says so of a
piece of the document, and the pieces are joined as the lines are that they keep.

## Main definitions

* `Text.KeepsLines`: a text that has given lines, whatever stands behind it.
* `Command.shownFlags`: the visible flags of an application, in the order of a document.

## Main results

* `Tabular.keepsLines_draft`: the rows of a document before it is tidied.
* `Tabular.map_row_sublist_lines_render`: the rows of a document.
* `rows_of_renderTabular`: the rows of a document, and how many cells they have.
-/

namespace CommandManual

namespace Text

/-- Whatever stands behind the text, the lines are there, in front of the lines behind it. -/
def KeepsLines (t : Text) (ls : List Text) : Prop :=
  ∀ s, (ls ++ lines s).Sublist (lines (t ++ s))

namespace KeepsLines

variable {s t l : Text} {ls ms : List Text}

theorem nil : KeepsLines [] [] := fun s => List.Sublist.refl (lines s)

theorem append (hs : KeepsLines s ls) (ht : KeepsLines t ms) : KeepsLines (s ++ t) (ls ++ ms) := by
  intro u
  rw [List.append_assoc, List.append_assoc]
  exact ((List.Sublist.refl ls).append (ht u)).trans (hs (t ++ u))

theorem flatMap {α : Type} {xs : List α} {f : α → Text} {g : α → List Text}
    (h : ∀ x ∈ xs, KeepsLines (f x) (g x)) : KeepsLines (xs.flatMap f) (xs.flatMap g) := by
  induction xs with
  | nil => exact nil
  | cons x xs ih =>
    rw [List.flatMap_cons, List.flatMap_cons]
    exact (h x (List.mem_cons_self ..)).append (ih fun y hy => h y (List.mem_cons_of_mem x hy))

/-- A text that ends a line does no harm to what stands behind it. -/
theorem of_getLast? (h : t.getLast? = some '\n') : KeepsLines t [] := by
  obtain ⟨u, rfl⟩ := List.getLast?_eq_some_iff.1 h
  intro s
  rw [List.append_assoc, List.singleton_append, lines_append_newline]
  exact List.sublist_append_right _ _

/-- A line that is ended is kept. -/
theorem line (hl : '\n' ∉ l) : KeepsLines (l ++ ['\n']) [l] := by
  intro s
  have hlines : lines (l ++ ['\n'] ++ s) = [l] ++ lines s := by
    rw [List.append_assoc]
    exact (lines_append_newline l s).trans (congrArg (· ++ lines s) (lines_of_notMem hl))
  exact hlines ▸ .refl _

/-- Of texts that are ended those are kept that are lines. -/
theorem terminated (ls : List Text) :
    KeepsLines (terminated ls) (ls.filter fun l => '\n' ∉ l) := by
  induction ls with
  | nil => exact nil
  | cons l ls ih =>
    have hcons : Text.terminated (l :: ls) = (l ++ ['\n']) ++ Text.terminated ls := by simp
    rw [hcons]
    by_cases hl : '\n' ∈ l
    · rw [List.filter_cons_of_neg (by simpa using hl)]
      exact (of_getLast? List.getLast?_concat).append ih
    · rw [List.filter_cons_of_pos (by simpa using hl)]
      exact (line hl).append ih

/-- The lines that are kept are lines of the text. -/
theorem sublist_lines (h : KeepsLines t ls) : ls.Sublist (lines t) := by
  have hall := h []
  rw [List.append_nil] at hall
  exact (List.sublist_append_left ls _).trans hall

end KeepsLines

end Text

/-- The visible flags of an application and of its visible commands, in the order of a document. -/
def Command.shownFlags (root : Command) : List Flag :=
  root.shownDetails.flatMap fun d => inGroups d.visibleFlags

namespace Tabular

/-- The rows of a command that are lines. -/
def plainRows (d : CommandDetails) : List Text := (rowsOf d).filter fun l => '\n' ∉ l

section Parts

theorem keepsLines_groupTable (g : FlagGroup) :
    (groupTable g).KeepsLines ((g.flags.map row).filter fun l => '\n' ∉ l) := by
  have htext : groupTable g =
      ('\n' :: (if g.category.isEmpty then [] else "**".toList ++ g.category ++ "**\n".toList) ++
        '\n' :: Text.terminated tableHead) ++ (Text.terminated (g.flags.map row) ++ ['\n']) := by
    simp [groupTable, Text.terminated_append]
  have hfront : Text.KeepsLines
      ('\n' :: (if g.category.isEmpty then [] else "**".toList ++ g.category ++ "**\n".toList) ++
        '\n' :: Text.terminated tableHead) [] := by
    refine .of_getLast? ?_
    rw [List.getLast?_append]
    rfl
  rw [htext]
  have hrows := (Text.KeepsLines.terminated (g.flags.map row)).append
    (.of_getLast? (t := ['\n']) rfl)
  rw [List.append_nil] at hrows
  exact hfront.append hrows

/-- The tables of a command, under a line that announces them. -/
theorem keepsLines_tables (d : CommandDetails) (announcement : Text)
    (h : announcement.getLast? = some '\n') : Text.KeepsLines
      (if (groupedFlags (groupFlags d.flags)).isEmpty then []
        else announcement ++ (groupFlags d.flags).flatMap groupTable) (plainRows d) := by
  rw [plainRows, ← map_row_groupedFlags]
  split
  · next hnone =>
    rw [List.isEmpty_iff.1 hnone]
    exact .nil
  · have htables := Text.KeepsLines.flatMap fun g (_ : g ∈ groupFlags d.flags) =>
      keepsLines_groupTable g
    rw [groupedFlags, List.map_flatMap, List.filter_flatMap]
    exact (Text.KeepsLines.of_getLast? h).append htables

theorem getLast?_shellBlock (line : Text) : (shellBlock line).getLast? = some '\n' := by
  have hend : "\n```\n\n".toList.getLast? = some '\n' := by decide
  exact (List.getLast?_append_of_ne_nil _ (by decide)).trans hend

/-- The section of a command keeps the rows of its flags. -/
theorem keepsLines_commandSection (calledAs : Text) (v : Visit) :
    (commandSection calledAs v.summary).KeepsLines (plainRows v.command.details) := by
  have htables := keepsLines_tables v.command.details
    "The following flags are supported:\n".toList rfl
  unfold commandSection
  refine Text.KeepsLines.append (.of_getLast? ?_) htables
  rw [List.getLast?_append, getLast?_shellBlock, Option.some_or]

end Parts

section Draft

/-- The sections of the commands keep the rows of every visible command. -/
theorem keepsLines_sections (root : Command) (asked calledAs : Text) : Text.KeepsLines
    ((DocumentView.ofCommand root asked 0).allCommands.flatMap fun c =>
      commandSection calledAs c.summary ++ "\n\n".toList)
    (root.shown.flatMap fun v => plainRows v.command.details) := by
  have hsummaries : ((DocumentView.ofCommand root asked 0).allCommands.map (·.summary)).flatMap
      (fun c => commandSection calledAs c ++ "\n\n".toList) =
      root.shown.flatMap fun v => commandSection calledAs v.summary ++ "\n\n".toList := by
    rw [DocumentView.map_summary_allCommands, List.flatMap_map]
  rw [List.flatMap_map] at hsummaries
  rw [hsummaries]
  refine .flatMap fun v _ => ?_
  have hblank : Text.KeepsLines "\n\n".toList [] := .of_getLast? (by decide)
  have hsection := (keepsLines_commandSection calledAs v).append hblank
  rwa [List.append_nil] at hsection

/-- **The rows of a document** before it is tidied are lines of it, unless there is a line end in
them. -/
theorem keepsLines_draft (root : Command) (asked : Text) :
    (draft (DocumentView.ofCommand root asked 0)).KeepsLines
      (root.shownDetails.flatMap plainRows) := by
  have hflags := keepsLines_tables root.details "Global flags:\n".toList (by decide)
  have hsections := keepsLines_sections root asked (DocumentView.ofCommand root asked 0).calledAs
  have hblank : Text.KeepsLines "\n\n".toList [] := .of_getLast? (by decide)
  have hshell (t line : Text) : (t ++ '\n' :: shellBlock line).getLast? = some '\n' := by
    have hne : shellBlock line ≠ [] := fun hnil => by
      have hlast := getLast?_shellBlock line
      rw [hnil] at hlast
      cases hlast
    rw [List.getLast?_append, List.getLast?_cons_of_ne_nil hne, getLast?_shellBlock, Option.some_or]
  have hauthors (t : Text) : Text.KeepsLines ('\n' :: t ++ ['\n']) [] :=
    .of_getLast? List.getLast?_concat
  -- the empty lists stand for the parts that have no rows
  have hkept : root.shownDetails.flatMap plainRows = [] ++ plainRows root.details ++ [] ++
      root.shown.flatMap (fun v => plainRows v.command.details) ++ [] := by
    simp [Command.shownDetails, List.flatMap_map]
  unfold draft
  rw [hkept, List.append_assoc _ _ ['\n']]
  exact ((((Text.KeepsLines.of_getLast? (hshell _ _)).append hflags).append hblank).append
    hsections).append (hauthors _)

/-- The rows of the flags without line ends are among the rows that are lines. -/
theorem map_row_sublist_plainRows (root : Command) :
    ((root.shownFlags.filter (·.IsUnbroken)).map fun f => row (FlagView.ofFlag f)).Sublist
      (root.shownDetails.flatMap plainRows) := by
  have hplain : root.shownDetails.flatMap plainRows =
      (root.shownFlags.filter fun f => '\n' ∉ row (FlagView.ofFlag f)).map fun f =>
        row (FlagView.ofFlag f) := by
    have hrows := List.filter_map (f := fun f => row (FlagView.ofFlag f)) (p := fun l => '\n' ∉ l)
      (l := root.shownFlags)
    rw [Command.shownFlags, List.map_flatMap, List.filter_flatMap] at hrows
    exact hrows
  rw [hplain]
  refine .map _ (List.monotone_filter_right _ fun f hf => ?_)
  exact decide_eq_true (newline_notMem_row (of_decide_eq_true hf))

/-- **The rows of a document**: those of the flags without line ends are lines of it, in their
order. -/
theorem map_row_sublist_lines_render (root : Command) (asked : Text) :
    ((root.shownFlags.filter (·.IsUnbroken)).map fun f => row (FlagView.ofFlag f)).Sublist
      (Text.lines (render (DocumentView.ofCommand root asked 0))) := by
  have hfirm : ∀ l ∈ (root.shownFlags.filter (·.IsUnbroken)).map fun f =>
      row (FlagView.ofFlag f), Prose.isFirm l = true := by
    refine List.forall_mem_map.2 fun f _ => ?_
    have hne : row (FlagView.ofFlag f) ≠ [] := by simp [row_eq]
    simp [Prose.isFirm, hne, getLast?_row (FlagView.ofFlag f)]
  have hdraft := (map_row_sublist_plainRows root).trans (keepsLines_draft root asked).sublist_lines
  obtain ⟨t, ht⟩ := exists_draft_eq_cons (DocumentView.ofCommand root asked 0)
  rw [ht] at hdraft
  rw [render, ht]
  exact Prose.sublist_lines_tidy hfirm (by decide) (by decide) hdraft

end Draft

end Tabular

open Tabular

/-- The document of an application in which everything can be shown. -/
theorem renderTabular_eq_ok {root : Command} (h : DocumentView.fault? root = none) (asked : Text) :
    renderTabular none root asked =
      .ok (Tabular.render (DocumentView.ofCommand root asked 0)) := by
  have hlaid := layOut_none Tabular.draft (v := DocumentView.ofCommand root asked 0) isWritable_zero
  rw [renderTabular, DocumentView.build_eq_ok h, Except.mapError_ok, Except.ok_bind, hlaid]
  rfl

theorem renderTabular_eq_error {root : Command} {f : ViewFault}
    (h : DocumentView.fault? root = some f) (asked : Text) :
    renderTabular none root asked = .error (.view f) := by
  have hbuild : DocumentView.build root asked 0 = .error f := by rw [DocumentView.build, h]
  rw [renderTabular, hbuild, Except.mapError_error, Except.error_bind]

/-- **The tables of a document stay tables.** A visible flag has a row of its own, which is a line
of the document if there is no line end in the names, the default or the environment variables of
the flag. With names that have no bars, the row has its four cells if and only if no bar cuts the
usage, the default or an environment variable. There is no document only if a visible flag has names
or a default that are no text. -/
theorem rows_of_renderTabular (root : Command) (asked : Text) :
    match DocumentView.fault? root with
    | some f => renderTabular none root asked = .error (.view f)
    | none => ∃ t, renderTabular none root asked = .ok t ∧
        ((root.shownFlags.filter (·.IsUnbroken)).map fun f => row (FlagView.ofFlag f)).Sublist
          (Text.lines t) ∧
        ∀ f ∈ root.shownFlags, (∀ n ∈ f.names.toList, '|' ∉ n) →
          (columns (row (FlagView.ofFlag f)) = fourColumns (FlagView.ofFlag f) ↔
            hasBar f.usage = false ∧ hasBar f.defaultDisplay = false ∧
              ∀ e ∈ f.envVars, hasBar e = false) := by
  cases hfault : DocumentView.fault? root with
  | some f => exact renderTabular_eq_error hfault asked
  | none =>
    exact ⟨_, renderTabular_eq_ok hfault asked, map_row_sublist_lines_render root asked,
      fun f _ hnames => columns_row_iff hnames⟩

/-- A bar behind a backslash does not cut, neither in a usage nor in a default. -/
theorem rows_of_renderTabular_of_escaped :
    let format : Flag := { names := ⟨["format".toList], rfl⟩, usage := "json\\|yaml".toList,
                           defaultText := "json".toList, envVars := ["FORMAT".toList] }
    let root : Command := .mk { name := "app".toList, flags := [format] } []
    (∀ n ∈ format.names.toList, '|' ∉ n) ∧ ∃ t, renderTabular none root [] = .ok t ∧
      ["| `--format=\"…\"` | json\\|yaml | `json` | `FORMAT` |".toList].Sublist (Text.lines t) ∧
      columns "| `--format=\"…\"` | json\\|yaml | `json` | `FORMAT` |".toList =
        fourColumns (FlagView.ofFlag format) := by
  intro format root
  have hnames : ∀ n ∈ format.names.toList, '|' ∉ n := by decide
  have hfault : DocumentView.fault? root = none := by rfl
  have hdocument := rows_of_renderTabular root []
  rw [hfault] at hdocument
  obtain ⟨t, ht, hlines, hcells⟩ := hdocument
  have hrow : row (FlagView.ofFlag format) =
      "| `--format=\"…\"` | json\\|yaml | `json` | `FORMAT` |".toList := by rfl
  have hflags : root.shownFlags = [format] := by rfl
  have hshown : root.shownFlags.filter (·.IsUnbroken) = [format] := by
    rw [hflags]
    exact List.filter_cons_of_pos (by decide)
  rw [hshown, List.map_singleton, hrow] at hlines
  have hbars := (hcells format (hflags ▸ List.mem_singleton_self _) hnames).2 (by decide)
  rw [hrow] at hbars
  exact ⟨hnames, t, ht, hlines, hbars⟩

/-- A bar in a usage cuts, so that the row has five cells, and a line end in a default breaks the
row, so that it is no line. -/
theorem row_of_json_or_yaml :
    let format : Flag := { names := ⟨["format".toList], rfl⟩, usage := "json|yaml".toList }
    let lines : Flag := { names := ⟨["lines".toList], rfl⟩, defaultText := "a\nb".toList }
    let root : Command := .mk { name := "app".toList, flags := [format, lines] } []
    (∀ n ∈ format.names.toList, '\n' ∉ n ∧ '|' ∉ n) ∧
      (∀ n ∈ lines.names.toList, '\n' ∉ n ∧ '|' ∉ n) ∧
      ∃ t, renderTabular none root [] = .ok t ∧
        row (FlagView.ofFlag format) ∈ Text.lines t ∧
        columns (row (FlagView.ofFlag format)) = [[], " `--format=\"…\"` ".toList,
          " json".toList, "yaml ".toList, "  ".toList, " *none* ".toList, []] ∧
        columns (row (FlagView.ofFlag format)) ≠ fourColumns (FlagView.ofFlag format) ∧
        row (FlagView.ofFlag lines) ∉ Text.lines t := by
  intro format lines root
  have hfault : DocumentView.fault? root = none := by rfl
  have hlines := map_row_sublist_lines_render root []
  have hflags : root.shownFlags.filter (·.IsUnbroken) = [format] := by rfl
  rw [hflags, List.map_singleton, List.singleton_sublist] at hlines
  have hbroken : row (FlagView.ofFlag lines) ∉
      Text.lines (render (DocumentView.ofCommand root [] 0)) := fun hmem =>
    Text.newline_notMem_of_mem_lines hmem (by decide)
  exact ⟨by decide, by decide, _, renderTabular_eq_ok hfault [], hlines, by decide,
    by decide, hbroken⟩

end CommandManual
