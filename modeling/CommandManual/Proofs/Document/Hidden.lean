import CommandManual.Document.Render
import CommandManual.Proofs.Command.Prune

/-!
# What is hidden is not shown

Cutting hidden entries out of a tree changes no document of it. The walk over the commands meets
the same visible commands in the same order, so that the induction is on the worklist of the walk:
a worklist of pruned commands is listed like the worklist itself (`walk_map_prune`).

A fault of something hidden is not reported either (`viewFaults?_pruneAll`), so that the documents
are equal also where there are none.

## Main definitions

* `Visit.prune`: a visit of the pruned command.
* `SameDocuments`: two trees have the same view and the same documents.

## Main results

* `DocumentView.build_prune`: a tree and the pruned tree have the same view.
* `hidden_not_shown`: trees that differ in nothing but what is hidden have the same documents.
-/

namespace CommandManual

/-! ### Flags and details -/

theorem groupFlags_filter (fs : List Flag) :
    groupFlags (fs.filter (!·.hidden)) = groupFlags fs := by
  rw [groupFlags, groupFlags, List.filter_filter]
  simp only [Bool.and_self]

namespace CommandDetails

variable (d : CommandDetails)

theorem groupFlags_prune : groupFlags d.prune.flags = groupFlags d.flags :=
  groupFlags_filter d.flags

theorem viewFault?_prune : d.prune.viewFault? = d.viewFault? := by
  rw [viewFault?, visibleFlags_prune, viewFault?]

theorem viewFault?_pruneBelow : d.pruneBelow.viewFault? = d.viewFault? := d.viewFault?_prune

end CommandDetails

/-- What a document shows of a command has nothing that is hidden in it. -/
theorem CommandSummary.ofDetails_pruneBelow (d : CommandDetails) (level : Nat) (parent : Text) :
    ofDetails d.pruneBelow level parent = ofDetails d level parent := by
  have hgroups : groupFlags d.pruneBelow.flags = groupFlags d.flags := d.groupFlags_prune
  simp only [ofDetails, hgroups]
  rfl

/-! ### The walk -/

/-- A visit of the pruned command. -/
def Visit.prune (v : Visit) : Visit := { v with command := v.command.pruneBelow }

theorem visitsBelow_eq_map {b c : Command} (h : b.commands = Command.pruneAll c.commands)
    (level : Nat) (parent : Text) :
    visitsBelow b level parent = (visitsBelow c level parent).map Visit.prune := by
  rw [visitsBelow, Command.visibleCommands_eq_map h, visitsBelow, List.map_map, List.map_map]
  rfl

theorem Visit.summary_prune (v : Visit) : v.prune.summary = v.summary := by
  rw [summary, show v.prune.command = v.command.pruneBelow from rfl, Command.details_pruneBelow]
  exact CommandSummary.ofDetails_pruneBelow ..

theorem Visit.below_prune (v : Visit) : v.prune.below = v.below.map Visit.prune := by
  rw [below, summary_prune]
  exact visitsBelow_eq_map v.command.commands_pruneBelow ..

/-- **A pruned worklist is walked like the worklist itself.** -/
theorem walk_map_prune (n : Nat) (vs : List (Offspring Visit)) :
    walk n (vs.map fun v => ⟨v.item.prune, v.parent⟩) = walk n vs := by
  fun_induction walk n vs with
  | case1 => rw [List.map_nil, walk]
  | case2 n v vs ih =>
    rw [List.map_cons, walk, Visit.summary_prune, Visit.below_prune, ← ih, List.map_append,
      List.map_map, List.map_map]
    rfl

/-! ### Faults -/

mutual

theorem viewFault?_pruneBelow : ∀ c : Command, c.pruneBelow.viewFault? = c.viewFault?
  | .mk d cs => by
    rw [Command.pruneBelow, Command.viewFault?, d.viewFault?_pruneBelow, viewFaults?_pruneAll cs,
      Command.viewFault?]

theorem viewFaults?_pruneAll : ∀ cs : List Command,
    viewFaults? (Command.pruneAll cs) = viewFaults? cs
  | [] => by rw [Command.pruneAll]
  | c :: cs => by
    rw [Command.pruneAll, viewFaults?]
    cases hc : c.hidden with
    | true => rw [if_pos rfl, if_pos rfl, viewFaults?_pruneAll cs]
    | false =>
      rw [if_neg Bool.false_ne_true, if_neg Bool.false_ne_true, viewFaults?,
        Command.hidden_pruneBelow, hc, if_neg Bool.false_ne_true, viewFault?_pruneBelow c,
        viewFaults?_pruneAll cs]

end

/-! ### Views -/

namespace DocumentView

theorem fault?_prune (root : Command) : fault? root.prune = fault? root := by
  rw [fault?, Command.commands_prune, viewFaults?_pruneAll, Command.details_prune,
    CommandDetails.viewFault?_prune, fault?]

theorem ofCommand_prune (root : Command) (asked : Text) (manualSection : Int) :
    ofCommand root.prune asked manualSection = ofCommand root asked manualSection := by
  have hgroups : groupFlags root.details.prune.flags = groupFlags root.details.flags :=
    root.details.groupFlags_prune
  have hwalk : walk 1 ((visitsBelow root.prune 0 []).map (⟨·, 0⟩)) =
      walk 1 ((visitsBelow root 0 []).map (⟨·, 0⟩)) := by
    refine Eq.trans (congrArg (walk 1) ?_) (walk_map_prune 1 _)
    rw [visitsBelow_eq_map root.commands_prune, List.map_map, List.map_map]
    rfl
  simp only [ofCommand, Command.details_prune, hgroups, hwalk]
  rfl

/-- **A tree and the pruned tree have the same view**, or the same fault. -/
theorem build_prune (root : Command) (asked : Text) (manualSection : Int) :
    build root.prune asked manualSection = build root asked manualSection := by
  rw [build, fault?_prune, ofCommand_prune, build]

end DocumentView

/-! ### Documents -/

/-- Two trees have the same view and the same documents, whatever the name that is asked for, the
section and the template; where one of them has a fault, so has the other. -/
structure SameDocuments (a b : Command) : Prop where
  view : ∀ asked manualSection,
    DocumentView.build a asked manualSection = DocumentView.build b asked manualSection
  narrative : ∀ template manualSection,
    renderNarrative template a manualSection = renderNarrative template b manualSection
  tabular : ∀ template asked, renderTabular template a asked = renderTabular template b asked
  manual : ∀ template manualSection,
    renderManual template a manualSection = renderManual template b manualSection

/-- Documents are layouts of the view. -/
theorem SameDocuments.of_view {a b : Command}
    (h : ∀ asked manualSection,
      DocumentView.build a asked manualSection = DocumentView.build b asked manualSection) :
    SameDocuments a b := by
  have narrative : ∀ template manualSection,
      renderNarrative template a manualSection = renderNarrative template b manualSection := by
    intro template manualSection
    rw [renderNarrative, h, renderNarrative]
  refine ⟨h, narrative, ?_, ?_⟩
  · intro template asked
    rw [renderTabular, h, renderTabular]
  · intro template manualSection
    rw [renderManual, narrative, renderManual]

/-- **What is hidden is not shown.** Pruning changes no document of a tree, and trees that differ
in nothing but what is hidden, or in authors and copyright below the root, have the same
documents. -/
theorem hidden_not_shown :
    (∀ root : Command, SameDocuments root.prune root) ∧
      ∀ a b : Command, a.prune = b.prune → SameDocuments a b := by
  refine ⟨fun root => .of_view (DocumentView.build_prune root), ?_⟩
  intro a b hab
  refine .of_view fun asked manualSection => ?_
  rw [← DocumentView.build_prune a, hab, DocumentView.build_prune b]

/-- A hidden command with another one below it, and a hidden flag that could not be shown. -/
theorem hidden_not_shown_of_secret :
    let run : Command := .mk { name := "run".toList } []
    let secret : Command := .mk { name := "secret".toList, hidden := true } [run]
    let key : Flag := { names := ⟨["key".toList], rfl⟩, strays := [(0, .null)], hidden := true }
    let keyed : Command := .mk { name := "run".toList, flags := [key], copyright := ['c'] } [secret]
    let plain : Command := .mk { name := "app".toList } [run]
    let full : Command := .mk { name := "app".toList, flags := [key] } [secret, keyed]
    full.prune = plain.prune ∧ SameDocuments full plain := by
  intro run secret key keyed plain full
  have hprune : full.prune = plain.prune := rfl
  exact ⟨hprune, hidden_not_shown.2 full plain hprune⟩

end CommandManual
