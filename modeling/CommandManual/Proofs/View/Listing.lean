import CommandManual.Proofs.Text.Lines
import CommandManual.Proofs.View.Forest
import CommandManual.Proofs.View.Groups

/-!
# The commands of an application from the top

A document lists the visible commands by a walk over a worklist, in which each entry notes the one
above. Where only the summaries are laid out, the notes do not matter: what is laid out is the
listing of the tree from the top, a command in front of everything below it. `Command.visits` is
that listing by recursion on the tree, and it is what statements about documents are made of.

## Main definitions

* `Command.visits`, `visitsAll`: the visible commands of a tree, and of a list of trees.
* `Command.shown`: the visible commands of an application.
* `Command.shownDetails`: what is said about the application and about each of them.

## Main results

* `map_item_walk`: the walk meets the visible commands from the top.
* `DocumentView.map_summary_allCommands`: what is laid out of the commands.
-/

namespace CommandManual

mutual

/-- A command and the visible commands below it, from the top. -/
def Command.visits (level : Nat) (parent : Text) : Command → List Visit
  | .mk d cs => ⟨.mk d cs, level, parent⟩ :: visitsAll (level + 1) (fullName parent d.name) cs

/-- The visible ones of some commands with the visible commands below them, from the top. -/
def visitsAll (level : Nat) (parent : Text) : List Command → List Visit
  | [] => []
  | c :: cs =>
    if c.hidden then visitsAll level parent cs
    else c.visits level parent ++ visitsAll level parent cs

end

/-- The visible commands of an application, from the top. -/
def Command.shown (root : Command) : List Visit := visitsAll 0 [] root.commands

/-- What is said about the application and about each visible command. -/
def Command.shownDetails (root : Command) : List CommandDetails :=
  root.details :: root.shown.map (·.command.details)

/-- Only dashes are added to names when they are typed. -/
theorem FlagNames.notMem_spelled {ns : FlagNames} {c : Char} (hc : c ≠ '-')
    (h : ∀ n ∈ ns.toList, c ∉ n) : ∀ n ∈ ns.spelled, c ∉ n := by
  intro n hn
  obtain ⟨name, hname, rfl⟩ := List.mem_map.1 hn
  have hbare : c ∉ name.strip := fun hmem =>
    h name (List.mem_filter.1 hname).1 (Text.strip_subset name hmem)
  rw [FlagNames.spelling]
  split <;> simpa [hc] using hbare

/-! ### The walk -/

/-- A listed command is in front of the listings of the visible commands below it. -/
theorem visitsAll_eq_flatMap (level : Nat) (parent : Text) (cs : List Command) :
    visitsAll level parent cs = (cs.filter (!·.hidden)).flatMap (·.visits level parent) := by
  induction cs with
  | nil => rw [visitsAll, List.filter_nil, List.flatMap_nil]
  | cons c cs ih =>
    rw [visitsAll, ih]
    cases hc : c.hidden with
    | true => rw [if_pos rfl, List.filter_cons_of_neg (by simp [hc])]
    | false =>
      rw [if_neg Bool.false_ne_true, List.filter_cons_of_pos (by simp [hc]), List.flatMap_cons]

/-- The listing of a command that is met. -/
def Visit.visits (v : Visit) : List Visit := v.command.visits v.level v.parent

theorem Visit.visits_eq (v : Visit) : v.visits = v :: v.below.flatMap Visit.visits := by
  obtain ⟨⟨d, cs⟩, level, parent⟩ := v
  rw [visits, Command.visits, visitsAll_eq_flatMap, below, visitsBelow, List.flatMap_map]
  rfl

/-- **The walk meets the visible commands from the top.** -/
theorem map_item_walk (n : Nat) (vs : List (Offspring Visit)) :
    (walk n vs).map (·.item) = (vs.flatMap (·.item.visits)).map Visit.summary := by
  fun_induction walk n vs with
  | case1 => rfl
  | case2 n v vs ih =>
    rw [List.map_cons, ih, List.flatMap_cons, Visit.visits_eq, List.flatMap_append,
      List.flatMap_map, List.cons_append, List.map_cons]

/-! ### Nothing is shown only if nothing is visible -/

theorem visitsAll_eq_nil_iff {level : Nat} {parent : Text} {cs : List Command} :
    visitsAll level parent cs = [] ↔ cs.filter (!·.hidden) = [] := by
  induction cs with
  | nil => simp [visitsAll]
  | cons c cs ih =>
    obtain ⟨d, below⟩ := c
    rw [visitsAll, List.filter_cons]
    cases hc : (Command.mk d below).hidden with
    | true => simpa using ih
    | false => simp [Command.visits]

theorem Command.shown_eq_nil_iff {root : Command} : root.shown = [] ↔ root.visibleCommands = [] :=
  visitsAll_eq_nil_iff

/-! ### Views -/

namespace DocumentView

variable (root : Command) (asked : Text) (manualSection : Int)

/-- **What is laid out of the commands** are the visible ones, from the top. -/
theorem map_summary_allCommands :
    (ofCommand root asked manualSection).allCommands.map (·.summary) =
      root.shown.map Visit.summary := by
  have hitem : (ofCommand root asked manualSection).allCommands.map (·.summary) =
      (walk 1 ((visitsBelow root 0 []).map (⟨·, 0⟩))).map (·.item) :=
    Offspring.map_all_grow CommandView.summary_mk 1 _
  rw [hitem, map_item_walk, List.flatMap_map, visitsBelow, List.flatMap_map, Command.shown,
    visitsAll_eq_flatMap]
  rfl

theorem commands_eq_nil_iff :
    (ofCommand root asked manualSection).commands = [] ↔ root.shown = [] := by
  rw [commands_ofCommand, List.map_eq_nil_iff, Command.shown_eq_nil_iff]

/-- The flags of the application are its visible flags in the order of their groups. -/
theorem flags_ofCommand : (ofCommand root asked manualSection).flags =
    (inGroups root.details.visibleFlags).map FlagView.ofFlag :=
  groupedFlags_groupFlags _

variable {root asked manualSection} in
/-- What is laid out of a command is what is shown of a visible one. -/
theorem exists_shown_of_mem_allCommands {c : CommandView}
    (hc : c ∈ (ofCommand root asked manualSection).allCommands) :
    ∃ v ∈ root.shown, v.summary = c.summary := by
  have hsummary := List.mem_map_of_mem (f := CommandView.summary) hc
  rw [map_summary_allCommands] at hsummary
  exact List.mem_map.1 hsummary

end DocumentView

end CommandManual
