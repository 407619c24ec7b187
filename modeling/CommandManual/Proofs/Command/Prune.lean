import CommandManual.Command.Basic

/-!
# Trees without what is hidden

`Command.prune` cuts everything out of a tree that documentation may not mention: hidden flags,
hidden commands with all that is below them, and what is said about authors below the root. Two
trees with the same pruned tree differ in nothing else.

## Main definitions

* `CommandDetails.prune`, `Command.pruneBelow`, `Command.pruneAll`: the parts.
* `Command.prune`: a tree without what is hidden. The root stays, also if it is hidden.

## Main results

* `Command.pruneAll_eq_map`: the commands of a list that stay are those that are not hidden.
* `Command.filter_pruneAll`, `CommandDetails.visibleFlags_prune`: nothing in a pruned tree is
  hidden.
* `Command.visibleCommands_eq_map`: what is visible is the same.
* `Command.prune_prune`: there is nothing left to be cut out.
-/

namespace CommandManual

namespace CommandDetails

/-- The details without the hidden flags. -/
def prune (d : CommandDetails) : CommandDetails := { d with flags := d.visibleFlags }

/-- The details of a command below the root, without the hidden flags, authors and copyright. -/
def pruneBelow (d : CommandDetails) : CommandDetails :=
  { d.prune with authors := [], copyright := [] }

variable (d : CommandDetails)

@[simp] theorem hidden_pruneBelow : d.pruneBelow.hidden = d.hidden := rfl

/-- No flag of a pruned command is hidden. -/
@[simp] theorem visibleFlags_prune : d.prune.visibleFlags = d.visibleFlags := by
  simp [prune, visibleFlags]

@[simp] theorem visibleFlags_pruneBelow : d.pruneBelow.visibleFlags = d.visibleFlags :=
  d.visibleFlags_prune

@[simp] theorem prune_prune : d.prune.prune = d.prune := by
  rw [prune, visibleFlags_prune]
  rfl

@[simp] theorem pruneBelow_pruneBelow : d.pruneBelow.pruneBelow = d.pruneBelow := by
  rw [pruneBelow, prune, visibleFlags_pruneBelow]
  rfl

end CommandDetails

namespace Command

mutual

/-- A command below the root, without what is hidden in it. -/
def pruneBelow : Command → Command
  | .mk d cs => .mk d.pruneBelow (pruneAll cs)

/-- The commands of a list that are not hidden, without what is hidden in them. -/
def pruneAll : List Command → List Command
  | [] => []
  | c :: cs => if c.hidden then pruneAll cs else c.pruneBelow :: pruneAll cs

end

/-- A tree without what is hidden in it. -/
def prune : Command → Command
  | .mk d cs => .mk d.prune (pruneAll cs)

@[simp] theorem details_prune (c : Command) : c.prune.details = c.details.prune := by
  cases c
  rfl

@[simp] theorem commands_prune (c : Command) : c.prune.commands = pruneAll c.commands := by
  cases c
  rfl

@[simp] theorem details_pruneBelow (c : Command) :
    c.pruneBelow.details = c.details.pruneBelow := by
  cases c
  rw [pruneBelow, details_mk, details_mk]

@[simp] theorem commands_pruneBelow (c : Command) :
    c.pruneBelow.commands = pruneAll c.commands := by
  cases c
  rw [pruneBelow, commands_mk, commands_mk]

@[simp] theorem hidden_pruneBelow (c : Command) : c.pruneBelow.hidden = c.hidden := by
  rw [hidden, hidden, details_pruneBelow, CommandDetails.hidden_pruneBelow]

/-- The commands that stay are those that are not hidden. -/
theorem pruneAll_eq_map (cs : List Command) :
    pruneAll cs = (cs.filter (!·.hidden)).map pruneBelow := by
  induction cs with
  | nil => rw [pruneAll, List.filter_nil, List.map_nil]
  | cons c cs ih =>
    rw [pruneAll, ih]
    cases hc : c.hidden with
    | true => rw [if_pos rfl, List.filter_cons_of_neg (by simp [hc])]
    | false =>
      rw [if_neg Bool.false_ne_true, List.filter_cons_of_pos (by simp [hc]), List.map_cons]

/-- None of the commands that stay is hidden. -/
theorem filter_pruneAll (cs : List Command) :
    (pruneAll cs).filter (!·.hidden) = pruneAll cs := by
  rw [List.filter_eq_self, pruneAll_eq_map]
  intro c hc
  obtain ⟨b, hb, rfl⟩ := List.mem_map.1 hc
  rw [hidden_pruneBelow]
  exact (List.mem_filter.1 hb).2

/-- The visible commands below a command whose commands are pruned. -/
theorem visibleCommands_eq_map {b c : Command} (h : b.commands = pruneAll c.commands) :
    b.visibleCommands = c.visibleCommands.map pruneBelow := by
  rw [visibleCommands, h, filter_pruneAll, pruneAll_eq_map, visibleCommands]

mutual

theorem pruneBelow_pruneBelow : ∀ c : Command, c.pruneBelow.pruneBelow = c.pruneBelow
  | .mk d cs => by
    rw [pruneBelow, pruneBelow, pruneAll_pruneAll cs, CommandDetails.pruneBelow_pruneBelow]

theorem pruneAll_pruneAll : ∀ cs : List Command, pruneAll (pruneAll cs) = pruneAll cs
  | [] => by rw [pruneAll, pruneAll]
  | c :: cs => by
    rw [pruneAll]
    cases hc : c.hidden with
    | true => rw [if_pos rfl, pruneAll_pruneAll cs]
    | false =>
      rw [if_neg Bool.false_ne_true, pruneAll, hidden_pruneBelow, hc, if_neg Bool.false_ne_true,
        pruneBelow_pruneBelow c, pruneAll_pruneAll cs]

end

/-- **Pruning leaves nothing to be pruned.** -/
@[simp] theorem prune_prune (c : Command) : c.prune.prune = c.prune := by
  obtain ⟨d, cs⟩ := c
  rw [prune, prune, CommandDetails.prune_prune, pruneAll_pruneAll]

end Command

end CommandManual
