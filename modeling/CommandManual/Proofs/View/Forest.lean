import CommandManual.View.Document

/-!
# The views of a forest of commands

The walk meets the commands of all depths in one row and puts each of them below the one that it was
met from. What comes of it is the forest that recursion on the tree makes: a command has the views
of its visible commands below it, one level deeper, and the row of all commands is the forest from
the top.

Both are shown by induction along the walk, for any worklist. What it keeps is that the waiting
commands are to be put below numbers that are in use already, so that what the next command brings
is the only thing to be put below it.

## Main definitions

* `Command.view`, `viewsAll`: the view of a command, and of the visible commands of a list.
* `preorderAll`: the trees of a forest from the top, each with all that is below it.

## Main results

* `below_grow_walk`, `all_grow_walk`: the trees that a walk makes.
* `DocumentView.commands_ofCommand`, `DocumentView.allCommands_ofCommand`: the views of an
  application's commands.
-/

namespace CommandManual

/-- The full name of a command below a command with a full name. -/
def fullName (parent name : Text) : Text := Text.strip (parent ++ ' ' :: name)

mutual

/-- The view of a command at a depth, below a command with a full name, with the views of the
visible commands below it. -/
def Command.view (level : Nat) (parent : Text) : Command → CommandView
  | .mk d cs => .mk (.ofDetails d level parent) (viewsAll (level + 1) (fullName parent d.name) cs)

/-- The views of the visible ones of some commands. -/
def viewsAll (level : Nat) (parent : Text) : List Command → List CommandView
  | [] => []
  | c :: cs =>
    if c.hidden then viewsAll level parent cs
    else c.view level parent :: viewsAll level parent cs

end

mutual

/-- A tree and all trees below it, from the top. -/
def CommandView.preorder : CommandView → List CommandView
  | .mk s vs => .mk s vs :: preorderAll vs

/-- The trees of a list and all trees below them, from the top. -/
def preorderAll : List CommandView → List CommandView
  | [] => []
  | v :: vs => v.preorder ++ preorderAll vs

end

theorem preorderAll_append (vs ws : List CommandView) :
    preorderAll (vs ++ ws) = preorderAll vs ++ preorderAll ws := by
  induction vs with
  | nil => rfl
  | cons v vs ih => rw [List.cons_append, preorderAll, ih, preorderAll, List.append_assoc]

theorem viewsAll_eq_map (level : Nat) (parent : Text) (cs : List Command) :
    viewsAll level parent cs = (cs.filter (!·.hidden)).map (·.view level parent) := by
  induction cs with
  | nil => rw [viewsAll, List.filter_nil, List.map_nil]
  | cons c cs ih =>
    rw [viewsAll, ih]
    cases hc : c.hidden with
    | true => rw [if_pos rfl, List.filter_cons_of_neg (by simp [hc])]
    | false =>
      rw [if_neg Bool.false_ne_true, List.filter_cons_of_pos (by simp [hc]), List.map_cons]

/-- The view of a command that is met. -/
def Visit.view (v : Visit) : CommandView := v.command.view v.level v.parent

/-- The view of a command has the views of what is to be met next below it. -/
theorem Visit.view_eq (v : Visit) :
    v.view = .mk v.summary (v.below.map Visit.view) := by
  obtain ⟨⟨d, cs⟩, level, parent⟩ := v
  rw [view, Command.view, viewsAll_eq_map, below, visitsBelow, List.map_map]
  rfl

/-! ### The walk -/

/-- Of the commands to be met next, those that a command brings are the ones to be put below it. -/
theorem filter_parent_below {n : Nat} {vs : List (Offspring Visit)} (h : ∀ v ∈ vs, v.parent < n)
    (below : List Visit) :
    ((below.map fun v => (⟨v, n⟩ : Offspring Visit)) ++ vs).filter (·.parent = n) =
      below.map (⟨·, n⟩) := by
  have hbelow : (below.map fun v => (⟨v, n⟩ : Offspring Visit)).filter (·.parent = n) =
      below.map (⟨·, n⟩) := List.filter_eq_self.2 (by simp)
  have hrest : vs.filter (·.parent = n) = [] :=
    List.filter_eq_nil_iff.2 fun v hv => by simpa using Nat.ne_of_lt (h v hv)
  rw [List.filter_append, hbelow, hrest, List.append_nil]

/-- Those that are to be put below another number are among the others. -/
theorem filter_parent_of_ne {n parent : Nat} (h : parent < n) (vs : List (Offspring Visit))
    (below : List Visit) :
    ((below.map fun v => (⟨v, n⟩ : Offspring Visit)) ++ vs).filter (·.parent = parent) =
      vs.filter (·.parent = parent) := by
  have hbelow : (below.map fun v => (⟨v, n⟩ : Offspring Visit)).filter (·.parent = parent) = [] :=
    List.filter_eq_nil_iff.2 (by simpa using fun _ _ => Nat.ne_of_gt h)
  rw [List.filter_append, hbelow, List.nil_append]

/-- What waits is to be put below what was met, also after the next command. -/
theorem parent_lt_succ {n : Nat} {vs : List (Offspring Visit)} (h : ∀ v ∈ vs, v.parent < n)
    (below : List Visit) :
    ∀ v ∈ (below.map fun v => (⟨v, n⟩ : Offspring Visit)) ++ vs, v.parent < n + 1 := by
  intro v hv
  rcases List.mem_append.1 hv with hv | hv
  · obtain ⟨u, -, rfl⟩ := List.mem_map.1 hv
    exact Nat.lt_succ_self n
  · exact Nat.lt_succ_of_lt (h v hv)

/-- **Below a number the walk puts what was to be put there**, as a whole and in order. -/
theorem below_grow_walk {n parent : Nat} {vs : List (Offspring Visit)}
    (hvs : ∀ v ∈ vs, v.parent < n) (hparent : parent < n) :
    (Offspring.grow .mk n (walk n vs)).below parent =
      (vs.filter (·.parent = parent)).map (·.item.view) := by
  fun_induction walk n vs generalizing parent with
  | case1 => rfl
  | case2 n v vs ih =>
    rw [List.forall_mem_cons] at hvs
    have hnext := parent_lt_succ hvs.2 v.item.below
    have hbelow := ih hnext (Nat.lt_succ_self n)
    have hothers := ih hnext (Nat.lt_succ_of_lt hparent)
    rw [filter_parent_below hvs.2, List.map_map] at hbelow
    rw [filter_parent_of_ne hparent] at hothers
    by_cases h : v.parent = parent
    · subst h
      rw [Offspring.below_grow_cons_self, hbelow, hothers,
        List.filter_cons_of_pos (by simp), List.map_cons, Visit.view_eq]
      rfl
    · rw [Offspring.below_grow_cons_of_ne h, hothers, List.filter_cons_of_neg (by simpa using h)]

/-- **The walk meets a forest from the top.** -/
theorem all_grow_walk {n : Nat} {vs : List (Offspring Visit)} (hvs : ∀ v ∈ vs, v.parent < n) :
    (Offspring.grow .mk n (walk n vs)).all = preorderAll (vs.map (·.item.view)) := by
  fun_induction walk n vs with
  | case1 => rfl
  | case2 n v vs ih =>
    rw [List.forall_mem_cons] at hvs
    have hnext := parent_lt_succ hvs.2 v.item.below
    have hbelow := below_grow_walk hnext (Nat.lt_succ_self n)
    rw [filter_parent_below hvs.2, List.map_map] at hbelow
    rw [Offspring.all_grow_cons, hbelow, ih hnext, List.map_append, preorderAll_append,
      List.map_map, List.map_cons, preorderAll, Visit.view_eq, CommandView.preorder,
      List.cons_append]
    rfl

/-! ### The commands of an application -/

namespace DocumentView

variable (root : Command) (asked : Text) (manualSection : Int)

/-- What waits at first is to be put below the application. -/
theorem parent_lt_one : ∀ v ∈ (visitsBelow root 0 []).map (⟨·, 0⟩ : Visit → Offspring Visit),
    v.parent < 1 := by
  intro v hv
  obtain ⟨u, -, rfl⟩ := List.mem_map.1 hv
  exact Nat.zero_lt_one

theorem map_view_visitsBelow :
    (visitsBelow root 0 []).map Visit.view = root.visibleCommands.map (·.view 0 []) := by
  rw [visitsBelow, List.map_map]
  rfl

/-- **The views of an application's commands** are made by recursion on each of them. -/
theorem commands_ofCommand : (ofCommand root asked manualSection).commands =
    root.visibleCommands.map (·.view 0 []) := by
  rw [← map_view_visitsBelow]
  refine (below_grow_walk (parent_lt_one root) Nat.zero_lt_one).trans ?_
  have hall : ((visitsBelow root 0 []).map (⟨·, 0⟩ : Visit → Offspring Visit)).filter
      (·.parent = 0) = (visitsBelow root 0 []).map (⟨·, 0⟩) := List.filter_eq_self.2 (by simp)
  rw [hall, List.map_map]
  rfl

/-- **All commands are listed from the top.** -/
theorem allCommands_ofCommand : (ofCommand root asked manualSection).allCommands =
    preorderAll (ofCommand root asked manualSection).commands := by
  rw [commands_ofCommand, ← map_view_visitsBelow]
  refine (all_grow_walk (parent_lt_one root)).trans ?_
  rw [List.map_map]
  rfl

end DocumentView

end CommandManual
