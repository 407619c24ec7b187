/-!
# Trees as lists of offspring

A tree that is made one node at a time can be written down as it is made: the nodes are numbered
in their order, and each has the number of its parent with it. What has a common parent need not
stand together, and it is in order below its parent all the same.

## Main definitions

* `Offspring`: a node with the number of its parent.
* `Offspring.Grown`: the trees of a list of nodes. `Offspring.grow` puts them together.

## Main results

* `below_grow_cons_self`, `below_grow_cons_of_ne`, `all_grow_cons`: what one node in front adds.
* `below_grow_map_append`: what several nodes with one parent add below it.

## Implementation notes

A node is made before everything below it, so the trees are put together from the last node on: when
a node is reached, all that is below it is there.
-/

namespace CommandManual

/-- A node that is made, with the number of its parent. -/
structure Offspring (α : Type) where
  item : α
  parent : Nat

namespace Offspring

/-- The trees of a list of nodes. -/
structure Grown (β : Type) where
  /-- Every node in its order, with all that is below it. -/
  all : List β
  /-- The trees directly below the node with a number. -/
  below : Nat → List β

variable {α β : Type}

/-- The trees of a list that is numbered from `n` on. -/
def grow (node : α → List β → β) (n : Nat) : List (Offspring α) → Grown β
  | [] => ⟨[], fun _ => []⟩
  | o :: os =>
    let behind := grow node (n + 1) os
    let tree := node o.item (behind.below n)
    ⟨tree :: behind.all, fun p => if o.parent = p then tree :: behind.below p else behind.below p⟩

variable {node : α → List β → β}

theorem all_grow_cons (a : α) (parent n : Nat) (os : List (Offspring α)) :
    (grow node n (⟨a, parent⟩ :: os)).all =
      node a ((grow node (n + 1) os).below n) :: (grow node (n + 1) os).all := rfl

theorem below_grow_cons_self (a : α) (parent n : Nat) (os : List (Offspring α)) :
    (grow node n (⟨a, parent⟩ :: os)).below parent =
      node a ((grow node (n + 1) os).below n) :: (grow node (n + 1) os).below parent :=
  if_pos rfl

theorem below_grow_cons_of_ne {parent other : Nat} (h : other ≠ parent) (a : α) (n : Nat)
    (os : List (Offspring α)) :
    (grow node n (⟨a, other⟩ :: os)).below parent = (grow node (n + 1) os).below parent :=
  if_neg h

/-- Nodes with other parents are passed over. -/
theorem below_grow_append_of_forall_ne {parent : Nat} {os : List (Offspring α)}
    (h : ∀ o ∈ os, o.parent ≠ parent) (n : Nat) (os' : List (Offspring α)) :
    (grow node n (os ++ os')).below parent = (grow node (n + os.length) os').below parent := by
  induction os generalizing n with
  | nil => rfl
  | cons o os ih =>
    obtain ⟨a, other⟩ := o
    rw [List.forall_mem_cons] at h
    rw [List.cons_append, below_grow_cons_of_ne h.1, ih h.2, List.length_cons, Nat.add_assoc,
      Nat.add_comm 1]

/-- Nodes with one parent stand below it in their order. -/
theorem below_grow_map_append {parent n : Nat} (h : parent < n) (as : List α)
    (os : List (Offspring α)) :
    (grow node n (as.map (⟨·, parent⟩) ++ os)).below parent =
      ((as.zipIdx n).map fun (a, i) => node a ((grow node (n + as.length) os).below i)) ++
        (grow node (n + as.length) os).below parent := by
  induction as generalizing n with
  | nil => rfl
  | cons a as ih =>
    have hpassed : ∀ o ∈ as.map (⟨·, parent⟩ : α → Offspring α), o.parent ≠ n := by
      simpa using fun _ _ => Nat.ne_of_lt h
    rw [List.map_cons, List.cons_append, below_grow_cons_self, ih (Nat.lt_succ_of_lt h),
      below_grow_append_of_forall_ne hpassed, List.length_map, List.zipIdx_cons, List.map_cons,
      List.length_cons, Nat.add_assoc, Nat.add_comm 1, List.cons_append]

/-- Every node has its tree. -/
theorem map_all_grow {γ : Type} {f : β → γ} {g : α → γ} (h : ∀ a bs, f (node a bs) = g a) (n : Nat)
    (os : List (Offspring α)) : (grow node n os).all.map f = os.map fun o => g o.item := by
  induction os generalizing n with
  | nil => rfl
  | cons o os ih => rw [all_grow_cons, List.map_cons, List.map_cons, h, ih]

end Offspring

end CommandManual
