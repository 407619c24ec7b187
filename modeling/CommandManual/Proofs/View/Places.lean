import CommandManual.Proofs.View.Listing
import CommandManual.View.Fault

/-!
# Where the listed commands are in the tree

The place of a command in a tree is the way to it: the number of the command to be taken at each
depth, among all commands of that depth, hidden ones included. A document shows the commands at the
places that no hidden command is on the way to. `Command.places` lists these places from the top,
which is their lexicographic order, and the listing of a view goes along this list.

## Main definitions

* `Command.ShowsAt`: there is a command at a place, and nothing on the way to it is hidden.
* `Command.viewAt?`: the view of the command at a place.
* `Command.places`, `placesFrom`: the places that are shown.

## Main results

* `Command.mem_places`, `Command.pairwise_places`: these places are the right ones, each of them
  once.
* `DocumentView.forest_of_build`: the forest and the listing of a view.
-/

namespace CommandManual

/-! ### Places -/

/-- There is a command at a place below a command, and neither it nor one on the way is hidden. -/
def Command.ShowsAt : Command → List Nat → Prop
  | _, [] => True
  | c, i :: p => ∃ d, c.commands[i]? = some d ∧ d.hidden = false ∧ d.ShowsAt p

/-- The view of the command at a place below a command with a full name, where the commands directly
below that one have a depth. -/
def Command.viewAt? : (level : Nat) → (own : Text) → Command → List Nat → Option CommandView
  | _, _, _, [] => none
  | level, own, c, [i] => c.commands[i]?.map (·.view level own)
  | level, own, c, i :: j :: p =>
    c.commands[i]?.bind fun d => viewAt? (level + 1) (fullName own d.name) d (j :: p)

mutual

/-- The places in a tree that are shown, from the top; the tree itself is at the empty one. -/
def Command.places : Command → List (List Nat)
  | .mk _ cs => [] :: placesFrom 0 cs

/-- The places in some trees that are shown. The trees are numbered from `n` on. -/
def placesFrom (n : Nat) : List Command → List (List Nat)
  | [] => []
  | c :: cs =>
    if c.hidden then placesFrom (n + 1) cs else c.places.map (n :: ·) ++ placesFrom (n + 1) cs

end

theorem Command.places_eq_cons (c : Command) : c.places = [] :: placesFrom 0 c.commands := by
  cases c
  rw [places, commands_mk]

theorem placesFrom_cons_of_hidden {c : Command} (h : c.hidden = true) (n : Nat)
    (cs : List Command) : placesFrom n (c :: cs) = placesFrom (n + 1) cs := by
  rw [placesFrom, if_pos h]

theorem placesFrom_cons_of_not_hidden {c : Command} (h : c.hidden = false) (n : Nat)
    (cs : List Command) :
    placesFrom n (c :: cs) = c.places.map (n :: ·) ++ placesFrom (n + 1) cs := by
  rw [placesFrom, if_neg (by simp [h])]

mutual

/-- **A place is listed if and only if it is shown.** -/
theorem Command.mem_places : ∀ {c : Command} {p : List Nat}, p ∈ c.places ↔ c.ShowsAt p
  | .mk d cs, [] => by simp [Command.places, Command.ShowsAt]
  | .mk d cs, i :: p => by
    rw [Command.places_eq_cons, List.mem_cons, Command.commands_mk, mem_placesFrom,
      Command.ShowsAt]
    constructor
    · rintro (h | ⟨j, q, e, hp, he⟩)
      · cases h
      · rw [Nat.zero_add] at hp
        obtain ⟨rfl, rfl⟩ := List.cons.inj hp
        exact ⟨e, he⟩
    · rintro ⟨e, he⟩
      exact .inr ⟨i, p, e, by rw [Nat.zero_add], he⟩

theorem mem_placesFrom : ∀ {cs : List Command} {n : Nat} {p : List Nat}, p ∈ placesFrom n cs ↔
    ∃ i q c, p = (n + i) :: q ∧ cs[i]? = some c ∧ c.hidden = false ∧ c.ShowsAt q
  | [], n, p => by simp [placesFrom]
  | c :: cs, n, p => by
    have hrest : p ∈ placesFrom (n + 1) cs ↔ ∃ i q d, p = (n + (i + 1)) :: q ∧
        (c :: cs)[i + 1]? = some d ∧ d.hidden = false ∧ d.ShowsAt q := by
      rw [@mem_placesFrom cs]
      simp only [List.getElem?_cons_succ, Nat.add_assoc, Nat.add_comm 1]
    cases hc : c.hidden with
    | true =>
      rw [placesFrom_cons_of_hidden hc, hrest]
      constructor
      · rintro ⟨i, h⟩
        exact ⟨i + 1, h⟩
      · rintro ⟨_ | i, q, d, hp, hd, hvisible, hq⟩
        · obtain rfl := Option.some.inj hd
          rw [hc] at hvisible
          cases hvisible
        · exact ⟨i, q, d, hp, hd, hvisible, hq⟩
    | false =>
      rw [placesFrom_cons_of_not_hidden hc, List.mem_append, hrest, List.mem_map]
      constructor
      · rintro (⟨q, hq, rfl⟩ | ⟨i, h⟩)
        · exact ⟨0, q, c, rfl, rfl, hc, Command.mem_places.1 hq⟩
        · exact ⟨i + 1, h⟩
      · rintro ⟨_ | i, q, d, hp, hd, hvisible, hq⟩
        · obtain rfl := Option.some.inj hd
          exact .inl ⟨q, Command.mem_places.2 hq, hp.symm⟩
        · exact .inr ⟨i, q, d, hp, hd, hvisible, hq⟩

end

mutual

/-- **The places are listed in lexicographic order**, so that none is listed twice. -/
theorem Command.pairwise_places : ∀ c : Command, c.places.Pairwise (· < ·)
  | .mk d cs => by
    rw [Command.places, List.pairwise_cons]
    refine ⟨fun p hp => ?_, pairwise_placesFrom 0 cs⟩
    obtain ⟨i, q, -, rfl, -⟩ := mem_placesFrom.1 hp
    exact List.nil_lt_cons ..

theorem pairwise_placesFrom (n : Nat) : ∀ cs : List Command, (placesFrom n cs).Pairwise (· < ·)
  | [] => by simp [placesFrom]
  | c :: cs => by
    cases hc : c.hidden with
    | true =>
      rw [placesFrom_cons_of_hidden hc]
      exact pairwise_placesFrom (n + 1) cs
    | false =>
      rw [placesFrom_cons_of_not_hidden hc, List.pairwise_append]
      refine ⟨?_, pairwise_placesFrom (n + 1) cs, ?_⟩
      · rw [List.pairwise_map]
        exact (Command.pairwise_places c).imp fun h => List.cons_lt_cons_iff.2 (.inr ⟨rfl, h⟩)
      · intro p hp q hq
        obtain ⟨p, -, rfl⟩ := List.mem_map.1 hp
        obtain ⟨i, q, -, rfl, -⟩ := mem_placesFrom.1 hq
        exact List.cons_lt_cons_iff.2 (.inl (by omega))

end

/-! ### The views at the places -/

mutual

/-- Going along the places gives the forest of views from the top. -/
theorem Command.map_viewAt?_places : ∀ (c : Command) (level : Nat) (own : Text),
    (placesFrom 0 c.commands).map (c.viewAt? level own) =
      (preorderAll (viewsAll level own c.commands)).map some
  | .mk d cs, level, own => map_viewAt?_placesFrom cs (.mk d cs) 0 level own fun i => by simp

theorem map_viewAt?_placesFrom : ∀ (cs : List Command) (c : Command) (n level : Nat) (own : Text),
    (∀ i, c.commands[n + i]? = cs[i]?) →
      (placesFrom n cs).map (c.viewAt? level own) =
        (preorderAll (viewsAll level own cs)).map some
  | [], _, _, _, _, _ => by simp [placesFrom, viewsAll, preorderAll]
  | b :: cs, c, n, level, own, h => by
    have hrest := map_viewAt?_placesFrom cs c (n + 1) level own fun i => by
      rw [Nat.add_assoc, Nat.add_comm 1, h, List.getElem?_cons_succ]
    rw [viewsAll]
    cases hb : b.hidden with
    | true => rw [placesFrom_cons_of_hidden hb, hrest, if_pos rfl]
    | false =>
      have hfirst : c.commands[n]? = some b := h 0
      have hbelow : (placesFrom 0 b.commands).map (c.viewAt? level own ∘ (n :: ·)) =
          (placesFrom 0 b.commands).map (b.viewAt? (level + 1) (fullName own b.name)) := by
        refine List.map_congr_left fun p hp => ?_
        obtain ⟨i, q, -, rfl, -⟩ := mem_placesFrom.1 hp
        rw [Function.comp_apply, Command.viewAt?, hfirst, Option.bind_some]
      rw [placesFrom_cons_of_not_hidden hb, if_neg Bool.false_ne_true, List.map_append, hrest,
        preorderAll, List.map_append, Command.places_eq_cons, List.map_cons, List.map_cons,
        List.map_map, hbelow, Command.map_viewAt?_places b, Command.viewAt?, hfirst]
      obtain ⟨d, bs⟩ := b
      rw [Command.view, CommandView.preorder, List.map_cons]
      rfl

end

/-! ### Views that cannot be made -/

mutual

/-- A fault of a tree is one of a flag that is shown. -/
theorem exists_of_viewFault? : ∀ {c : Command} {f : ViewFault} (level : Nat) (parent : Text),
    c.viewFault? = some f →
      ∃ v ∈ c.visits level parent, ∃ g ∈ v.command.details.visibleFlags, g.viewFault? = some f
  | .mk d cs, f, level, parent, h => by
    rw [Command.viewFault?, Option.or_eq_some_iff] at h
    rw [Command.visits]
    rcases h with h | ⟨-, h⟩
    · exact ⟨_, List.mem_cons_self, List.exists_of_findSome?_eq_some h⟩
    · obtain ⟨v, hv, hg⟩ := exists_of_viewFaults? (level + 1) (fullName parent d.name) h
      exact ⟨v, List.mem_cons_of_mem _ hv, hg⟩

theorem exists_of_viewFaults? : ∀ {cs : List Command} {f : ViewFault} (level : Nat) (parent : Text),
    viewFaults? cs = some f →
      ∃ v ∈ visitsAll level parent cs, ∃ g ∈ v.command.details.visibleFlags,
        g.viewFault? = some f
  | [], f, level, parent, h => by simp [viewFaults?] at h
  | c :: cs, f, level, parent, h => by
    rw [viewFaults?] at h
    rw [visitsAll]
    cases hc : c.hidden with
    | true =>
      rw [hc, if_pos rfl] at h
      rw [if_pos rfl]
      exact exists_of_viewFaults? level parent h
    | false =>
      rw [hc, if_neg Bool.false_ne_true, Option.or_eq_some_iff] at h
      rw [if_neg Bool.false_ne_true]
      rcases h with h | ⟨-, h⟩
      · obtain ⟨v, hv, hg⟩ := exists_of_viewFault? level parent h
        exact ⟨v, List.mem_append_left _ hv, hg⟩
      · obtain ⟨v, hv, hg⟩ := exists_of_viewFaults? level parent h
        exact ⟨v, List.mem_append_right _ hv, hg⟩

end

namespace DocumentView

/-- A view cannot be made only because of a flag that it has to show. -/
theorem exists_of_fault? {root : Command} {f : ViewFault} (h : fault? root = some f) :
    ∃ d ∈ root.shownDetails, ∃ g ∈ d.visibleFlags, g.viewFault? = some f := by
  rw [fault?, Option.or_eq_some_iff] at h
  rcases h with h | ⟨-, h⟩
  · obtain ⟨v, hv, hg⟩ := exists_of_viewFaults? 0 [] h
    exact ⟨_, List.mem_cons_of_mem _ (List.mem_map_of_mem hv), hg⟩
  · exact ⟨_, List.mem_cons_self, List.exists_of_findSome?_eq_some h⟩

/-- Without commands only a flag of the application itself can be at fault. -/
theorem fault?_of_visibleFlags {d : CommandDetails} {f : Flag} (h : d.visibleFlags = [f]) :
    fault? (.mk d []) = f.viewFault? := by
  rw [fault?, Command.commands_mk, Command.details_mk, viewFaults?, Option.none_or,
    CommandDetails.viewFault?, h, List.findSome?_cons]
  cases f.viewFault? with
  | none => rfl
  | some g => rfl

/-- **The forest and the listing of a view.** Either a flag that has to be shown cannot be, or the
view of an application has its commands as recursion on the tree makes them: the visible ones
directly below it, each with those below, a depth of zero and a full name of its own at the top. All
commands are that forest from the top, each with what is below it. And they are the commands at the
places of the tree that nothing hidden is on the way to, in the order of these places: each of them
once, and no others. -/
theorem forest_of_build (root : Command) (asked : Text) (manualSection : Int) :
    (∃ f, build root asked manualSection = .error f ∧
      ∃ d ∈ root.shownDetails, ∃ g ∈ d.visibleFlags, g.viewFault? = some f) ∨
    ∃ v, build root asked manualSection = .ok v ∧
      v.commands = root.visibleCommands.map (·.view 0 []) ∧
      v.allCommands = preorderAll v.commands ∧
      ∃ places : List (List Nat), places.Pairwise (· < ·) ∧
        (∀ p, p ∈ places ↔ p ≠ [] ∧ root.ShowsAt p) ∧
        places.map (root.viewAt? 0 []) = v.allCommands.map some := by
  unfold build
  cases hfault : fault? root with
  | some f => exact .inl ⟨f, rfl, exists_of_fault? hfault⟩
  | none =>
    have hplaces := root.places_eq_cons
    have hsorted := root.pairwise_places
    rw [hplaces, List.pairwise_cons] at hsorted
    refine .inr ⟨_, rfl, commands_ofCommand .., allCommands_ofCommand ..,
      placesFrom 0 root.commands, hsorted.2, fun p => ?_, ?_⟩
    · rw [← Command.mem_places, hplaces, List.mem_cons]
      constructor
      · exact fun hp => ⟨by rintro rfl; exact absurd (hsorted.1 [] hp) (by simp), .inr hp⟩
      · exact fun ⟨hne, hp⟩ => hp.resolve_left hne
    · rw [root.map_viewAt?_places, allCommands_ofCommand, commands_ofCommand, viewsAll_eq_map]
      rfl

end DocumentView

end CommandManual
