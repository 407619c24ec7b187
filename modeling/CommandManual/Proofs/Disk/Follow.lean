import CommandManual.Disk.Access
import CommandManual.Proofs.Outcome
import CommandManual.Workspace.Basic

/-!
# Where paths lead

A path may lead through links and back up, but the place that it reaches is reached again by the
plain path of its names: on the way to it there are only directories. This file says so
(`settled_of_locate`) and gives the one lemma by which every operation at such a place is then
computed (`Settled.locate`).

## Main definitions

* `Disk.IsOpen`: a place and all places on the way to it are directories.
* `Disk.Settled`: a place that is reached by the path of its names.
* `Disk.KeepsDirectories`: every directory of a disk is one of another disk.

## Main results

* `Disk.follow_spec`: where following a path ends.
* `Disk.Settled.locate`, `Disk.settled_of_locate`: a settled place is found, and what is found is
  settled.
* `Disk.Settled.mono`: a place stays settled as long as the directories stay.

## Implementation notes

Whether the name of a place is short enough, and its path, does not depend on the disk. These two
conditions are fields of `Settled`, so that a later change of the disk does not bring them up again.
-/

namespace CommandManual

namespace Disk

open Workspace (pathOf)

/-- A name that leads down: not the one for the way back up, and not too long. -/
def IsProper (n : Text) : Prop := n ≠ ['.', '.'] ∧ (Utf8.encode n).length ≤ maxNameBytes

/-- A place and all places on the way to it are directories. -/
inductive IsOpen (d : Disk) : Location → Prop
  | root : IsOpen d []
  | child {l : Location} {n : Text} {m : Nat} (above : IsOpen d l) (proper : IsProper n)
      (directory : d.node? (l ++ [n]) = some (.directory m)) : IsOpen d (l ++ [n])

variable {d e : Disk} {l here : Location} {n : Text}

theorem IsOpen.dropLast (h : IsOpen d l) : IsOpen d l.dropLast := by
  cases h with
  | root => exact .root
  | child above _ _ => simpa using above

theorem IsOpen.proper (h : IsOpen d l) : ∀ n ∈ l.getLast?, IsProper n := by
  cases h with
  | root => simp
  | child _ proper _ => simpa using proper

theorem IsOpen.directory (h : IsOpen d l) : ∃ m, d.node? l = some (.directory m) := by
  cases h with
  | root => exact ⟨Node.directoryMode, rfl⟩
  | child _ _ directory => exact ⟨_, directory⟩

/-! ### Following -/

/-- Following a proper name looks at what is in its place. -/
theorem follow_cons (throughLast : Bool) (links : Nat) (hn : IsProper n) (ns : List Text) :
    d.follow throughLast links here (n :: ns) =
      match d.node? (here ++ [n]) with
      | none => if ns.isEmpty then .ok (here ++ [n]) else .error .notFound
      | some (.file ..) => if ns.isEmpty then .ok (here ++ [n]) else .error .notDirectory
      | some (.directory _) => d.follow throughLast links (here ++ [n]) ns
      | some (.link target) =>
        if ns.isEmpty && !throughLast then .ok (here ++ [n])
        else match links with
          | 0 => .error .loop
          | links + 1 =>
            let p := Path.ofText target
            d.follow throughLast links (if p.isAbsolute then [] else here) (p.names ++ ns) := by
  rw [follow.eq_def]
  exact (if_neg hn.1).trans (if_neg (Nat.not_lt.2 hn.2))

theorem follow_nil (throughLast : Bool) (links : Nat) :
    d.follow throughLast links here [] = .ok here := by
  rw [follow]

/-- The way to an open place is its names. -/
theorem IsOpen.follow_append (h : IsOpen d l) (throughLast : Bool) (links : Nat) (ns : List Text) :
    d.follow throughLast links [] (l ++ ns) = d.follow throughLast links l ns := by
  induction h generalizing ns with
  | root => rfl
  | child above proper directory ih =>
    rw [List.append_assoc, ih, List.singleton_append, follow_cons throughLast links proper,
      directory]

/-- What is known of the place that a path leads to: the way to it, its name, and that it is no
link if links are followed. -/
structure Reached (d : Disk) (throughLast : Bool) (l : Location) : Prop where
  above : IsOpen d l.dropLast
  proper : ∀ n ∈ l.getLast?, IsProper n
  not_link : throughLast = true → ∀ t, d.node? l ≠ some (.link t)

theorem IsOpen.reached (h : IsOpen d l) (throughLast : Bool) : Reached d throughLast l where
  above := h.dropLast
  proper := h.proper
  not_link := by
    intro _ t ht
    obtain ⟨m, hm⟩ := h.directory
    rw [hm] at ht
    cases ht

/-- A place next to the end of an open way. -/
theorem reached_append (h : IsOpen d here) (hn : IsProper n) {throughLast : Bool}
    (hlink : throughLast = true → ∀ t, d.node? (here ++ [n]) ≠ some (.link t)) :
    Reached d throughLast (here ++ [n]) where
  above := by simpa using h
  proper := by simpa using hn
  not_link := hlink

/-- **Where following ends.** The induction is on the links that are left and then on the names;
what it keeps is that the place reached so far is open. -/
theorem follow_spec {throughLast : Bool} {links : Nat} {names : List Text} (h : IsOpen d here)
    (hf : d.follow throughLast links here names = .ok l) : Reached d throughLast l := by
  fun_induction follow d throughLast links here names with
  | case1 links here =>
    obtain rfl := Except.ok.inj hf
    exact h.reached throughLast
  | case2 links here ns ih => exact ih h.dropLast hf
  | case3 => cases hf
  | case4 links here n ns hdots hlong hnone hlast =>
    obtain rfl := Except.ok.inj hf
    refine reached_append h ⟨hdots, Nat.le_of_not_lt hlong⟩ fun _ t => ?_
    rw [hnone]
    simp
  | case5 => cases hf
  | case6 links here n ns hdots hlong bytes mode hfile hlast =>
    obtain rfl := Except.ok.inj hf
    refine reached_append h ⟨hdots, Nat.le_of_not_lt hlong⟩ fun _ t => ?_
    rw [hfile]
    simp
  | case7 => cases hf
  | case8 links here n ns hdots hlong mode hdir ih =>
    exact ih (.child h ⟨hdots, Nat.le_of_not_lt hlong⟩ hdir) hf
  | case9 links here n ns hdots hlong target hlink hlast =>
    obtain rfl := Except.ok.inj hf
    refine reached_append h ⟨hdots, Nat.le_of_not_lt hlong⟩ fun hthrough => ?_
    rw [hthrough] at hlast
    simp at hlast
  | case10 => cases hf
  | case11 here n ns hdots hlong target hlink hlast links p ih =>
    refine ih ?_ hf
    split
    · exact .root
    · exact h

theorem locate_eq_ok_iff {p : Path} {throughLast : Bool} :
    d.locate here p throughLast = .ok l ↔ unusable? p.text = none ∧
      d.follow throughLast maxLinks (if p.isAbsolute then [] else here) p.names = .ok l := by
  unfold locate
  cases unusable? p.text with
  | none => simp only [Except.mapError_eq_ok_iff, true_and]
  | some r => simp

/-- Where a path from the root leads. -/
theorem reached_of_locate {p : Path} {throughLast : Bool} (hp : p.isAbsolute = true)
    (h : d.locate here p throughLast = .ok l) : Reached d throughLast l := by
  obtain ⟨-, hf⟩ := locate_eq_ok_iff.1 h
  rw [if_pos hp] at hf
  exact follow_spec .root hf

/-- Where a path leads from an open place. -/
theorem IsOpen.reached_of_locate {p : Path} {throughLast : Bool} (hopen : IsOpen d here)
    (h : d.locate here p throughLast = .ok l) : Reached d throughLast l := by
  obtain ⟨-, hf⟩ := locate_eq_ok_iff.1 h
  refine follow_spec ?_ hf
  split
  · exact .root
  · exact hopen

/-! ### Places that are reached by their names -/

/-- A place that is reached by the path of its names. -/
structure Settled (d : Disk) (l : Location) : Prop where
  above : IsOpen d l.dropLast
  proper : ∀ n ∈ l.getLast?, IsProper n
  usable : unusable? (pathOf l).text = none

/-- The names of a place lead there, unless there is a link to be followed. -/
theorem IsOpen.follow_names (h : IsOpen d l.dropLast) (hn : ∀ n ∈ l.getLast?, IsProper n)
    {throughLast : Bool} (links : Nat)
    (hlink : throughLast = true → ∀ t, d.node? l ≠ some (.link t)) :
    d.follow throughLast links [] l = .ok l := by
  rcases List.eq_nil_or_concat l with rfl | ⟨k, n, rfl⟩
  · exact follow_nil throughLast links
  · rw [List.concat_eq_append] at h hn hlink ⊢
    rw [List.dropLast_concat] at h
    rw [h.follow_append, follow_cons throughLast links (hn n (by simp))]
    cases hnode : d.node? (k ++ [n]) with
    | none => rfl
    | some node =>
      cases node with
      | file bytes mode => rfl
      | directory mode => exact follow_nil throughLast links
      | link target =>
        cases throughLast with
        | false => rfl
        | true => exact absurd hnode (hlink rfl target)

/-- **A settled place is found.** -/
theorem Settled.locate (h : Settled d l) (here : Location) {throughLast : Bool}
    (hlink : throughLast = true → ∀ t, d.node? l ≠ some (.link t)) :
    d.locate here (pathOf l) throughLast = .ok l :=
  locate_eq_ok_iff.2 ⟨h.usable, h.above.follow_names h.proper maxLinks hlink⟩

/-- **A place that is found by its names is settled**, if the way to it is open. -/
theorem settled_of_locate {k : Location} (above : IsOpen d l.dropLast)
    (hdots : ∀ n ∈ l.getLast?, n ≠ ['.', '.']) {throughLast : Bool}
    (hlink : throughLast = true → ∀ t, d.node? l ≠ some (.link t))
    (h : d.locate here (pathOf l) throughLast = .ok k) : k = l ∧ Settled d l := by
  obtain ⟨usable, hf⟩ := locate_eq_ok_iff.1 h
  have proper : ∀ n ∈ l.getLast?, IsProper n := by
    intro n hn
    refine ⟨hdots n hn, Nat.le_of_not_lt fun hlong => ?_⟩
    obtain ⟨j, rfl⟩ := List.getLast?_eq_some_iff.1 hn
    rw [List.dropLast_concat] at above
    change d.follow throughLast maxLinks [] (j ++ [n]) = .ok k at hf
    rw [above.follow_append, follow, if_neg (hdots n hn), if_pos hlong] at hf
    cases hf
  have settled : Settled d l := ⟨above, proper, usable⟩
  rw [settled.locate here hlink] at h
  exact ⟨(Except.ok.inj h).symm, settled⟩

/-! ### Changes that leave the directories alone -/

/-- Every directory of a disk is one of another disk. -/
def KeepsDirectories (d e : Disk) : Prop :=
  ∀ l m, d.node? l = some (.directory m) → ∃ m', e.node? l = some (.directory m')

theorem IsOpen.mono (h : IsOpen d l) (hk : KeepsDirectories d e) : IsOpen e l := by
  induction h with
  | root => exact .root
  | child above proper directory ih =>
    obtain ⟨m', hm'⟩ := hk _ _ directory
    exact .child ih proper hm'

/-- **A place stays settled** as long as the directories stay. -/
theorem Settled.mono (h : Settled d l) (hk : KeepsDirectories d e) : Settled e l :=
  ⟨h.above.mono hk, h.proper, h.usable⟩

/-- The directories stay if the only places that change are none. -/
theorem keepsDirectories_of_forall
    (h : ∀ l, e.node? l ≠ d.node? l → ∀ m, d.node? l ≠ some (.directory m)) :
    KeepsDirectories d e := by
  intro l m hm
  by_cases he : e.node? l = d.node? l
  · exact ⟨m, he.trans hm⟩
  · exact absurd hm (h l he m)

end Disk

end CommandManual
