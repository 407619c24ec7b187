import CommandManual.Proofs.Disk.Follow
import Mathlib.Algebra.GroupWithZero.Nat

/-!
# Ways that meet no link

A path that leads through directories only, down and back up, leads to the same place as long as the
directories stay. What becomes of the place at its end does not matter, and neither do the links
that are made elsewhere. The path of the place itself is no longer than such a path, because every
way back up takes a name away.

## Main definitions

* `Disk.IsPlain`: a path that meets no link.
* `Disk.Way`: names that lead from a place to a directory through directories only.
* `Disk.Leads`: a path from the root that leads to a place in this way.

## Main results

* `Disk.Leads.locate`, `Disk.Leads.mono`: where such a path leads, now and later.
* `Disk.Leads.settled`: the place is reached by the path of its names.
* `Disk.Leads.of_isPlain`: a path that meets no link leads in this way.
* `Disk.Leads.withName`, `Disk.Leads.withName_of_isProper`: paths beside such a path.
-/

namespace CommandManual

namespace Disk

open Workspace (pathOf)

variable {d e : Disk} {here k l : Location} {n : Text} {ns : List Text}

/-- Following the path meets no link, not even at its end. -/
def IsPlain (d : Disk) (here : Location) (p : Path) : Prop :=
  d.follow true 0 (if p.isAbsolute then [] else here) p.names ≠ .error .loop

/-- Names that lead from a place to a directory through directories only, down and back up. -/
inductive Way (d : Disk) : Location → List Text → Location → Prop
  | stay (l : Location) : Way d l [] l
  | up {l k : Location} {ns : List Text} (rest : Way d l.dropLast ns k) :
      Way d l (['.', '.'] :: ns) k
  | down {l k : Location} {n : Text} {m : Nat} {ns : List Text} (proper : IsProper n)
      (directory : d.node? (l ++ [n]) = some (.directory m)) (rest : Way d (l ++ [n]) ns k) :
      Way d l (n :: ns) k

namespace Way

/-- A way is followed, whatever comes behind it. -/
theorem follow_append (h : Way d l ns k) (throughLast : Bool) (links : Nat) (ms : List Text) :
    d.follow throughLast links l (ns ++ ms) = d.follow throughLast links k ms := by
  induction h with
  | stay l => rfl
  | up rest ih => rw [List.cons_append, follow, if_pos rfl, ih]
  | down proper directory rest ih =>
    rw [List.cons_append, follow_cons throughLast links proper, directory]
    exact ih

/-- A way stays as long as the directories stay. -/
theorem mono (h : Way d l ns k) (hk : KeepsDirectories d e) : Way e l ns k := by
  induction h with
  | stay l => exact .stay l
  | up rest ih => exact .up ih
  | down proper directory rest ih =>
    obtain ⟨m', hm'⟩ := hk _ _ directory
    exact .down proper hm' ih

/-- A way from an open place leads to one. -/
theorem isOpen (h : Way d l ns k) (hl : IsOpen d l) : IsOpen d k := by
  induction h with
  | stay l => exact hl
  | up rest ih => exact ih hl.dropLast
  | down proper directory rest ih => exact ih (.child hl proper directory)

end Way

/-! ### Paths that meet no link -/

/-- What is followed without meeting a link does not depend on how links are followed. -/
theorem follow_eq_of_ne_loop (h : d.follow true 0 here ns ≠ .error .loop) (throughLast : Bool)
    (links : Nat) : d.follow throughLast links here ns = d.follow true 0 here ns := by
  induction ns generalizing here with
  | nil => rw [follow_nil, follow_nil]
  | cons n ns ih =>
    by_cases hdots : n = ['.', '.']
    · rw [follow, if_pos hdots] at h
      rw [follow, if_pos hdots, ih h, follow, if_pos hdots]
    by_cases hlong : maxNameBytes < (Utf8.encode n).length
    · rw [follow, if_neg hdots, if_pos hlong, follow, if_neg hdots, if_pos hlong]
    have hn : IsProper n := ⟨hdots, Nat.le_of_not_lt hlong⟩
    rw [follow_cons true 0 hn] at h
    rw [follow_cons throughLast links hn, follow_cons true 0 hn]
    cases hnode : d.node? (here ++ [n]) with
    | none => rfl
    | some node =>
      rw [hnode] at h
      cases node with
      | file bytes mode => rfl
      | directory mode => exact ih h
      | link target =>
        have hloop : (ns.isEmpty && !true) = false := Bool.and_false _
        simp only [hloop] at h
        exact absurd rfl h

/-- **A path that meets no link** leads through directories only, up to its last name. -/
theorem exists_way_of_follow (hn : n ≠ ['.', '.'])
    (h : d.follow true 0 here (ns ++ [n]) = .ok l) :
    ∃ k, Way d here ns k ∧ IsProper n ∧ l = k ++ [n] := by
  induction ns generalizing here with
  | nil =>
    rw [List.nil_append, follow, if_neg hn] at h
    split at h
    · cases h
    · next hlong =>
      refine ⟨here, .stay here, ⟨hn, Nat.le_of_not_lt hlong⟩, ?_⟩
      split at h
      · exact (Except.ok.inj h).symm
      · exact (Except.ok.inj h).symm
      · rw [follow_nil] at h
        exact (Except.ok.inj h).symm
      · cases h
  | cons m ns ih =>
    rw [List.cons_append, follow] at h
    split at h
    · next hm =>
      obtain ⟨k, hway, hproper, hl⟩ := ih h
      exact ⟨k, hm ▸ .up hway, hproper, hl⟩
    · next hm =>
      have hmore : (ns ++ [n]).isEmpty = false := by simp
      split at h
      · cases h
      · next hlong =>
        rw [hmore] at h
        split at h
        · cases h
        · cases h
        · next hdir =>
          obtain ⟨k, hway, hproper, hl⟩ := ih h
          exact ⟨k, .down ⟨hm, Nat.le_of_not_lt hlong⟩ hdir hway, hproper, hl⟩
        · cases h

/-! ### The length of a path -/

/-- The text of a path from the root. -/
theorem text_pathOf (h : l ≠ []) : (pathOf l).text = l.flatMap ('/' :: ·) := by
  have hjoin : ∀ (n : Text) (ns : List Text),
      '/' :: ['/'].intercalate (n :: ns) = (n :: ns).flatMap ('/' :: ·) := by
    intro n ns
    induction ns generalizing n with
    | nil => simp
    | cons m ns ih =>
      rw [List.flatMap_cons, ← ih m]
      simp [List.intercalate]
  cases l with
  | nil => exact absurd rfl h
  | cons n ns => exact hjoin n ns

/-- The number of bytes in the path of some names from the root. -/
def pathBytes (ns : List Text) : Nat := (ns.map fun n => (Utf8.encode n).length + 1).sum

theorem pathBytes_append (ns ms : List Text) :
    pathBytes (ns ++ ms) = pathBytes ns + pathBytes ms := by
  rw [pathBytes, List.map_append, List.sum_append, pathBytes, pathBytes]

theorem length_encode_flatMap (ns : List Text) :
    (Utf8.encode (ns.flatMap ('/' :: ·))).length = pathBytes ns := by
  induction ns with
  | nil => rfl
  | cons n ns ih =>
    have hslash : (Utf8.encode ('/' :: n)).length = (Utf8.encode n).length + 1 := by
      rw [← List.singleton_append, Utf8.encode_append, List.length_append, Nat.add_comm]
      rfl
    rw [List.flatMap_cons, Utf8.encode_append, List.length_append, ih, hslash, pathBytes, pathBytes,
      List.map_cons, List.sum_cons]

/-- A path from the root can be used if it is short enough and has no null character. -/
theorem usable_pathOf_iff (h : l ≠ []) : unusable? (pathOf l).text = none ↔
    (∀ n ∈ l, '\x00' ∉ n) ∧ pathBytes l ≤ maxPathBytes := by
  have hnull : (pathOf l).text.contains '\x00' = true ↔ ∃ n ∈ l, '\x00' ∈ n := by
    simp [text_pathOf h]
  rw [unusable?]
  by_cases hn : ∃ n ∈ l, '\x00' ∈ n
  · rw [if_pos (hnull.2 hn)]
    simp only [reduceCtorEq, false_iff, not_and]
    intro hall
    obtain ⟨n, hl, hmem⟩ := hn
    exact absurd hmem (hall n hl)
  · rw [if_neg (fun hc => hn (hnull.1 hc)), text_pathOf h, length_encode_flatMap]
    have hall : ∀ n ∈ l, '\x00' ∉ n := fun n hl hmem => hn ⟨n, hl, hmem⟩
    by_cases hlong : maxPathBytes < pathBytes l
    · rw [if_pos hlong]
      simp [Nat.not_le.2 hlong]
    · rw [if_neg hlong]
      exact ⟨fun _ => ⟨hall, Nat.le_of_not_lt hlong⟩, fun _ => rfl⟩

theorem pathBytes_dropLast_le (l : Location) : pathBytes l.dropLast ≤ pathBytes l := by
  rcases List.eq_nil_or_concat l with rfl | ⟨k, n, rfl⟩
  · exact Nat.le_refl _
  · rw [List.concat_eq_append, List.dropLast_concat, pathBytes_append]
    exact Nat.le_add_right _ _

/-- The place that a way leads to has its names from the start of the way or from the way, and no
more of them. -/
theorem Way.names (h : Way d l ns k) :
    (∀ n ∈ k, n ∈ l ∨ n ∈ ns) ∧ pathBytes k ≤ pathBytes l + pathBytes ns := by
  induction h with
  | stay l => exact ⟨fun n hn => .inl hn, Nat.le_add_right _ _⟩
  | @up l k ns rest ih =>
    refine ⟨fun n hn => ?_, ?_⟩
    · rcases ih.1 n hn with h | h
      · exact .inl ((List.dropLast_subset _) h)
      · exact .inr (List.mem_cons_of_mem _ h)
    · have hdrop := pathBytes_dropLast_le l
      have hns : pathBytes ns ≤ pathBytes (['.', '.'] :: ns) := by
        rw [← List.singleton_append, pathBytes_append]
        exact Nat.le_add_left _ _
      have hk := ih.2
      omega
  | @down l k n m ns proper directory rest ih =>
    refine ⟨fun n' hn => ?_, ?_⟩
    · rcases ih.1 n' hn with h | h
      · rcases List.mem_append.1 h with h | h
        · exact .inl h
        · exact .inr (List.mem_singleton.1 h ▸ List.mem_cons_self)
      · exact .inr (List.mem_cons_of_mem _ h)
    · have hk := ih.2
      rw [pathBytes_append] at hk
      rw [← List.singleton_append, pathBytes_append]
      omega

/-! ### Paths that lead to a place -/

/-- A path from the root that leads to a place through directories only, up to its last name. -/
inductive Leads (d : Disk) : Path → Location → Prop
  | mk {ns : List Text} {n : Text} {k : Location} (way : Way d [] ns k) (proper : IsProper n)
      (usable : unusable? (pathOf (ns ++ [n])).text = none) :
      Leads d (pathOf (ns ++ [n])) (k ++ [n])

namespace Leads

variable {p : Path}

/-- The path leads to the place, unless there is a link to be followed. -/
theorem locate (h : Leads d p l) (here : Location) {throughLast : Bool}
    (hlink : throughLast = true → ∀ t, d.node? l ≠ some (.link t)) :
    d.locate here p throughLast = .ok l := by
  obtain @⟨ns, n, k, way, proper, usable⟩ := h
  refine locate_eq_ok_iff.2 ⟨usable, ?_⟩
  refine (way.follow_append throughLast maxLinks [n]).trans ?_
  rw [follow_cons throughLast maxLinks proper]
  cases hnode : d.node? (k ++ [n]) with
  | none => rfl
  | some node =>
    cases node with
    | file bytes mode => rfl
    | directory mode => exact follow_nil throughLast maxLinks
    | link target =>
      cases throughLast with
      | false => rfl
      | true => exact absurd hnode (hlink rfl target)

/-- It leads there as long as the directories stay. -/
theorem mono (h : Leads d p l) (hk : KeepsDirectories d e) : Leads e p l := by
  obtain ⟨way, proper, usable⟩ := h
  exact .mk (way.mono hk) proper usable

/-- The place is reached by the path of its names, which is not longer. -/
theorem settled (h : Leads d p l) : Settled d l := by
  obtain @⟨ns, n, k, way, proper, usable⟩ := h
  have hne (j : List Text) : j ++ [n] ≠ [] := by simp
  rw [usable_pathOf_iff (hne ns)] at usable
  obtain ⟨hmem, hbytes⟩ := way.names
  refine ⟨?_, ?_, (usable_pathOf_iff (hne k)).2 ⟨fun m hm => ?_, ?_⟩⟩
  · rw [List.dropLast_concat]
    exact way.isOpen .root
  · intro m hm
    rw [List.getLast?_concat, Option.mem_some_iff] at hm
    exact hm ▸ proper
  · rcases List.mem_append.1 hm with hm | hm
    · rcases hmem m hm with h | h
      · cases h
      · exact usable.1 m (List.mem_append_left _ h)
    · exact usable.1 m (List.mem_append_right _ hm)
  · have hnil : pathBytes [] = 0 := rfl
    have hshort := usable.2
    rw [pathBytes_append] at hshort ⊢
    omega

/-- A path that leads to a place and meets no link leads there in this way, if its last name is not
the one for the way back up. -/
theorem of_isPlain {here : Location} (hroot : p.root = ['/']) (hnames : p.names ≠ [])
    (hdots : p.name ≠ ['.', '.']) (plain : IsPlain d here p) (hl : d.locate here p = .ok l) :
    Leads d p l := by
  obtain ⟨root, names⟩ := p
  obtain rfl : root = ['/'] := hroot
  rcases List.eq_nil_or_concat names with rfl | ⟨ns, n, rfl⟩
  · exact absurd rfl hnames
  rw [List.concat_eq_append] at plain hl hdots ⊢
  obtain ⟨usable, hf⟩ := locate_eq_ok_iff.1 hl
  have hname : n ≠ ['.', '.'] := by simpa [Path.name] using hdots
  obtain ⟨k, way, proper, rfl⟩ :=
    exists_way_of_follow hname ((follow_eq_of_ne_loop plain true maxLinks).symm.trans hf)
  exact .mk way proper usable

/-- What is found beside the place is led to in this way too. -/
theorem withName {here j : Location} {throughLast : Bool} (h : Leads d p l) (hn : n ≠ ['.', '.'])
    (hj : d.locate here (p.withName n) throughLast = .ok j) :
    Leads d (p.withName n) (l.dropLast ++ [n]) := by
  obtain @⟨ns, m, k, way, proper, usable⟩ := h
  have hbeside : (pathOf (ns ++ [m])).withName n = pathOf (ns ++ [n]) := by
    simp [Path.withName, pathOf]
  rw [hbeside] at hj
  rw [hbeside, List.dropLast_concat]
  obtain ⟨usable', hf⟩ := locate_eq_ok_iff.1 hj
  refine .mk way ⟨hn, Nat.le_of_not_lt fun hlong => ?_⟩ usable'
  have hstuck := (way.follow_append throughLast maxLinks [n]).symm.trans hf
  rw [follow, if_neg hn, if_pos hlong] at hstuck
  cases hstuck

/-- A path beside it leads beside the place, if it can be used. -/
theorem withName_of_isProper (h : Leads d p l) (hn : IsProper n)
    (usable : unusable? (p.withName n).text = none) :
    Leads d (p.withName n) (l.dropLast ++ [n]) := by
  obtain @⟨ns, m, k, way, -, -⟩ := h
  have hbeside : (pathOf (ns ++ [m])).withName n = pathOf (ns ++ [n]) := by
    simp [Path.withName, pathOf]
  rw [hbeside] at usable ⊢
  rw [List.dropLast_concat]
  exact .mk way hn usable

/-- The path and the place have the same last name, so that neither is empty. -/
theorem name_eq (h : Leads d p l) : p.name = (pathOf l).name ∧ p.names ≠ [] ∧ l ≠ [] := by
  obtain @⟨ns, n, k, -, -, -⟩ := h
  simp [Path.name, pathOf]

/-- It leads to no other place. -/
theorem unique (h : Leads d p k) (h' : Leads d p l) : k = l := by
  have hk : d.locate [] p false = .ok k := h.locate [] Bool.noConfusion
  exact Except.ok.inj (hk.symm.trans (h'.locate [] Bool.noConfusion))

end Leads

end Disk

end CommandManual
