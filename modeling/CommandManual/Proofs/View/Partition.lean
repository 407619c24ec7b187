import CommandManual.Proofs.View.Places
import Mathlib.Data.List.Nodup

/-!
# Grouping is a stable partition

What grouping does to the visible flags of a command can be said without labels that are met one
after the other: no two groups have the same category and none is empty, the flags without a
category come first, and the other groups stand in the order of the first flag of each. This leaves
no choice (`IsGrouping.unique`). In a row the flags of the groups are the visible flags again, and
among those of one category none overtakes another.

## Main definitions

* `firstPlace`: where a category is first met among some flags.
* `IsGrouping`: what is to be said about the groups of some flags.
* `IsStableOrder`: flags in another order, in which those of one category keep theirs.

## Main results

* `isGrouping_groupFlags`, `isStableOrder_inGroups`: the groups of the visible flags.
* `IsGrouping.unique`: no other groups are possible.
* `DocumentView.groups_of_build`: the groups of an application and of its commands.
-/

namespace CommandManual

variable {fs : List Flag} {f : Flag}

/-- The place where a category is first met among some flags. -/
def firstPlace (fs : List Flag) (label : Text) : Nat := (fs.map (·.category)).idxOf label

/-- The groups of some flags. -/
structure IsGrouping (fs : List Flag) (gs : List FlagGroup) : Prop where
  distinct : (gs.map (·.category)).Nodup
  /-- The group without a category is the first, and the others are in the order of their first
  flags. -/
  ordered : gs.Pairwise fun g h => h.category ≠ [] ∧
    (g.category = [] ∨ firstPlace fs g.category < firstPlace fs h.category)
  nonempty : ∀ g ∈ gs, g.flags ≠ []
  flags : ∀ g ∈ gs, g.flags = (fs.filter (·.category = g.category)).map FlagView.ofFlag
  complete : ∀ f ∈ fs, ∃ g ∈ gs, g.category = f.category

/-- The same flags in another order, in which those of one category keep theirs. -/
structure IsStableOrder (fs fs' : List Flag) : Prop where
  perm : fs'.Perm fs
  stable : ∀ label, fs'.filter (·.category = label) = fs.filter (·.category = label)

/-! ### The order of the labels -/

/-- Leaving items out changes the places of the others, but not their order. -/
theorem idxOf_lt_of_filter {α : Type} [BEq α] [LawfulBEq α] {p : α → Bool} {l : List α} {a b : α}
    (hb : p b = true) (h : (l.filter p).idxOf a < (l.filter p).idxOf b) :
    l.idxOf a < l.idxOf b := by
  induction l with
  | nil => exact absurd h (Nat.lt_irrefl _)
  | cons c l ih =>
    by_cases hcb : c = b
    · rw [List.filter_cons_of_pos (hcb ▸ hb), hcb, List.idxOf_cons_self] at h
      exact absurd h (Nat.not_lt_zero _)
    rw [List.idxOf_cons_ne l hcb]
    by_cases hca : c = a
    · rw [hca, List.idxOf_cons_self]
      exact Nat.succ_pos _
    rw [List.idxOf_cons_ne l hca]
    refine Nat.succ_lt_succ (ih ?_)
    by_cases hc : p c = true
    · rw [List.filter_cons_of_pos hc, List.idxOf_cons_ne _ hca, List.idxOf_cons_ne _ hcb] at h
      exact Nat.lt_of_succ_lt_succ h
    · rwa [List.filter_cons_of_neg hc] at h

/-- Without repetitions items stand in the order in which they are first met. -/
theorem pairwise_idxOf_eraseDups {α : Type} [BEq α] [LawfulBEq α] (l : List α) :
    l.eraseDups.Pairwise fun a b => l.idxOf a < l.idxOf b := by
  match l with
  | [] => exact .nil
  | a :: l =>
    have hne : ∀ b ∈ (l.filter fun b => !b == a).eraseDups, a ≠ b := by
      rintro b hb rfl
      simpa using (List.mem_filter.1 (List.mem_eraseDups.1 hb)).2
    rw [List.eraseDups_cons, List.pairwise_cons]
    refine ⟨fun b hb => ?_, (pairwise_idxOf_eraseDups _).imp_of_mem fun {b c} hb hc h => ?_⟩
    · rw [List.idxOf_cons_self, List.idxOf_cons_ne l (hne b hb)]
      exact Nat.succ_pos _
    · have hkept {d : α} (hd : d ∈ (l.filter fun b => !b == a).eraseDups) : (!d == a) = true :=
        (List.mem_filter.1 (List.mem_eraseDups.1 hd)).2
      rw [List.idxOf_cons_ne l (hne b hb), List.idxOf_cons_ne l (hne c hc)]
      exact Nat.succ_lt_succ (idxOf_lt_of_filter (p := fun b => !b == a) (hkept hc) h)
  termination_by l.length
  decreasing_by exact Nat.lt_succ_of_le (List.length_filter_le _ _)

/-- The empty label is the first, and the others are in the order in which they are first met. -/
theorem pairwise_labels (fs : List Flag) : (labels fs).Pairwise fun a b =>
    b ≠ [] ∧ (a = [] ∨ firstPlace fs a < firstPlace fs b) := by
  have hkept {a : Text} (ha : a ∈ ((fs.map (·.category)).filter fun b => !b == []).eraseDups) :
      (!a == []) = true := (List.mem_filter.1 (List.mem_eraseDups.1 ha)).2
  rw [labels, List.eraseDups_cons, List.pairwise_cons]
  refine ⟨fun a ha => ⟨by simpa using hkept ha, .inl rfl⟩,
    (pairwise_idxOf_eraseDups _).imp_of_mem fun {a b} ha hb h => ⟨by simpa using hkept hb, .inr ?_⟩⟩
  exact idxOf_lt_of_filter (p := fun b => !b == []) (hkept hb) h

theorem nodup_labels (fs : List Flag) : (labels fs).Nodup := by
  refine (pairwise_labels fs).imp ?_
  rintro a _ ⟨hne, hfirst⟩ rfl
  exact hfirst.elim hne (Nat.lt_irrefl _)

theorem category_mem_labels (hf : f ∈ fs) : f.category ∈ labels fs :=
  List.mem_eraseDups.2 (List.mem_cons_of_mem _ (List.mem_map_of_mem hf))

/-! ### The groups -/

/-- **The visible flags are grouped.** -/
theorem isGrouping_groupFlags (fs : List Flag) :
    IsGrouping (fs.filter (!·.hidden)) (groupFlags fs) where
  distinct := by
    have hlabels : ((groupFlags fs).map (·.category)).Sublist (labels (fs.filter (!·.hidden))) := by
      rw [groupFlags_eq]
      refine (List.filter_sublist.map _).trans ?_
      rw [List.map_map]
      exact (List.map_id _).symm ▸ List.Sublist.refl _
    exact (nodup_labels _).sublist hlabels
  ordered := by
    rw [groupFlags_eq]
    exact (List.pairwise_map.2 (pairwise_labels _)).filter _
  nonempty g hg := (flags_of_mem_groupFlags hg).1
  flags g hg := by
    rw [groupFlags_eq] at hg
    obtain ⟨label, -, rfl⟩ := List.mem_map.1 (List.mem_filter.1 hg).1
    rfl
  complete f hf := by
    rw [groupFlags_eq]
    refine ⟨_, List.mem_filter.2 ⟨List.mem_map_of_mem (category_mem_labels hf), ?_⟩, rfl⟩
    have hmem : f ∈ (fs.filter (!·.hidden)).filter (·.category = f.category) :=
      List.mem_filter.2 ⟨hf, by simp⟩
    simpa using List.ne_nil_of_mem hmem

namespace IsGrouping

variable {gs gs' : List FlagGroup}

/-- The group of a category has the flags of the category, in whichever list of groups it is. -/
theorem subset (h : IsGrouping fs gs) (h' : IsGrouping fs gs') : gs ⊆ gs' := by
  intro g hg
  obtain ⟨v, hv⟩ := List.exists_mem_of_ne_nil _ (h.nonempty g hg)
  rw [h.flags g hg] at hv
  obtain ⟨f, hf, -⟩ := List.mem_map.1 hv
  obtain ⟨hmem, hcategory⟩ := List.mem_filter.1 hf
  obtain ⟨g', hg', hlabel⟩ := h'.complete f hmem
  have hsame : g'.category = g.category := hlabel.trans (of_decide_eq_true hcategory)
  have hflags : g'.flags = g.flags := by rw [h'.flags g' hg', h.flags g hg, hsame]
  have heq : g' = g := by
    cases g
    cases g'
    exact congr (congrArg FlagGroup.mk hsame) hflags
  exact heq ▸ hg'

/-- **There is only one way to group some flags.** -/
theorem unique (h : IsGrouping fs gs) (h' : IsGrouping fs gs') : gs = gs' := by
  have hnodup : gs.Nodup := List.Nodup.of_map _ h.distinct
  have hnodup' : gs'.Nodup := List.Nodup.of_map _ h'.distinct
  have hperm : gs.Perm gs' := (List.perm_ext_iff_of_nodup hnodup hnodup').2 fun _ =>
    ⟨fun hg => h.subset h' hg, fun hg => h'.subset h hg⟩
  refine hperm.eq_of_pairwise ?_ h.ordered h'.ordered
  -- Of two groups that are each in front of the other both would have a label, and an earlier one.
  rintro g g' - - ⟨hne', hlt⟩ ⟨hne, hlt'⟩
  exact absurd ((hlt.resolve_left hne).trans (hlt'.resolve_left hne')) (Nat.lt_irrefl _)

end IsGrouping

/-! ### The flags in a row -/

/-- Only the flags under one label are of its category. -/
theorem filter_flatMap_of_nodup {ls : List Text} (hls : ls.Nodup) (fs : List Flag) (label : Text) :
    (ls.flatMap fun l => fs.filter (·.category = l)).filter (·.category = label) =
      if label ∈ ls then fs.filter (·.category = label) else [] := by
  induction ls with
  | nil => rfl
  | cons l ls ih =>
    rw [List.nodup_cons] at hls
    rw [List.flatMap_cons, List.filter_append, ih hls.2, List.filter_filter]
    by_cases hl : l = label
    · subst hl
      rw [if_neg hls.1, List.append_nil, if_pos List.mem_cons_self]
      simp
    · have hnone : fs.filter (fun f => decide (f.category = label) && decide (f.category = l)) = [] :=
        List.filter_eq_nil_iff.2 fun f _ => by
          simp only [Bool.and_eq_true, decide_eq_true_eq, not_and]
          exact fun hf hf' => hl (hf'.symm.trans hf)
      rw [hnone, List.nil_append]
      simp only [List.mem_cons, Ne.symm hl, false_or]

/-- **In a row the flags of the groups are in a stable order.** -/
theorem isStableOrder_inGroups (fs : List Flag) : IsStableOrder fs (inGroups fs) := by
  have hstable (label : Text) :
      (inGroups fs).filter (·.category = label) = fs.filter (·.category = label) := by
    rw [inGroups, filter_flatMap_of_nodup (nodup_labels fs)]
    split
    · rfl
    · next hlabel =>
      refine (List.filter_eq_nil_iff.2 fun f hf hcategory => hlabel ?_).symm
      exact of_decide_eq_true hcategory ▸ category_mem_labels hf
  refine ⟨?_, hstable⟩
  classical
  -- A flag is as often in the one list as in the other, because it is so in its category.
  have hcount (f : Flag) (l : List Flag) :
      (l.filter (·.category = f.category)).count f = l.count f :=
    List.count_filter (decide_eq_true rfl)
  exact List.perm_iff_count.2 fun f => by rw [← hcount f, hstable, hcount f]

/-! ### Views -/

namespace DocumentView

/-- **The groups of an application.** Whatever flags there are, the groups are those of the visible
ones. Either a flag that has to be shown cannot be, or a view has the groups of the application and
of each command in the order of the listing; its flags in a row are the visible ones in a stable
order, and the synopsis has them in that order too. -/
theorem groups_of_build :
    (∀ fs, IsGrouping (fs.filter (!·.hidden)) (groupFlags fs)) ∧
    ∀ root asked manualSection,
      (∃ f, build root asked manualSection = .error f ∧
        ∃ d ∈ root.shownDetails, ∃ g ∈ d.visibleFlags, g.viewFault? = some f) ∨
      ∃ v, build root asked manualSection = .ok v ∧
        IsGrouping root.details.visibleFlags v.flagGroups ∧
        (∃ fs, IsStableOrder root.details.visibleFlags fs ∧ v.flags = fs.map FlagView.ofFlag ∧
          v.synopsisArgs = fs.map Flag.synopsis) ∧
        List.Forall₂ (fun w c => IsGrouping w.command.details.visibleFlags c.summary.flagGroups ∧
          ∃ fs, IsStableOrder w.command.details.visibleFlags fs ∧
            c.summary.flags = fs.map FlagView.ofFlag) root.shown v.allCommands := by
  refine ⟨isGrouping_groupFlags, fun root asked manualSection => ?_⟩
  unfold build
  cases hfault : fault? root with
  | some f => exact .inl ⟨f, rfl, exists_of_fault? hfault⟩
  | none =>
    have hflags := flags_ofCommand root asked manualSection
    refine .inr ⟨_, rfl, isGrouping_groupFlags root.details.flags,
      ⟨_, isStableOrder_inGroups _, hflags, ?_⟩, ?_⟩
    · change ((ofCommand root asked manualSection).flags.map (·.synopsis)) = _
      rw [hflags, List.map_map]
      rfl
    · have hsummaries : List.Forall₂ (fun w c => Visit.summary w = CommandView.summary c) root.shown
          (ofCommand root asked manualSection).allCommands := by
        rw [← List.forall₂_map_left_iff (R := fun s c => s = CommandView.summary c),
          ← List.forall₂_map_right_iff, List.forall₂_eq_eq_eq, map_summary_allCommands]
      refine hsummaries.imp fun w c hwc => ?_
      rw [← hwc]
      exact ⟨isGrouping_groupFlags w.command.details.flags, _, isStableOrder_inGroups _,
        groupedFlags_groupFlags _⟩

/-- A flag with a number that is too long to be written cannot be shown, and so there are no groups
of an application that has it. -/
theorem build_of_long_default :
    let flag : Flag :=
      { names := ⟨["x".toList], rfl⟩, kind := .int, defaultValue := .int (Nat.pow 10 maxDigits) }
    let root : Command := .mk { name := "a".toList, flags := [flag] } []
    build root [] 0 = .error .digits ∧
      ¬ ∃ v, build root [] 0 = .ok v ∧ IsGrouping root.details.visibleFlags v.flagGroups := by
  intro flag root
  have hflag : flag.viewFault? = some .digits := by
    have hdigits : flag.defaultValue.isWritable = false := isWritable_pow_maxDigits
    rw [Flag.viewFault?, hdigits]
    rfl
  have hvisible : root.details.visibleFlags = [flag] := rfl
  have hfault : fault? root = some .digits := (fault?_of_visibleFlags hvisible).trans hflag
  have hroot : build root [] 0 = .error .digits := by rw [build, hfault]
  refine ⟨hroot, ?_⟩
  rintro ⟨v, hv, -⟩
  rw [hroot] at hv
  cases hv

end DocumentView

end CommandManual
