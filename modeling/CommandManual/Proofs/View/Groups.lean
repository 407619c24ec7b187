import CommandManual.View.Flag

/-!
# Flags in the order of their groups

`groupFlags` puts one flag after the other under the label of its category. What comes of it can be
said without the steps: there is a group for the empty label and for each label where it is first
met, and a group has the visible flags of its category in their order. A first group takes what
belongs to it out of the flags and leaves the rest to the others (`foldl_addToGroups_cons`), which
is also how repeated labels are removed from a list.

## Main definitions

* `labels`: the labels of some flags.
* `inGroups`: flags in the order of their groups.

## Main results

* `groupFlags_eq`: the groups of some flags.
* `groupedFlags_groupFlags`: the flags of the groups are those of `inGroups`.
* `flags_of_mem_groupFlags`: a group has some visible flags of its category.
-/

namespace CommandManual

/-- The labels of the categories of some flags: the empty one, then the others where they are first
met. -/
def labels (fs : List Flag) : List Text := ([] :: fs.map (·.category)).eraseDups

/-- Flags in the order of their groups. -/
def inGroups (fs : List Flag) : List Flag :=
  (labels fs).flatMap fun label => fs.filter (·.category = label)

/-! ### Flags that are put under their labels -/

/-- A first group takes the flags of its category, and the others are put into the other groups. -/
theorem foldl_addToGroups_cons (fs : List FlagView) (g : FlagGroup) (gs : List FlagGroup) :
    fs.foldl (fun gs f => addToGroups f gs) (g :: gs) =
      ⟨g.category, g.flags ++ fs.filter (·.category = g.category)⟩ ::
        (fs.filter (·.category ≠ g.category)).foldl (fun gs f => addToGroups f gs) gs := by
  induction fs generalizing g gs with
  | nil => simp
  | cons f fs ih =>
    rw [List.foldl_cons, addToGroups]
    by_cases hf : f.category = g.category
    · rw [if_pos hf.symm, ih, List.filter_cons_of_pos (by simpa using hf),
        List.filter_cons_of_neg (by simpa using hf), List.append_assoc, List.singleton_append]
    · rw [if_neg fun h => hf h.symm, ih, List.filter_cons_of_neg (by simpa using hf),
        List.filter_cons_of_pos (by simpa using hf), List.foldl_cons]

/-- The flags of another category are among those that a first group leaves. -/
theorem filter_category_filter {first label : Text} (h : label ≠ first) (fs : List FlagView) :
    (fs.filter (·.category ≠ first)).filter (·.category = label) =
      fs.filter (·.category = label) := by
  rw [List.filter_filter]
  refine List.filter_congr fun f _ => ?_
  by_cases hf : f.category = label <;> simp [hf, h]

/-- A first label is removed from those behind it. -/
theorem eraseDups_category_cons (first : Text) (fs : List FlagView) :
    (first :: fs.map (·.category)).eraseDups =
      first :: ((fs.filter (·.category ≠ first)).map (·.category)).eraseDups := by
  rw [List.eraseDups_cons, List.filter_map]
  congr 3
  refine List.filter_congr fun f _ => ?_
  by_cases hf : f.category = first <;> simp [hf]

/-- The groups of the labels of some flags. -/
def groupsOf (fs : List FlagView) (ls : List Text) : List FlagGroup :=
  ls.map fun label => ⟨label, fs.filter (·.category = label)⟩

/-- A first group, and the groups of what it leaves. -/
theorem groupsOf_eraseDups_cons (first : Text) (fs ks : List FlagView)
    (h : ks.filter (·.category ≠ first) = fs.filter (·.category ≠ first)) :
    groupsOf ks (first :: fs.map (·.category)).eraseDups =
      ⟨first, ks.filter (·.category = first)⟩ ::
        groupsOf (fs.filter (·.category ≠ first))
          ((fs.filter (·.category ≠ first)).map (·.category)).eraseDups := by
  rw [eraseDups_category_cons, groupsOf, List.map_cons, groupsOf]
  congr 1
  refine List.map_congr_left fun label hlabel => ?_
  obtain ⟨f, hf, rfl⟩ := List.mem_map.1 (List.mem_eraseDups.1 hlabel)
  have hne : f.category ≠ first := of_decide_eq_true (List.mem_filter.1 hf).2
  rw [← h, filter_category_filter hne]

/-- Without groups in front there is one for each label where it is first met. -/
theorem foldl_addToGroups_nil (fs : List FlagView) :
    fs.foldl (fun gs f => addToGroups f gs) [] = groupsOf fs (fs.map (·.category)).eraseDups := by
  match fs with
  | [] => rfl
  | f :: fs =>
    have hkeep : (f :: fs).filter (·.category ≠ f.category) =
        fs.filter (·.category ≠ f.category) := List.filter_cons_of_neg (by simp)
    rw [List.foldl_cons, addToGroups, foldl_addToGroups_cons,
      foldl_addToGroups_nil (fs.filter (·.category ≠ f.category)), List.map_cons,
      groupsOf_eraseDups_cons _ _ _ hkeep, List.filter_cons_of_pos (by simp),
      List.singleton_append]
  termination_by fs.length
  decreasing_by exact Nat.lt_succ_of_le (List.length_filter_le _ _)

/-- **The groups of some flags**: the empty label, then the others where they are first met, each
with the visible flags of its category, as far as there are any. -/
theorem groupFlags_eq (fs : List Flag) :
    groupFlags fs = ((labels (fs.filter (!·.hidden))).map fun label =>
      (⟨label, ((fs.filter (!·.hidden)).filter (·.category = label)).map FlagView.ofFlag⟩ :
        FlagGroup)).filter (!·.flags.isEmpty) := by
  have hcategory : ((fs.filter (!·.hidden)).map FlagView.ofFlag).map (·.category) =
      (fs.filter (!·.hidden)).map (·.category) := by
    rw [List.map_map]
    rfl
  have hgroups := groupsOf_eraseDups_cons [] ((fs.filter (!·.hidden)).map FlagView.ofFlag) _ rfl
  rw [hcategory] at hgroups
  rw [groupFlags, foldl_addToGroups_cons, List.nil_append, foldl_addToGroups_nil, ← hgroups, labels,
    groupsOf]
  congr 2
  funext label
  rw [List.filter_map]
  rfl

/-! ### The flags of the groups -/

theorem mem_inGroups {fs : List Flag} {f : Flag} : f ∈ inGroups fs ↔ f ∈ fs := by
  rw [inGroups, List.mem_flatMap]
  constructor
  · rintro ⟨label, -, hf⟩
    exact (List.mem_filter.1 hf).1
  · intro hf
    refine ⟨f.category, ?_, List.mem_filter.2 ⟨hf, by simp⟩⟩
    exact List.mem_eraseDups.2 (List.mem_cons_of_mem _ (List.mem_map.2 ⟨f, hf, rfl⟩))

theorem inGroups_eq_nil_iff {fs : List Flag} : inGroups fs = [] ↔ fs = [] := by
  simp only [List.eq_nil_iff_forall_not_mem, mem_inGroups]

/-- Groups without flags have none to be listed. -/
theorem groupedFlags_filter (gs : List FlagGroup) :
    groupedFlags (gs.filter (!·.flags.isEmpty)) = groupedFlags gs := by
  induction gs with
  | nil => rfl
  | cons g gs ih =>
    have hcons (hs : List FlagGroup) : groupedFlags (g :: hs) = g.flags ++ groupedFlags hs := rfl
    rw [List.filter_cons]
    split
    · rw [hcons, hcons, ih]
    · next h =>
      have hnil : g.flags = [] := by simpa using h
      rw [hcons, hnil, ih, List.nil_append]

/-- **The flags of the groups** are the visible flags in the order of their groups. -/
theorem groupedFlags_groupFlags (fs : List Flag) :
    groupedFlags (groupFlags fs) = (inGroups (fs.filter (!·.hidden))).map FlagView.ofFlag := by
  rw [groupFlags_eq, groupedFlags_filter, groupedFlags, List.flatMap_map, inGroups,
    List.map_flatMap]

/-- **A group has some visible flags** of its category. -/
theorem flags_of_mem_groupFlags {fs : List Flag} {g : FlagGroup} (h : g ∈ groupFlags fs) :
    g.flags ≠ [] ∧ ∀ v ∈ g.flags, ∃ f ∈ fs.filter (!·.hidden),
      f.category = g.category ∧ v = FlagView.ofFlag f := by
  rw [groupFlags_eq, List.mem_filter] at h
  obtain ⟨hmem, hne⟩ := h
  obtain ⟨label, -, rfl⟩ := List.mem_map.1 hmem
  refine ⟨by simpa using hne, fun v hv => ?_⟩
  obtain ⟨f, hf, rfl⟩ := List.mem_map.1 hv
  obtain ⟨hvisible, hlabel⟩ := List.mem_filter.1 hf
  exact ⟨f, hvisible, of_decide_eq_true hlabel, rfl⟩

end CommandManual
