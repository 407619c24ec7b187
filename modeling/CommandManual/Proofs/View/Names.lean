import CommandManual.Proofs.Definition.RoundTrip
import CommandManual.Proofs.Text.Parts
import CommandManual.View.Flag

/-!
# The names that a flag is known by

A document shows the names of a flag in three places: a list of names, the line of the narrative
document and the synopsis. They show the same names in the same order, the ones that are not blank.

The flag itself is known by its first name, blank or not. So if the first name is blank the flag
goes by an empty name, and no document shows it by the one dash that this would be typed as. A
definition can leave the first name out: its flag is then known by nothing, whatever its aliases
are.

## Main definitions

* `FlagNames.firstInked`: the first name is not blank.

## Main results

* `FlagNames.spelling_primary_eq_head_iff`: when the first name is the first one that is shown.
* `Flag.names_of_view`: the names of a flag, in its views and by itself.
-/

namespace CommandManual

namespace FlagNames

variable {ns : FlagNames} {name : Text} {names : List Text}

/-- The first name is not blank. -/
def firstInked (ns : FlagNames) : Bool := ns.toList.head?.any Text.hasInk

theorem toList_ne_nil (ns : FlagNames) : ns.toList ≠ [] := by
  intro hnil
  have hinked := ns.inked
  rw [hnil] at hinked
  cases hinked

/-- No name is lost or changed. -/
theorem toList_of_ofList (h : ofList names = .ok ns) : ns.toList = names := by
  rw [ofList, ofList?] at h
  split at h
  · next hsome =>
    obtain ⟨hinked, hns⟩ := Option.dite_none_right_eq_some.1 hsome
    cases hns
    cases h
    rfl
  · cases h

theorem spelling_strip (name : Text) : spelling name.strip = spelling name := by
  rw [spelling, Text.strip_strip, spelling]

theorem firstInked_of_toList (h : ns.toList = name :: names) : ns.firstInked = name.hasInk := by
  rw [firstInked, h]
  rfl

theorem primary_of_toList (h : ns.toList = name :: names) : ns.primary = name.strip := by
  rw [primary, h]
  rfl

/-- A name that is not blank is more than its dash. -/
theorem spelling_ne_dash (h : name.hasInk = true) : spelling name ≠ ['-'] := by
  intro hdash
  rw [spelling] at hdash
  split at hdash
  · cases hdash
  · exact Text.strip_ne_nil h (List.cons.inj hdash).2

/-- A blank first name is empty, and it is not among the names that are shown. -/
theorem primary_of_not_firstInked (h : ns.firstInked = false) :
    ns.primary = [] ∧ spelling ns.primary ∉ ns.spelled := by
  obtain ⟨name, names, hnames⟩ := List.exists_cons_of_ne_nil ns.toList_ne_nil
  rw [firstInked_of_toList hnames] at h
  have hprimary : ns.primary = [] := by
    rw [primary_of_toList hnames]
    exact Text.strip_eq_nil_iff.2 h
  refine ⟨hprimary, fun hmem => ?_⟩
  obtain ⟨shown, hshown, hspelling⟩ := List.mem_map.1 hmem
  rw [hprimary] at hspelling
  exact spelling_ne_dash (List.mem_filter.1 hshown).2 hspelling

/-- **The first name is the first one that is shown** if and only if it is not blank. -/
theorem spelling_primary_eq_head_iff :
    ns.primary ≠ [] ∧ spelling ns.primary = ns.spelled.head ns.spelled_ne_nil ↔
      ns.firstInked = true := by
  constructor
  · rintro ⟨hne, -⟩
    by_contra hblank
    exact hne (primary_of_not_firstInked (Bool.eq_false_iff.2 hblank)).1
  · intro hinked
    obtain ⟨name, names, hnames⟩ := List.exists_cons_of_ne_nil ns.toList_ne_nil
    rw [firstInked_of_toList hnames] at hinked
    have hspelled : ns.spelled = spelling name :: (names.filter Text.hasInk).map spelling := by
      rw [spelled, hnames, List.filter_cons_of_pos hinked, List.map_cons]
    simp only [primary_of_toList hnames, hspelled, spelling_strip, List.head_cons, and_true]
    exact Text.strip_ne_nil hinked

end FlagNames

namespace Flag

open Definition

/-- Without a list of names the first name is that of the entry, and its aliases follow. -/
theorem toList_of_definedNames {es : Entries} {names : List Text} (hnone : get? es "names" = none)
    (h : definedNames es = .ok names) :
    ∃ name aliases, text es "name" = .ok name ∧ texts es "aliases" = .ok aliases ∧
      names = name :: aliases := by
  rw [definedNames, hnone] at h
  obtain ⟨name, hname, h⟩ := Except.bind_eq_ok_iff.1 h
  obtain ⟨aliases, haliases, h⟩ := Except.bind_eq_ok_iff.1 h
  cases h
  exact ⟨name, aliases, hname, haliases, rfl⟩

/-- The names of a flag are those of its entry. -/
theorem definedNames_of_ofDefinition {f : Flag} {v : Value} {es : Entries}
    (h : ofDefinition v = .ok f) (hes : entries v = .ok es) :
    definedNames es = .ok f.names.toList := by
  simp only [ofDefinition, hes, Except.ok_bind, Except.bind_eq_ok_iff] at h
  obtain ⟨_, -, names, hnames, _, -, _, -, _, -, _, -, _, -, _, -, _, -, _, -, h⟩ := h
  rw [hnames]
  cases hlist : FlagNames.ofList names with
  | error g =>
    rw [hlist] at h
    cases h
  | ok ns =>
    rw [hlist] at h
    cases h
    exact congrArg Except.ok (FlagNames.toList_of_ofList hlist).symm

/-- **The names of a flag.** Every view shows the names that are not blank, in their order: the name
with its aliases, the line of the narrative document and the synopsis. The flag by itself goes by
the first of them if and only if its first name is not blank; else it goes by an empty name that no
view shows. In a definition without a list of names the first name is the one that is given as such.
-/
theorem names_of_view {f : Flag} (h : f.IsDefinable) :
    let view := FlagView.ofFlag f
    (∃ n, f.primaryName? = some n ∧
      (n ≠ [] ∧ FlagNames.spelling n = view.name ↔ f.names.firstInked = true) ∧
      (f.names.firstInked = false → n = [] ∧ FlagNames.spelling n ∉ view.names)) ∧
    view.names = (f.names.toList.filter Text.hasInk).map FlagNames.spelling ∧
    view.names = view.name :: view.aliases ∧
    view.display = "**".toList ++ Text.commaList view.names ++ "**".toList
      ++ (if view.takesValue then "=\"\"".toList else []) ++ ": ".toList ++ f.remarks ∧
    view.synopsis = '[' :: ['|'].intercalate view.names ++ ']' ::
      (if view.takesValue then "=[value]".toList else []) ∧
    ∀ v es, ofDefinition v = .ok f → entries v = .ok es → get? es "names" = none →
      ∃ name aliases, text es "name" = .ok name ∧ texts es "aliases" = .ok aliases ∧
        f.names.toList = name :: aliases ∧ f.names.firstInked = name.hasInk := by
  intro view
  have hprimary : f.primaryName? = some f.names.primary := by
    rw [primaryName?, h.keyed]
    rfl
  refine ⟨⟨_, hprimary, FlagNames.spelling_primary_eq_head_iff,
    FlagNames.primary_of_not_firstInked⟩, rfl, (List.cons_head_tail _).symm, rfl, rfl, ?_⟩
  intro v es hv hes hnone
  obtain ⟨name, aliases, hname, haliases, hnames⟩ :=
    toList_of_definedNames hnone (definedNames_of_ofDefinition hv hes)
  exact ⟨name, aliases, hname, haliases, hnames, FlagNames.firstInked_of_toList hnames⟩

/-- A flag of a definition that has a name, with a blank alias in front of another. -/
theorem names_of_view_of_blank_alias :
    let v : Value := .map [(.text "name".toList, .text " x".toList),
      (.text "aliases".toList, .list [.text [], .text "out".toList])]
    let f : Flag := { names := ⟨[" x".toList, [], "out".toList], by decide⟩ }
    ofDefinition v = .ok f ∧
      (∃ n, f.primaryName? = some n ∧ n ≠ [] ∧
        FlagNames.spelling n = (FlagView.ofFlag f).name) ∧
      (FlagView.ofFlag f).names = ["-x".toList, "--out".toList] ∧
      ∃ name aliases, f.names.toList = name :: aliases ∧ name.hasInk = true := by
  intro v f
  have hv : ofDefinition v = .ok f := by rfl
  have hinked : f.names.firstInked = true := by decide
  obtain ⟨⟨n, hn, hiff, -⟩, hnames, -, -, -, hdefined⟩ :=
    names_of_view (f := f) (isDefinable_of_ofDefinition hv)
  obtain ⟨name, aliases, -, -, hlist, hfirst⟩ := hdefined v _ hv rfl rfl
  exact ⟨hv, ⟨n, hn, hiff.2 hinked⟩, hnames.trans (by decide), name, aliases, hlist,
    hfirst ▸ hinked⟩

/-- Aliases without a name: the views show the alias, and the flag by itself goes by nothing. -/
theorem primaryName_of_aliases :
    let v : Value := .map [(.text "aliases".toList, .list [.text "x".toList])]
    ∃ f, ofDefinition v = .ok f ∧ (FlagView.ofFlag f).name = "-x".toList ∧
      ¬ ∃ n, f.primaryName? = some n ∧ n ≠ [] ∧
        FlagNames.spelling n = (FlagView.ofFlag f).name := by
  intro v
  have hv : ofDefinition v = .ok { names := ⟨[[], "x".toList], by decide⟩ } := by rfl
  refine ⟨_, hv, by decide, ?_⟩
  rintro ⟨n, hn, hne, -⟩
  exact hne (Option.some.inj hn).symm

end Flag

end CommandManual
