import CommandManual.Declaration.Command
import CommandManual.Proofs.Text.Parts
import CommandManual.View.Flag
import Mathlib.Data.List.Perm.Basic

/-!
# Spellings of an option

An option is declared with its dashes, and a flag has names without them. A document puts dashes in
front of a name again, and how many is a matter of its length: two in front of a word, one in front
of a letter. So the names that a document shows are what is typed if and only if the option keeps to
that rule.

## Main definitions

* `IsBareName`, `IsSpelling`: what can be typed behind dashes, and with them.
* `IsUsualSpelling`: the spellings that keep to the rule.

## Main results

* `DeclaredOption.spelled_perm`: what a document shows of each spelling; none is lost or added.
* `DeclaredOption.names_perm_spellings_iff`: when the names in a document are the spellings.
-/

namespace CommandManual

/-- A name that can be typed behind dashes: it is not empty, has no blank in it, and does not begin
with a dash itself. -/
structure IsBareName (name : Text) : Prop where
  ne_nil : name ≠ []
  isBlank_eq_false : ∀ c ∈ name, isBlank c = false
  head?_ne : name.head? ≠ some '-'

theorem isBareName_of_all {name : Text} (hne : name ≠ [])
    (hink : name.all (isBlank · = false) = true) (hhead : name.head? ≠ some '-') :
    IsBareName name :=
  ⟨hne, Text.forall_mem_of_all hink, hhead⟩

/-- One dash or two, and a name. -/
def IsSpelling (s : Text) : Prop :=
  ∃ name, IsBareName name ∧ (s = '-' :: name ∨ s = '-' :: '-' :: name)

/-- One dash in front of a letter, or two in front of a longer name. -/
def IsUsualSpelling (s : Text) : Prop :=
  (∃ c, s = ['-', c]) ∨ ∃ name, 1 < name.length ∧ s = '-' :: '-' :: name

/-- A spelling without its dashes. -/
def bareName (s : Text) : Text := Text.trimStart (· = '-') s

/-! ### One spelling -/

namespace IsBareName

variable {name : Text} (h : IsBareName name)

include h

theorem hasInk : name.hasInk = true := by
  obtain ⟨c, cs, rfl⟩ := List.exists_cons_of_ne_nil h.ne_nil
  simp [Text.hasInk, Text.isBlankText, h.isBlank_eq_false c List.mem_cons_self]

theorem bareName_eq : bareName name = name := by
  obtain ⟨c, cs, rfl⟩ := List.exists_cons_of_ne_nil h.ne_nil
  have hc : ¬ c = '-' := fun hc => h.head?_ne (congrArg some hc)
  rw [bareName, Text.trimStart, List.dropWhile_cons_of_neg (by simpa using hc)]

theorem bareName_dash : bareName ('-' :: name) = name := h.bareName_eq

theorem bareName_dashes : bareName ('-' :: '-' :: name) = name := h.bareName_eq

theorem spelling_of_length_eq_one (hone : name.length = 1) :
    FlagNames.spelling name = '-' :: name := by
  rw [FlagNames.spelling, Text.strip_of_forall h.isBlank_eq_false]
  exact if_neg (by omega)

theorem spelling_of_one_lt (hlong : 1 < name.length) :
    FlagNames.spelling name = '-' :: '-' :: name := by
  rw [FlagNames.spelling, Text.strip_of_forall h.isBlank_eq_false]
  exact if_pos hlong

/-- A name has one letter or more. -/
theorem length_cases : name.length = 1 ∨ 1 < name.length := by
  have hpos := List.length_pos_iff.2 h.ne_nil
  omega

/-- What a document shows of a name keeps to the rule. -/
theorem isUsualSpelling : IsUsualSpelling (FlagNames.spelling name) := by
  rcases h.length_cases with hone | hlong
  · obtain ⟨c, rfl⟩ := List.length_eq_one_iff.1 hone
    exact .inl ⟨c, h.spelling_of_length_eq_one hone⟩
  · exact .inr ⟨name, hlong, h.spelling_of_one_lt hlong⟩

end IsBareName

namespace IsSpelling

variable {s : Text} (h : IsSpelling s)

include h

theorem isBareName : IsBareName (bareName s) := by
  obtain ⟨name, hname, rfl | rfl⟩ := h
  · exact hname.bareName_dash.symm ▸ hname
  · exact hname.bareName_dashes.symm ▸ hname

/-- **A spelling is found again from its name** if and only if it keeps to the rule. -/
theorem spelling_bareName_iff : FlagNames.spelling (bareName s) = s ↔ IsUsualSpelling s := by
  constructor
  · intro hs
    exact hs ▸ h.isBareName.isUsualSpelling
  · intro husual
    obtain ⟨name, hname, rfl | rfl⟩ := h
    · rw [hname.bareName_dash]
      rcases husual with ⟨c, hc⟩ | ⟨long, -, hlong⟩
      · obtain rfl := (List.cons.inj hc).2
        exact hname.spelling_of_length_eq_one rfl
      · obtain rfl := (List.cons.inj hlong).2
        exact absurd rfl hname.head?_ne
    · rw [hname.bareName_dashes]
      rcases husual with ⟨c, hc⟩ | ⟨long, hlength, hlong⟩
      · exact absurd (List.cons.inj (List.cons.inj hc).2).2 hname.ne_nil
      · obtain rfl := (List.cons.inj (List.cons.inj hlong).2).2
        exact hname.spelling_of_one_lt hlength

end IsSpelling

/-! ### The names of an option -/

namespace DeclaredOption

variable {o : DeclaredOption}

/-- The names are the spellings without their dashes, in another order. -/
theorem names_perm (h : ∀ s ∈ o.spellings, IsSpelling s) :
    o.names.Perm (o.spellings.map bareName) := by
  have hshort : (o.spellings.map bareName).filter (·.length = 1) =
      (o.spellings.map bareName).filter fun n => !decide (1 < n.length) := by
    refine List.filter_congr fun n hn => ?_
    obtain ⟨s, hs, rfl⟩ := List.mem_map.1 hn
    rcases (h s hs).isBareName.length_cases with hone | hlong
    · simp [hone]
    · simp [hlong, Nat.ne_of_gt hlong]
  change ((o.spellings.map bareName).filter (1 < ·.length) ++
    (o.spellings.map bareName).filter (·.length = 1)).Perm _
  rw [hshort]
  exact List.filter_append_perm ..

/-- **What a document shows of each spelling.** No name is blank, so that none is left out. -/
theorem spelled_perm (h : ∀ s ∈ o.spellings, IsSpelling s) {ns : FlagNames}
    (hns : ns.toList = o.names) :
    ns.spelled.Perm (o.spellings.map fun s => FlagNames.spelling (bareName s)) := by
  have hink : ∀ n ∈ o.names, n.hasInk = true := by
    intro n hn
    obtain ⟨s, hs, rfl⟩ := List.mem_map.1 ((names_perm h).mem_iff.1 hn)
    exact (h s hs).isBareName.hasInk
  have hmap := (names_perm h).map FlagNames.spelling
  rw [List.map_map] at hmap
  rw [FlagNames.spelled, hns, List.filter_eq_self.2 hink]
  exact hmap

/-- The names of an option with a spelling are the names of a flag. -/
theorem exists_ofList_names (hne : o.spellings ≠ []) (h : ∀ s ∈ o.spellings, IsSpelling s) :
    ∃ ns, FlagNames.ofList o.names = .ok ns ∧ ns.toList = o.names := by
  obtain ⟨s, hs⟩ := List.exists_mem_of_ne_nil _ hne
  have hname : bareName s ∈ o.names := (names_perm h).mem_iff.2 (List.mem_map_of_mem hs)
  have hinked : o.names.any Text.hasInk = true :=
    List.any_eq_true.2 ⟨_, hname, (h s hs).isBareName.hasInk⟩
  refine ⟨⟨o.names, hinked⟩, ?_, rfl⟩
  rw [FlagNames.ofList, FlagNames.ofList?, dif_pos hinked]

/-- An option that is only ever turned off has no spelling, and so no name. -/
theorem flag_eq_nameless (hnil : o.spellings = []) (inherited : Value) :
    o.flag inherited = .error .nameless := by
  have hnames : o.names = [] := by rw [names, hnil]; rfl
  rw [flag, hnames]
  rfl

/-- **An option is shown as it is typed** if and only if every spelling of it has one dash in front
of a letter, or two in front of a longer name. All other spellings are shown with dashes that the
program does not know. -/
theorem names_perm_spellings_iff (h : ∀ s ∈ o.spellings, IsSpelling s) (inherited : Value) :
    (o.spellings = [] → o.flag inherited = .error .nameless) ∧
      (o.spellings ≠ [] → ∃ f, o.flag inherited = .ok f ∧
        ((FlagView.ofFlag f).names.Perm o.spellings ↔ ∀ s ∈ o.spellings, IsUsualSpelling s)) := by
  refine ⟨fun hnil => flag_eq_nameless hnil inherited, fun hne => ?_⟩
  obtain ⟨ns, hns, hlist⟩ := exists_ofList_names hne h
  obtain ⟨f, hf, rfl⟩ : ∃ f, o.flag inherited = .ok f ∧ f.names = ns := by
    rw [flag, hns]
    exact ⟨_, rfl, rfl⟩
  have hshown : (FlagView.ofFlag f).names.Perm
      (o.spellings.map fun s => FlagNames.spelling (bareName s)) := spelled_perm h hlist
  refine ⟨f, hf, fun hperm s hs => ?_, fun husual => ?_⟩
  · obtain ⟨t, ht, hst⟩ := List.mem_map.1 (hshown.mem_iff.1 (hperm.mem_iff.2 hs))
    exact hst ▸ (h t ht).isBareName.isUsualSpelling
  · have hsame : (o.spellings.map fun s => FlagNames.spelling (bareName s)) = o.spellings :=
      (List.map_congr_left fun s hs => (h s hs).spelling_bareName_iff.2 (husual s hs)).trans
        (List.map_id _)
    exact hsame ▸ hshown

/-- An option with a letter between two words is shown as it is typed, the letter last. -/
theorem names_perm_spellings_iff_of_output :
    let o : DeclaredOption := { spellings := ["--output".toList, "-o".toList, "--to-file".toList] }
    (∀ s ∈ o.spellings, IsSpelling s) ∧ ∃ f, o.flag .null = .ok f ∧
      (FlagView.ofFlag f).names = ["--output".toList, "--to-file".toList, "-o".toList] ∧
      (FlagView.ofFlag f).names.Perm o.spellings := by
  intro o
  have hspelling : ∀ s ∈ o.spellings, IsSpelling s := by
    intro s hs
    simp only [o, List.mem_cons, List.not_mem_nil, or_false] at hs
    rcases hs with rfl | rfl | rfl
    · exact ⟨"output".toList, isBareName_of_all (by decide) (by decide) (by decide), .inr rfl⟩
    · exact ⟨['o'], isBareName_of_all (by decide) (by decide) (by decide), .inl rfl⟩
    · exact ⟨"to-file".toList, isBareName_of_all (by decide) (by decide) (by decide), .inr rfl⟩
  have husual : ∀ s ∈ o.spellings, IsUsualSpelling s := by
    intro s hs
    simp only [o, List.mem_cons, List.not_mem_nil, or_false] at hs
    rcases hs with rfl | rfl | rfl
    · exact .inr ⟨"output".toList, by decide, rfl⟩
    · exact .inl ⟨'o', rfl⟩
    · exact .inr ⟨"to-file".toList, by decide, rfl⟩
  obtain ⟨f, hf, hiff⟩ := (names_perm_spellings_iff hspelling .null).2 (by simp [o])
  refine ⟨hspelling, f, hf, ?_, hiff.2 husual⟩
  have hshown : (o.flag .null).toOption.map (fun f => (FlagView.ofFlag f).names) =
      some ["--output".toList, "--to-file".toList, "-o".toList] := by decide
  rw [hf] at hshown
  exact Option.some.inj hshown

/-- A letter behind two dashes is shown behind one, and letters behind one dash are shown behind
two: the document has two options that the program does not know. -/
theorem names_of_long_letter :
    let o : DeclaredOption := { spellings := ["--v".toList, "-abc".toList] }
    (∀ s ∈ o.spellings, IsSpelling s) ∧ ∃ f, o.flag .null = .ok f ∧
      (FlagView.ofFlag f).names = ["--abc".toList, "-v".toList] ∧
      ¬ (FlagView.ofFlag f).names.Perm o.spellings := by
  intro o
  have hspelling : ∀ s ∈ o.spellings, IsSpelling s := by
    intro s hs
    simp only [o, List.mem_cons, List.not_mem_nil, or_false] at hs
    rcases hs with rfl | rfl
    · exact ⟨['v'], isBareName_of_all (by decide) (by decide) (by decide), .inr rfl⟩
    · exact ⟨"abc".toList, isBareName_of_all (by decide) (by decide) (by decide), .inl rfl⟩
  have hnames : FlagNames.ofList o.names = .ok ⟨["abc".toList, ['v']], rfl⟩ := rfl
  refine ⟨hspelling, ?_⟩
  rw [flag, hnames]
  refine ⟨_, rfl, by decide, fun hperm => ?_⟩
  have hmem : "--v".toList ∈ ["--abc".toList, "-v".toList] :=
    hperm.mem_iff.2 (by simp [o])
  exact absurd hmem (by decide)

end DeclaredOption

end CommandManual
