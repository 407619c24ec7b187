import CommandManual.Document.Tabular
import CommandManual.Proofs.Declaration.Withheld

/-!
# What is shown of a default that help does not show

A manual has the defaults that the program's own help shows, and the decision is made while the
declaration becomes a tree: the flag of an option that hides its default has no value and no text.
What is shown of it is computed later, from the kind of the flag alone. Nothing is shown of most
kinds, but a switch without a value is shown as one that is off. So a switch that is on unless it is
turned off, and that hides this, is documented with `false`.

## Main definitions

* `DeclaredOption.Hides`: the default is not shown, and no text is shown instead.
* `DeclaredOption.IsSwitch`: the options whose flags take no value.

## Main results

* `Flag.defaultDisplay_of_unset`: what is shown of a flag that has no default.
* `Command.defaultCell_of_hides`: the default cell of an option that hides its default.
-/

namespace CommandManual

/-! ### Options -/

namespace DeclaredOption

variable (o : DeclaredOption) (inherited : Value)

/-- The setting for the option is null, false, zero or empty, and it is no text. -/
def Hides : Prop :=
  (o.effectiveShowDefault inherited).isTruthy = false ∧
    ∀ t, o.effectiveShowDefault inherited ≠ .text t

/-- The option is given without a value, or with one that is true or false. An option that is
counted is none, nor is one of several values or of any number of them. -/
def IsSwitch : Prop :=
  o.isCount = false ∧ (o.isFlag = true ∨ o.type = .bool ∧ o.isMultiple = false ∧ o.arity ≠ -1)

instance : Decidable o.IsSwitch := inferInstanceAs (Decidable (_ ∧ _))

variable {o inherited} {f : Flag}

theorem listKind_ne_switch (k : FlagKind) : listKind k ≠ .switch := by
  cases k <;> simp [listKind]

theorem baseKind_eq_switch_iff {t : ValueType} : baseKind t = .switch ↔ t = .bool := by
  cases t <;> simp [baseKind]

theorem kind_eq_switch_iff : o.kind = .switch ↔ o.IsSwitch := by
  rw [kind, IsSwitch]
  split
  · next hcount => simp [hcount]
  · next hcount =>
    split
    · next hflag => simp [hcount, hflag]
    · next hflag =>
      split
      · next hlist =>
        have hseveral : o.isMultiple = true ∨ o.arity = -1 := by simpa using hlist
        simp only [listKind_ne_switch, hflag, false_iff]
        rcases hseveral with hmultiple | harity
        · simp [hmultiple]
        · simp [harity]
      · next hlist =>
        have hone : o.isMultiple = false ∧ o.arity ≠ -1 := by simpa using hlist
        simp [baseKind_eq_switch_iff, hcount, hflag, hone]

/-- Nothing is published of a default that is not shown. -/
theorem publishedDefault_of_hides (h : o.Hides inherited) :
    o.publishedDefault inherited = (.null, []) := by
  obtain ⟨hfalse, htext⟩ := h
  rw [publishedDefault]
  split
  · next t ht => exact absurd ht (htext t)
  · rw [hfalse, if_neg Bool.false_ne_true]

/-- The default of a flag is what is published of the option's. -/
theorem default_of_flag (h : o.flag inherited = .ok f) :
    (f.defaultValue, f.defaultText) = o.publishedDefault inherited ∧ f.kind = o.kind := by
  rw [flag, Except.bind_eq_ok_iff] at h
  obtain ⟨names, -, h⟩ := h
  obtain rfl := Except.ok.inj h
  exact ⟨rfl, rfl⟩

end DeclaredOption

/-! ### Flags -/

/-- **What is shown of a flag that has no default** is nothing, unless the flag is a switch. -/
theorem Flag.defaultDisplay_of_unset {f : Flag} (hvalue : f.defaultValue = .null)
    (htext : f.defaultText = []) :
    f.defaultDisplay = if f.kind = .switch then "false".toList else [] := by
  rw [defaultDisplay, takesValue, hvalue, htext]
  by_cases hkind : f.kind = .switch
  · rw [hkind]
    rfl
  · rw [if_neg hkind, bne_iff_ne.2 hkind]
    rfl

/-- The cell of the default is empty if and only if there is nothing to show in it. -/
theorem Tabular.defaultCell_eq_nil_iff {v : FlagView} : defaultCell v = [] ↔ v.default = [] := by
  rw [defaultCell]
  split
  · next h => simpa using h
  · next h => simpa [code] using h

/-- The flags of a command are made of its options, one of each and in their order. -/
theorem CommandDetails.flag_of_ofDeclared {name : Text} {d : DeclaredDetails} {showDefault : Value}
    {b : CommandDetails} (h : ofDeclared name d showDefault = .ok b) {j : Nat} {o : DeclaredOption}
    (ho : (d.parameters.filterMap DeclaredParameter.option?)[j]? = some o) :
    ∃ f, b.flags[j]? = some f ∧ o.flag showDefault = .ok f := by
  rw [ofDeclared, Except.bind_eq_ok_iff] at h
  obtain ⟨flags, hflags, h⟩ := h
  obtain rfl := Except.ok.inj h
  rw [Except.mapM_eq_ok_iff, List.forall₂_iff_get] at hflags
  obtain ⟨hlen, hflags⟩ := hflags
  obtain ⟨hj, rfl⟩ := List.getElem?_eq_some_iff.1 ho
  exact ⟨_, List.getElem?_eq_getElem (hlen ▸ hj), hflags j hj (hlen ▸ hj)⟩

/-! ### Trees -/

/-- **A default that help does not show is shown in no document**, unless the option is a switch. At
a place of a tree that is made of a declaration, let an option be one whose default is not shown:
the setting for it (its own, or else that of the nearest command on the way to the root which
declares one) is null, false, zero or empty. Then its flag, which stands at the same number among
the flags of the command, shows no default and has an empty cell. A switch shows `false` instead,
whatever its default is. -/
theorem Command.defaultCell_of_hides {asked : Text} {c d : Declaration} {t : Command}
    {p : List Nat} {j : Nat} {o : DeclaredOption} (ht : ofDeclaration asked c = .ok t)
    (hd : c.at? p = some d)
    (ho : (d.details.parameters.filterMap DeclaredParameter.option?)[j]? = some o)
    (hides : o.Hides (c.settingAt p)) :
    ∃ b f, t.at? p = some b ∧ b.details.flags[j]? = some f ∧
      (FlagView.ofFlag f).default = f.defaultDisplay ∧
      (f.defaultDisplay = [] ↔ ¬ o.IsSwitch) ∧
      (Tabular.defaultCell (FlagView.ofFlag f) = [] ↔ ¬ o.IsSwitch) ∧
      (o.IsSwitch → f.defaultDisplay = "false".toList) := by
  rw [ofDeclaration_eq_tree] at ht
  obtain ⟨s, hs, rfl, hsetting : s.showDefault = c.settingAt p⟩ :=
    Registered.exists_of_at? (r := asRoot asked c) hd
  have hplace := Registered.rel_at? ht p
  rw [hs] at hplace
  cases hb : t.at? p with
  | none => rw [hb] at hplace; cases hplace
  | some b =>
    rw [hb] at hplace
    cases hplace with
    | some hdetails =>
      obtain ⟨f, hf, hflag⟩ := CommandDetails.flag_of_ofDeclared hdetails ho
      obtain ⟨hpublished, hkind⟩ := DeclaredOption.default_of_flag hflag
      rw [hsetting, DeclaredOption.publishedDefault_of_hides hides, Prod.mk.injEq] at hpublished
      have hshown := Flag.defaultDisplay_of_unset hpublished.1 hpublished.2
      rw [hkind] at hshown
      simp only [DeclaredOption.kind_eq_switch_iff] at hshown
      have hempty : f.defaultDisplay = [] ↔ ¬ o.IsSwitch := by
        rw [hshown]
        split
        · next hswitch => simp [hswitch]
        · next hswitch => simp [hswitch]
      refine ⟨b, f, rfl, hf, rfl, hempty, Tabular.defaultCell_eq_nil_iff.trans hempty, ?_⟩
      intro hswitch
      rw [hshown, if_pos hswitch]

/-- The root shows defaults and the group does not, so that nothing is shown of an option of several
truth values there. -/
theorem Command.defaultCell_of_hides_of_several :
    let colors : DeclaredOption :=
      { spellings := ["--color".toList], type := .bool, isMultiple := true,
        defaultValue := some (.list [.bool true]) }
    let group : Declaration :=
      .mk { showDefault := some (.bool false), parameters := [.argument {}, .option colors] } []
    let root : Declaration := .mk { showDefault := some (.bool true) } [("group".toList, group)]
    colors.Hides (root.settingAt [0]) ∧ ∃ t b f, ofDeclaration [] root = .ok t ∧
      t.at? [0] = some b ∧ b.details.flags[0]? = some f ∧ f.defaultDisplay = [] ∧
      Tabular.defaultCell (FlagView.ofFlag f) = [] := by
  intro colors group root
  have hides : colors.Hides (root.settingAt [0]) := ⟨rfl, fun t ht => by cases ht⟩
  obtain ⟨t, ht⟩ : ∃ t, ofDeclaration [] root = .ok t :=
    ⟨_, (ofDeclaration_eq_tree [] root).trans rfl⟩
  obtain ⟨b, f, hb, hf, -, hdisplay, hcell, -⟩ :=
    defaultCell_of_hides (p := [0]) (j := 0) (o := colors) ht rfl rfl hides
  have hvalue : ¬ colors.IsSwitch := by decide
  exact ⟨hides, t, b, f, ht, hb, hf, hdisplay.2 hvalue, hcell.2 hvalue⟩

/-- A switch that is on unless it is turned off, and whose default help does not show, is documented
as one that is off. -/
theorem Command.defaultCell_of_hidden_switch :
    let force : DeclaredOption :=
      { spellings := ["--force".toList], type := .bool, isFlag := true,
        defaultValue := some (.bool true), showDefault := .bool false }
    let root : Declaration := .mk { parameters := [.option force] } []
    force.Hides (root.settingAt []) ∧ ∃ t f, ofDeclaration [] root = .ok t ∧
      t.details.flags[0]? = some f ∧ f.defaultDisplay = "false".toList ∧
      (FlagView.ofFlag f).default = "false".toList ∧
      Tabular.defaultCell (FlagView.ofFlag f) = "`false`".toList := by
  intro force root
  refine ⟨⟨rfl, fun t ht => by cases ht⟩, _, _, (ofDeclaration_eq_tree [] root).trans rfl, rfl, ?_⟩
  exact ⟨by decide, by decide, by decide⟩

end CommandManual
