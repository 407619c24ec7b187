import CommandManual.Proofs.Declaration.Recursion
import CommandManual.Proofs.Document.Hidden

/-!
# Defaults that are withheld

A declaration has the default of every option, and a manual has those that the program's own help
shows. What the others are makes no difference: a declaration in which one of them is replaced has
the same tree, and so the same documents.

## Main definitions

* `DeclaredOption.Withholds`, `DeclaredOption.IsUnknown`: why a default is not shown.
* `Declaration.setDefault`: a declaration with another default for one option.

## Main results

* `Registered.tree_modifyAt`: a change at one place that changes nothing in the command there.
* `withheld_default_not_shown`: replacing a default that is not shown.
-/

/-- What a function gives for the items of a list is the same after one of them is changed, if it is
the same for that item. -/
theorem List.map_modify_of_forall_eq {α β : Type} {l : List α} {i : Nat} {g : α → α} {f : α → β}
    (h : ∀ a, l[i]? = some a → f (g a) = f a) : (l.modify i g).map f = l.map f := by
  refine List.ext_getElem? fun j => ?_
  rw [List.getElem?_map, List.getElem?_map, List.getElem?_modify]
  by_cases hj : i = j
  · subst hj
    cases ha : l[i]? with
    | none => rfl
    | some a => simpa using h a ha
  · simp [hj]

theorem List.filterMap_modify_of_forall_eq {α β : Type} {l : List α} {i : Nat} {g : α → α}
    {f : α → Option β} (h : ∀ a, l[i]? = some a → f (g a) = f a) :
    (l.modify i g).filterMap f = l.filterMap f := by
  have hid (l : List α) : l.filterMap f = (l.map f).filterMap id := by
    rw [List.filterMap_map]
    rfl
  rw [hid, List.map_modify_of_forall_eq h, ← hid]

namespace CommandManual

/-! ### Options -/

namespace DeclaredOption

variable (o : DeclaredOption) (inherited : Value)

/-- The default is not shown: the setting is null, false, zero or empty, or it is a text that is
shown instead. -/
def Withholds : Prop :=
  (o.effectiveShowDefault inherited).isTruthy = false ∨
    ∃ t, o.effectiveShowDefault inherited = .text t

/-- There is no default, or it is a function, so that it is not known. -/
def IsUnknown : Prop := o.defaultValue = none ∨ o.defaultValue = some .function

variable {o inherited}

/-- A default that is not shown is not published, whatever it is. -/
theorem publishedDefault_of_withholds (h : o.Withholds inherited) (v : Option Value) :
    publishedDefault { o with defaultValue := v } inherited = o.publishedDefault inherited := by
  have hsame : effectiveShowDefault { o with defaultValue := v } inherited =
      o.effectiveShowDefault inherited := rfl
  rw [publishedDefault, publishedDefault, hsame]
  rcases h with h | ⟨t, h⟩
  · split
    · rfl
    · rw [h, if_neg Bool.false_ne_true, if_neg Bool.false_ne_true]
  · rw [h]

/-- Of unknown defaults it does not matter which one it is. -/
theorem publishedDefault_of_isUnknown (h : o.IsUnknown) {v : Option Value}
    (hv : IsUnknown { o with defaultValue := v }) :
    publishedDefault { o with defaultValue := v } inherited = o.publishedDefault inherited := by
  have hknown {o : DeclaredOption} (h : o.IsUnknown) : o.knownDefault = .null := by
    rw [knownDefault]
    rcases h with h | h <;> rw [h]
  have hsame : effectiveShowDefault { o with defaultValue := v } inherited =
      o.effectiveShowDefault inherited := rfl
  rw [publishedDefault, publishedDefault, hsame, hknown h, hknown hv]

/-- The default is in the flag only as far as it is published. -/
theorem flag_withDefault {v : Option Value}
    (h : publishedDefault { o with defaultValue := v } inherited = o.publishedDefault inherited) :
    flag { o with defaultValue := v } inherited = o.flag inherited := by
  rw [flag, flag, h]
  rfl

end DeclaredOption

/-! ### Replacing a default -/

/-- The parameter with another default, if it is an option. -/
def DeclaredParameter.setDefault (v : Option Value) : DeclaredParameter → DeclaredParameter
  | .option o => .option { o with defaultValue := v }
  | .argument a => .argument a

/-- The details with another default for one of the parameters. -/
def DeclaredDetails.setDefault (d : DeclaredDetails) (k : Nat) (v : Option Value) :
    DeclaredDetails :=
  { d with parameters := d.parameters.modify k (.setDefault v) }

namespace Declaration

/-- The declaration with the details at one place changed. -/
def modifyAt (f : DeclaredDetails → DeclaredDetails) : List Nat → Declaration → Declaration
  | [], .mk d cs => .mk (f d) cs
  | i :: p, .mk d cs => .mk d (cs.modify i fun e => (e.1, e.2.modifyAt f p))

/-- The declaration with another default for one parameter of the command at a place. -/
def setDefault (c : Declaration) (p : List Nat) (k : Nat) (v : Option Value) : Declaration :=
  c.modifyAt (·.setDefault k v) p

end Declaration

/-! ### The tree -/

namespace CommandDetails

variable {d : DeclaredDetails} {k : Nat} {o : DeclaredOption} {showDefault : Value}
  {v : Option Value}

/-- **A default that is not published is in no details of a command.** -/
theorem ofDeclared_setDefault (hk : d.parameters[k]? = some (.option o))
    (h : DeclaredOption.publishedDefault { o with defaultValue := v } showDefault =
      o.publishedDefault showDefault) (name : Text) :
    ofDeclared name (d.setDefault k v) showDefault = ofDeclared name d showDefault := by
  have hflags : ((d.setDefault k v).parameters.filterMap DeclaredParameter.option?).mapM
        (·.flag showDefault) =
      (d.parameters.filterMap DeclaredParameter.option?).mapM (·.flag showDefault) := by
    refine Except.mapM_congr ?_
    rw [List.map_filterMap, List.map_filterMap]
    refine List.filterMap_modify_of_forall_eq fun a ha => ?_
    obtain rfl := Option.some.inj (hk.symm.trans ha)
    exact congrArg some (DeclaredOption.flag_withDefault h)
  have harguments : argumentsLine (d.setDefault k v).parameters = argumentsLine d.parameters := by
    have hsame : (d.setDefault k v).parameters.filterMap DeclaredParameter.argument? =
        d.parameters.filterMap DeclaredParameter.argument? :=
      List.filterMap_modify_of_forall_eq fun a _ => by cases a <;> rfl
    rw [argumentsLine, hsame, argumentsLine]
  rw [ofDeclared, hflags, harguments, ofDeclared]
  rfl

end CommandDetails

namespace Registered

/-- The command with the details at one place below it changed. -/
def modifyAt (f : DeclaredDetails → DeclaredDetails) (p : List Nat) (r : Registered) :
    Registered :=
  { r with declaration := r.declaration.modifyAt f p }

/-- **A change that changes nothing in the command at its place** changes nothing in the tree, as
long as the command passes on the same setting. -/
theorem tree_modifyAt {f : DeclaredDetails → DeclaredDetails} {p : List Nat} {r s : Registered}
    (hs : r.at? p = some s)
    (hsetting : (f s.declaration.details).showDefault = s.declaration.details.showDefault)
    (hdetails : CommandDetails.ofDeclared s.name (f s.declaration.details) s.showDefault =
      s.details) :
    (r.modifyAt f p).tree = r.tree := by
  induction p generalizing r with
  | nil =>
    obtain rfl := Option.some.inj hs
    obtain ⟨name, ⟨d, cs⟩, inherited⟩ := r
    have hpassed : (f d).passedOn inherited = d.passedOn inherited := by
      rw [DeclaredDetails.passedOn, DeclaredDetails.passedOn]
      exact congrArg (Option.getD · inherited) hsetting
    have hkept : (modifyAt f [] ⟨name, .mk d cs, inherited⟩).showDefault = d.passedOn inherited :=
      hpassed
    rw [tree_eq_bind, tree_eq_bind, details, hkept]
    exact congrArg (· >>= _) hdetails
  | cons i p ih =>
    rw [at?, Option.bind_eq_some_iff] at hs
    obtain ⟨u, hu, hs⟩ := hs
    obtain ⟨name, ⟨d, cs⟩, inherited⟩ := r
    obtain ⟨e, he, rfl⟩ := Option.map_eq_some_iff.1 hu
    have hcommands : Declaration.toCommands (d.passedOn inherited)
          (cs.modify i fun e => (e.1, e.2.modifyAt f p)) =
        Declaration.toCommands (d.passedOn inherited) cs := by
      rw [Declaration.toCommands_eq_mapM, Declaration.toCommands_eq_mapM]
      refine Except.mapM_congr (List.map_modify_of_forall_eq fun a ha => ?_)
      obtain rfl := Option.some.inj (he.symm.trans ha)
      exact ih hs
    rw [tree_eq_bind, tree_eq_bind]
    refine congrArg (Bind.bind _) (funext fun details => ?_)
    exact congrArg (· >>= fun ts => .ok (Command.mk details ts)) hcommands

/-- What is registered at a place is what is declared there, and its setting is that of the nearest
command on the way to the root which declares one. -/
theorem exists_of_at? {r : Registered} {c : Declaration} {p : List Nat}
    (h : r.declaration.at? p = some c) :
    ∃ s, r.at? p = some s ∧ s.declaration = c ∧ s.showDefault =
      ((r.declaration.wayTo p).reverse.findSome? (·.details.showDefault)).getD r.inherited := by
  rw [← Declaration.map_snd_entryAt? r.name, Option.map_eq_some_iff] at h
  obtain ⟨e, he, rfl⟩ := h
  have hs := r.map_at? p
  rw [he, Option.map_some, Option.map_eq_some_iff] at hs
  obtain ⟨s, hs, hse⟩ := hs
  obtain ⟨rfl, hsetting⟩ := Prod.mk.inj hse
  exact ⟨s, hs, rfl, hsetting⟩

end Registered

/-- **Defaults that are not shown make no difference.** In the command at a place of a declaration,
let the default of an option be replaced by any other, or by none. If the setting for the option
(its own, or else that of the nearest command on the way to the root which declares one) is null,
false, zero or empty, or if it is a text, then the tree of the declaration stays the same, and with
it the documents. So it does if both defaults are functions or missing, whatever the setting is. -/
theorem withheld_default_not_shown (asked : Text) {c d : Declaration} {p : List Nat} {k : Nat}
    {o : DeclaredOption} {v : Option Value} (hd : c.at? p = some d)
    (ho : d.details.parameters[k]? = some (.option o))
    (hv : o.Withholds (c.settingAt p) ∨
      o.IsUnknown ∧ DeclaredOption.IsUnknown { o with defaultValue := v }) :
    Command.ofDeclaration asked (c.setDefault p k v) = Command.ofDeclaration asked c ∧
      ∀ t, Command.ofDeclaration asked c = .ok t →
        ∃ t', Command.ofDeclaration asked (c.setDefault p k v) = .ok t' ∧ SameDocuments t' t := by
  have htree : Command.ofDeclaration asked (c.setDefault p k v) =
      Command.ofDeclaration asked c := by
    obtain ⟨s, hs, rfl, hsetting⟩ := Registered.exists_of_at? (r := Command.asRoot asked c) hd
    have hpublished : DeclaredOption.publishedDefault { o with defaultValue := v } s.showDefault =
        o.publishedDefault s.showDefault := by
      rcases hv with hv | ⟨hv, hv'⟩
      · rw [hsetting]
        exact DeclaredOption.publishedDefault_of_withholds hv v
      · exact DeclaredOption.publishedDefault_of_isUnknown hv hv'
    have hname : Command.asRoot asked (c.setDefault p k v) =
        (Command.asRoot asked c).modifyAt (·.setDefault k v) p := by
      have hroot : (c.setDefault p k v).details.name = c.details.name := by
        obtain ⟨e, cs⟩ := c
        cases p <;> rfl
      rw [Command.asRoot, hroot]
      rfl
    rw [Command.ofDeclaration_eq_tree, Command.ofDeclaration_eq_tree, hname]
    exact Registered.tree_modifyAt hs rfl (CommandDetails.ofDeclared_setDefault ho hpublished _)
  exact ⟨htree, fun t ht => ⟨t, htree.trans ht, .of_view fun _ _ => rfl⟩⟩

/-- An option inherits from a command that declares null, although the root shows defaults. -/
theorem withheld_default_not_shown_of_null :
    let key : DeclaredOption :=
      { spellings := ["--key".toList], defaultValue := some (.text "secret".toList) }
    let run : Declaration := .mk { parameters := [.argument {}, .option key] } []
    let group : Declaration := .mk { showDefault := some .null } [("run".toList, run)]
    let root : Declaration := .mk { showDefault := some (.bool true) } [("group".toList, group)]
    root.at? [0, 0] = some run ∧ run.details.parameters[1]? = some (.option key) ∧
      key.Withholds (root.settingAt [0, 0]) ∧
      Command.ofDeclaration [] (root.setDefault [0, 0] 1 (some (.int 1))) =
        Command.ofDeclaration [] root := by
  intro key run group root
  have hrun : root.at? [0, 0] = some run := rfl
  have hkey : run.details.parameters[1]? = some (.option key) := rfl
  have hwithheld : key.Withholds (root.settingAt [0, 0]) := .inl rfl
  exact ⟨hrun, hkey, hwithheld,
    (withheld_default_not_shown [] (v := some (.int 1)) hrun hkey (.inl hwithheld)).1⟩

end CommandManual
