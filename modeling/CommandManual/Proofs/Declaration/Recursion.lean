import CommandManual.Declaration.Command
import CommandManual.Proofs.Outcome
import Mathlib.Data.List.Nodup

/-!
# Trees from declarations, by recursion

A tree is made from a worklist, which is not the order of the tree, and what is made is put together
from the numbers of the parents. What comes of it is the tree that recursion makes: each command is
made of its own declaration, with what it inherits, and has those below it in the order of their
registration.

The proof is by induction along the worklist. What it keeps is that the waiting commands have
numbers that are in use, each of them once. So what is made for one of them is not mixed with what
is made for another, and it does not matter which of them comes next.

## Main definitions

* `Declaration.toCommand`, `Declaration.toCommands`: trees by recursion.
* `Declaration.entryAt?`: the declaration at a place, with the name it is registered under.
* `Declaration.settingAt`: the setting that options inherit at a place, which is that of the nearest
  command that declares one.
* `Command.at?`, `Command.IsOfEntry`: the command at a place in a tree, and what is made of an
  entry.
* `Registered`: a command with its name and what it inherits; `Registered.at?` looks one up.
* `Waiting`: the invariant of the worklist.

## Main results

* `Registered.map_at?`: what is inherited on the way to a place is what the nearest command
  declares.
* `finish_cases`: what is made for each waiting command.
* `Command.recursion_of_ofDeclaration`: the tree is made by recursion, and which tree it is.

## Implementation notes

The two ways meet the commands in different orders, and the first command that cannot be made ends
either of them. That command need not be the same, but the fault is: all that can be wrong with a
declaration is an option without a name.
-/

namespace Option

variable {α β γ δ : Type} {R : α → β → Prop} {S : γ → β → Prop}

theorem Rel.exists_of_some {a : α} {y : Option β} (h : Option.Rel R (Option.some a) y) :
    ∃ b, y = Option.some b ∧ R a b := by
  cases h with
  | some hab => exact ⟨_, rfl, hab⟩

theorem Rel.of_map_eq {f : α → δ} {g : γ → δ} {x : Option α} {y : Option β} {z : Option γ}
    (h : Option.Rel R x y) (hfg : x.map f = z.map g)
    (hS : ∀ a b c, f a = g c → R a b → S c b) : Option.Rel S z y := by
  cases h with
  | none =>
    rw [Option.map_eq_none_iff.1 hfg.symm]
    exact .none
  | some hab =>
    obtain ⟨c, rfl, hc⟩ := Option.map_eq_some_iff.1 hfg.symm
    exact .some (hS _ _ _ hc.symm hab)

theorem Rel.map_eq_map {f : β → δ} {x : Option α} {y z : Option β} (hy : Option.Rel R x y)
    (hz : Option.Rel R x z) (hf : ∀ a b c, R a b → R a c → f b = f c) : y.map f = z.map f := by
  cases hy with
  | none => cases hz; rfl
  | some hab =>
    cases hz with
    | some hac => exact congrArg Option.some (hf _ _ _ hab hac)

end Option

namespace CommandManual

/-! ### Trees by recursion -/

mutual

/-- The tree of a declaration under a name, below a command with a setting for its options. -/
def Declaration.toCommand (name : Text) (inherited : Value) :
    Declaration → Except FlagFault Command
  | .mk d cs => do
    let showDefault := d.showDefault.getD inherited
    let details ← CommandDetails.ofDeclared name d showDefault
    return .mk details (← Declaration.toCommands showDefault cs)

/-- The trees of some declarations, each under the name that it is registered with. -/
def Declaration.toCommands (inherited : Value) :
    List (Text × Declaration) → Except FlagFault (List Command)
  | [] => .ok []
  | (name, c) :: cs => do
    let t ← c.toCommand name inherited
    return t :: (← Declaration.toCommands inherited cs)

end

namespace Declaration

variable {name : Text} {inherited : Value} {c : Declaration} {t : Command}

theorem toCommands_eq_mapM (inherited : Value) (cs : List (Text × Declaration)) :
    toCommands inherited cs = cs.mapM fun e => e.2.toCommand e.1 inherited := by
  induction cs with
  | nil => rw [toCommands]; rfl
  | cons e cs ih => rw [toCommands, ih, Except.mapM_cons]; rfl

theorem toCommand_eq_bind (name : Text) (inherited : Value) (c : Declaration) :
    c.toCommand name inherited =
      CommandDetails.ofDeclared name c.details (c.details.showDefault.getD inherited) >>=
        fun details => toCommands (c.details.showDefault.getD inherited) c.commands >>= fun ts =>
          .ok (.mk details ts) := by
  cases c
  rw [toCommand]
  rfl

theorem toCommand_eq_ok_iff : c.toCommand name inherited = .ok t ↔
    CommandDetails.ofDeclared name c.details (c.details.showDefault.getD inherited) =
        .ok t.details ∧
      toCommands (c.details.showDefault.getD inherited) c.commands = .ok t.commands := by
  rw [toCommand_eq_bind, Except.bind_eq_ok_iff]
  constructor
  · rintro ⟨details, hdetails, h⟩
    obtain ⟨ts, hts, h⟩ := Except.bind_eq_ok_iff.1 h
    rw [← Except.ok.inj h]
    exact ⟨hdetails, hts⟩
  · rintro ⟨hdetails, hts⟩
    refine ⟨t.details, hdetails, Except.bind_eq_ok_iff.2 ⟨t.commands, hts, ?_⟩⟩
    cases t
    rfl

end Declaration

/-! ### Places -/

namespace Declaration

/-- The declaration at a place, with the name that it is registered under. The root is not
registered and has the name that is given. -/
def entryAt? : Text → Declaration → List Nat → Option (Text × Declaration)
  | name, c, [] => some (name, c)
  | _, c, i :: p => c.commands[i]?.bind fun e => entryAt? e.1 e.2 p

/-- The declaration at a place. -/
def at? : Declaration → List Nat → Option Declaration
  | c, [] => some c
  | c, i :: p => c.commands[i]?.bind (·.2.at? p)

theorem map_snd_entryAt? (name : Text) (c : Declaration) (p : List Nat) :
    (c.entryAt? name p).map (·.2) = c.at? p := by
  induction p generalizing name c with
  | nil => rfl
  | cons i p ih =>
    rw [entryAt?, at?, Option.map_bind]
    exact congrArg (c.commands[i]?.bind ·) (funext fun e => ih e.1 e.2)

/-- The declarations on the way to a place, the root first. -/
def wayTo : Declaration → List Nat → List Declaration
  | c, [] => [c]
  | c, i :: p => c :: ((c.commands[i]?.map (·.2.wayTo p)).getD [])

/-- The setting that options inherit at a place: that of the nearest command on the way from there
to the root which declares one, or null. -/
def settingAt (c : Declaration) (p : List Nat) : Value :=
  ((c.wayTo p).reverse.findSome? (·.details.showDefault)).getD .null

end Declaration

/-- The command at a place in a tree. -/
def Command.at? : Command → List Nat → Option Command
  | c, [] => some c
  | c, i :: p => c.commands[i]?.bind (·.at? p)

/-- Trees with the same places and the same details at each of them are the same. -/
theorem Command.eq_of_forall_at? : ∀ {s t : Command},
    (∀ p, (s.at? p).map (·.details) = (t.at? p).map (·.details)) → s = t
  | .mk d cs, .mk e ds, h => by
    have hroot : d = e := Option.some.inj (h [])
    have hbelow : cs = ds := by
      refine List.ext_getElem? fun i => ?_
      have hi (p : List Nat) : (cs[i]?.bind (·.at? p)).map (·.details) =
          (ds[i]?.bind (·.at? p)).map (·.details) := h (i :: p)
      cases hc : cs[i]? with
      | none =>
        cases hb : ds[i]? with
        | none => rfl
        | some b => have := hi []; rw [hc, hb] at this; cases this
      | some c =>
        cases hb : ds[i]? with
        | none => have := hi []; rw [hc, hb] at this; cases this
        | some b =>
          rw [hc, hb] at hi
          have hmem : c ∈ cs := List.mem_of_getElem? hc
          exact congrArg some (eq_of_forall_at? hi)
    rw [hroot, hbelow]
  termination_by s => s
  decreasing_by
    have := List.sizeOf_lt_of_mem hmem
    simp only [mk.sizeOf_spec]
    omega

/-- A command has the name of its entry, and is otherwise what is said about the declaration there
if its options inherit a setting. -/
structure Command.IsOfEntry (setting : Value) (e : Text × Declaration) (b : Command) : Prop where
  name : b.name = e.1
  details : CommandDetails.ofDeclared e.1 e.2.details setting = .ok b.details

theorem CommandDetails.name_of_ofDeclared {name : Text} {d : DeclaredDetails} {setting : Value}
    {b : CommandDetails} (h : ofDeclared name d setting = .ok b) : b.name = name := by
  rw [ofDeclared, Except.bind_eq_ok_iff] at h
  obtain ⟨flags, -, h⟩ := h
  rw [← Except.ok.inj h]

/-! ### Registered commands -/

/-- A command under the name that it is registered with. -/
structure Registered where
  name : Text
  declaration : Declaration
  /-- What holds for the options of the command above. -/
  inherited : Value

namespace Registered

/-- Whether help shows the defaults of the command's options: what the command declares, or else
what holds for the command above. -/
def showDefault (r : Registered) : Value :=
  r.declaration.details.showDefault.getD r.inherited

/-- What is said about the command. -/
def details (r : Registered) : Except FlagFault CommandDetails :=
  CommandDetails.ofDeclared r.name r.declaration.details r.showDefault

/-- A command directly below, by its number in the order of registration. -/
def child? (r : Registered) (i : Nat) : Option Registered :=
  r.declaration.commands[i]?.map fun e => ⟨e.1, e.2, r.showDefault⟩

/-- The command at a place below a command. -/
def at? : Registered → List Nat → Option Registered
  | r, [] => some r
  | r, i :: p => (r.child? i).bind (·.at? p)

/-- The tree of the command. -/
def tree (r : Registered) : Except FlagFault Command :=
  r.declaration.toCommand r.name r.inherited

end Registered

namespace Registered

/-- The trees directly below a tree are those of the commands directly below. -/
theorem rel_child? {r : Registered} {t : Command} (h : r.tree = .ok t) (i : Nat) :
    Option.Rel (fun s b => s.tree = .ok b) (r.child? i) t.commands[i]? := by
  have hts := (Declaration.toCommand_eq_ok_iff.1 h).2
  rw [Declaration.toCommands_eq_mapM, Except.mapM_eq_ok_iff, List.forall₂_iff_get] at hts
  obtain ⟨hlen, hts⟩ := hts
  rw [child?]
  by_cases hi : i < r.declaration.commands.length
  · have hi' : i < t.commands.length := hlen ▸ hi
    rw [List.getElem?_eq_getElem hi, List.getElem?_eq_getElem hi', Option.map_some]
    exact .some (hts i hi hi')
  · rw [List.getElem?_eq_none (Nat.le_of_not_lt hi),
      List.getElem?_eq_none (Nat.le_of_not_lt (hlen ▸ hi))]
    exact .none

/-- What is registered at a place is the entry there, and its setting is that of the nearest command
on the way to the root which declares one. -/
theorem map_at? (r : Registered) (p : List Nat) :
    (r.at? p).map (fun s => ((s.name, s.declaration), s.showDefault)) =
      (r.declaration.entryAt? r.name p).map fun e => (e,
        ((r.declaration.wayTo p).reverse.findSome? (·.details.showDefault)).getD r.inherited) := by
  induction p generalizing r with
  | nil =>
    rw [at?, Declaration.entryAt?, Declaration.wayTo, List.reverse_singleton,
      List.findSome?_singleton]
    rfl
  | cons i p ih =>
    rw [at?, child?, Declaration.entryAt?, Declaration.wayTo]
    cases he : r.declaration.commands[i]? with
    | none => rfl
    | some e =>
      rw [List.reverse_cons, List.findSome?_append, List.findSome?_singleton, Option.getD_or]
      exact ih ⟨e.1, e.2, r.showDefault⟩

/-- A tree has the same places as what is registered, and its commands are what is said about those
that are registered there. -/
theorem rel_at? {r : Registered} {t : Command} (h : r.tree = .ok t) (p : List Nat) :
    Option.Rel (fun s b => s.details = .ok b.details) (r.at? p) (t.at? p) := by
  induction p generalizing r t with
  | nil => exact .some (Declaration.toCommand_eq_ok_iff.1 h).1
  | cons i p ih =>
    have hi := rel_child? h i
    rw [at?, Command.at?]
    cases hs : r.child? i with
    | none =>
      cases hb : t.commands[i]? with
      | none => exact .none
      | some b => rw [hs, hb] at hi; cases hi
    | some s =>
      cases hb : t.commands[i]? with
      | none => rw [hs, hb] at hi; cases hi
      | some b =>
        rw [hs, hb] at hi
        cases hi with
        | some hsb => exact ih hsb

theorem tree_eq_bind (r : Registered) :
    r.tree = r.details >>= fun details =>
      Declaration.toCommands r.showDefault r.declaration.commands >>= fun ts =>
        .ok (.mk details ts) :=
  Declaration.toCommand_eq_bind ..

end Registered

/-! ### Faults -/

mutual

/-- A tree that cannot be made has a command that cannot be made. -/
theorem Registered.exists_of_tree_eq_error {f : FlagFault} : ∀ (name : Text) (inherited : Value)
    (c : Declaration), c.toCommand name inherited = .error f →
      ∃ p r, (Registered.mk name c inherited).at? p = some r ∧ r.details = .error f
  | name, inherited, .mk d cs, h => by
    rw [Declaration.toCommand_eq_bind] at h
    cases hdetails : CommandDetails.ofDeclared name d (d.showDefault.getD inherited) with
    | error g =>
      rw [Declaration.details_mk, hdetails, Except.error_bind] at h
      exact ⟨[], _, rfl, hdetails.trans (congrArg Except.error (Except.error.inj h))⟩
    | ok details =>
      rw [Declaration.details_mk, Declaration.commands_mk, hdetails, Except.ok_bind] at h
      cases hts : Declaration.toCommands (d.showDefault.getD inherited) cs with
      | ok ts => rw [hts, Except.ok_bind] at h; cases h
      | error g =>
        rw [hts, Except.error_bind] at h
        obtain ⟨i, e, p, r, hi, hr, hf⟩ :=
          exists_of_toCommands_eq_error (d.showDefault.getD inherited) cs
            (hts.trans (congrArg Except.error (Except.error.inj h)))
        refine ⟨i :: p, r, ?_, hf⟩
        rw [Registered.at?, Registered.child?, Declaration.commands_mk, hi]
        exact hr

theorem exists_of_toCommands_eq_error {f : FlagFault} : ∀ (inherited : Value)
    (cs : List (Text × Declaration)), Declaration.toCommands inherited cs = .error f →
      ∃ (i : Nat) (e : Text × Declaration) (p : List Nat) (r : Registered), cs[i]? = some e ∧
        (Registered.mk e.1 e.2 inherited).at? p = some r ∧ r.details = .error f
  | _, [], h => by rw [Declaration.toCommands] at h; cases h
  | inherited, (name, c) :: cs, h => by
    rw [Declaration.toCommands] at h
    cases ht : c.toCommand name inherited with
    | error g =>
      rw [ht, Except.error_bind] at h
      obtain ⟨p, r, hr, hf⟩ := Registered.exists_of_tree_eq_error name inherited c
        (ht.trans (congrArg Except.error (Except.error.inj h)))
      exact ⟨0, (name, c), p, r, rfl, hr, hf⟩
    | ok t =>
      rw [ht, Except.ok_bind] at h
      cases hts : Declaration.toCommands inherited cs with
      | ok ts => rw [hts, Except.ok_bind] at h; cases h
      | error g =>
        rw [hts, Except.error_bind] at h
        obtain ⟨i, e, p, r, hi, hr⟩ := exists_of_toCommands_eq_error inherited cs
          (hts.trans (congrArg Except.error (Except.error.inj h)))
        exact ⟨i + 1, e, p, r, hi, hr⟩

end

/-- All that can be wrong with an option is that it has no name. -/
theorem DeclaredOption.eq_nameless_of_flag {o : DeclaredOption} {inherited : Value} {f : FlagFault}
    (h : o.flag inherited = .error f) : f = .nameless := by
  rw [flag, FlagNames.ofList] at h
  cases hnames : FlagNames.ofList? o.names with
  | none => rw [hnames] at h; exact (Except.error.inj h).symm
  | some ns => rw [hnames] at h; cases h

/-- All that can be wrong with a command is an option that has no name. -/
theorem CommandDetails.eq_nameless_of_ofDeclared {name : Text} {d : DeclaredDetails}
    {showDefault : Value} {f : FlagFault} (h : ofDeclared name d showDefault = .error f) :
    f = .nameless := by
  rw [ofDeclared] at h
  cases hflags : (d.parameters.filterMap DeclaredParameter.option?).mapM (·.flag showDefault) with
  | ok flags => rw [hflags] at h; cases h
  | error g =>
    rw [hflags] at h
    obtain ⟨o, -, ho⟩ := Except.exists_of_mapM_eq_error hflags
    rw [← Except.error.inj h]
    exact DeclaredOption.eq_nameless_of_flag ho

theorem Declaration.eq_nameless_of_toCommands {inherited : Value} {cs : List (Text × Declaration)}
    {f : FlagFault} (h : toCommands inherited cs = .error f) : f = .nameless := by
  obtain ⟨i, e, p, r, -, -, hf⟩ := exists_of_toCommands_eq_error inherited cs h
  exact CommandDetails.eq_nameless_of_ofDeclared hf

/-! ### The worklist -/

namespace Unfinished

/-- The trees directly below. -/
def commands (u : Unfinished) : Except FlagFault (List Command) :=
  Declaration.toCommands u.showDefault u.declaration.commands

theorem mem_below {u v : Unfinished} {n : Nat} : v ∈ u.below n ↔ ∃ i e,
    u.declaration.commands[i]? = some e ∧
      v = ⟨n + i, e.2, e.2.details.passedOn u.showDefault⟩ := by
  rw [below, List.mem_map]
  constructor
  · rintro ⟨⟨e, j⟩, he, rfl⟩
    obtain ⟨hj, he⟩ := List.mk_mem_zipIdx_iff_le_and_getElem?_sub.1 he
    exact ⟨j - n, e, he, by rw [Nat.add_sub_cancel' hj]⟩
  · rintro ⟨i, e, he, rfl⟩
    exact ⟨(e, n + i), List.mk_mem_zipIdx_iff_le_and_getElem?_sub.2
      ⟨Nat.le_add_right .., by rw [Nat.add_sub_cancel_left, he]⟩, rfl⟩

theorem map_number_below (u : Unfinished) (n : Nat) :
    (u.below n).map (·.number) = List.range' n u.declaration.commands.length := by
  rw [below, List.map_map]
  exact List.zipIdx_map_snd ..

end Unfinished

/-- What waits has numbers that are in use, each of them once. -/
structure Waiting (n : Nat) (us : List Unfinished) : Prop where
  lt : ∀ u ∈ us, u.number < n
  nodup : (us.map (·.number)).Nodup

/-- **The next step keeps the numbers apart.** -/
theorem Waiting.next {n : Nat} {u : Unfinished} {us : List Unfinished} (h : Waiting n (u :: us)) :
    Waiting (n + u.declaration.commands.length) ((u.below n).reverse ++ us) := by
  have hlt := h.lt
  have hnodup := h.nodup
  rw [List.forall_mem_cons] at hlt
  rw [List.map_cons, List.nodup_cons] at hnodup
  constructor
  · intro v hv
    rcases List.mem_append.1 hv with hv | hv
    · obtain ⟨i, e, he, rfl⟩ := Unfinished.mem_below.1 (List.mem_reverse.1 hv)
      have hi := (List.getElem?_eq_some_iff.1 he).1
      exact Nat.add_lt_add_left hi n
    · exact Nat.lt_add_right _ (hlt.2 v hv)
  · rw [List.map_append, List.map_reverse, Unfinished.map_number_below, List.nodup_append]
    refine ⟨List.nodup_reverse.2 List.nodup_range', hnodup.2, fun i hi j hj => ?_⟩
    obtain ⟨v, hv, rfl⟩ := List.mem_map.1 hj
    have hle := (List.mem_range'_1.1 (List.mem_reverse.1 hi)).1
    exact Nat.ne_of_gt (Nat.lt_of_lt_of_le (hlt.2 v hv) hle)

/-- The trees below a command are made if what is said about each of them is, and if what is below
them is. -/
theorem Unfinished.commands_eq_ok {u : Unfinished} {n : Nat} {ds : List CommandDetails}
    {made : Nat → List Command} (hds : u.details = .ok ds)
    (hbelow : ∀ v ∈ u.below n, v.commands = .ok (made v.number)) :
    u.commands = .ok ((ds.zipIdx n).map fun (d, i) => .mk d (made i)) := by
  rw [details, Except.mapM_eq_ok_iff, List.forall₂_iff_get] at hds
  obtain ⟨hlen, hds⟩ := hds
  rw [commands, Declaration.toCommands_eq_mapM, Except.mapM_eq_ok_iff, List.forall₂_iff_get]
  refine ⟨by rw [List.length_map, List.length_zipIdx, hlen], fun i hi hi' => ?_⟩
  have hv := hbelow _ (mem_below.2 ⟨i, _, List.getElem?_eq_getElem hi, rfl⟩)
  rw [List.get_eq_getElem, List.get_eq_getElem, List.getElem_map, List.getElem_zipIdx]
  exact Declaration.toCommand_eq_ok_iff.2 ⟨hds i hi (hlen ▸ hi), hv⟩

/-- The trees below a command cannot be made if something is wrong with one of the commands there or
with what is below it. -/
theorem Unfinished.commands_eq_error {u : Unfinished} {n : Nat} {f : FlagFault}
    (h : u.details = .error f ∨ ∃ v ∈ u.below n, v.commands = .error f) :
    u.commands = .error f := by
  cases hts : u.commands with
  | error g =>
    have hf : f = .nameless := by
      rcases h with h | ⟨v, -, h⟩
      · obtain ⟨e, -, he⟩ := Except.exists_of_mapM_eq_error h
        exact CommandDetails.eq_nameless_of_ofDeclared he
      · exact Declaration.eq_nameless_of_toCommands h
    rw [hf, Declaration.eq_nameless_of_toCommands hts]
  | ok ts =>
    rw [commands, Declaration.toCommands_eq_mapM, Except.mapM_eq_ok_iff,
      List.forall₂_iff_get] at hts
    obtain ⟨hlen, hts⟩ := hts
    rcases h with h | ⟨v, hv, h⟩
    · obtain ⟨e, he, hf⟩ := Except.exists_of_mapM_eq_error h
      obtain ⟨i, hi, rfl⟩ := List.getElem_of_mem he
      have ht := Declaration.toCommand_eq_ok_iff.1 (hts i hi (hlen ▸ hi))
      exact absurd (hf.symm.trans ht.1) (by simp)
    · obtain ⟨i, e, he, rfl⟩ := mem_below.1 hv
      obtain ⟨hi, rfl⟩ := List.getElem?_eq_some_iff.1 he
      have ht := Declaration.toCommand_eq_ok_iff.1 (hts i hi (hlen ▸ hi))
      exact absurd (h.symm.trans ht.2) (by simp)

/-- **What is made for each waiting command** is what recursion makes of it, and there is nothing
below a number that no command waits with. -/
theorem finish_cases {n : Nat} {us : List Unfinished} (h : Waiting n us) :
    (∃ f, finish n us = .error f ∧ ∃ u ∈ us, u.commands = .error f) ∨
    ∃ os, finish n us = .ok os ∧
      (∀ u ∈ us, u.commands = .ok ((Offspring.grow .mk n os).below u.number)) ∧
      ∀ p < n, (∀ u ∈ us, u.number ≠ p) → (Offspring.grow Command.mk n os).below p = [] := by
  fun_induction finish n us with
  | case1 n => exact .inr ⟨[], rfl, by simp, fun _ _ _ => rfl⟩
  | case2 n u us ih =>
    have hlt := h.lt
    have hnodup := h.nodup
    rw [List.forall_mem_cons] at hlt
    rw [List.map_cons, List.nodup_cons] at hnodup
    cases hds : u.details with
    | error f =>
      exact .inl ⟨f, rfl, u, List.mem_cons_self, Unfinished.commands_eq_error (n := n) (.inl hds)⟩
    | ok ds =>
      have hlen : u.declaration.commands.length = ds.length :=
        (Except.mapM_eq_ok_iff.1 hds).length_eq
      rcases ih h.next with ⟨f, hf, v, hv, hvf⟩ | ⟨os, hos, hmade, hnone⟩
      · refine .inl ⟨f, by rw [hf]; rfl, ?_⟩
        rcases List.mem_append.1 hv with hv | hv
        · exact ⟨u, List.mem_cons_self,
            Unfinished.commands_eq_error (.inr ⟨v, List.mem_reverse.1 hv, hvf⟩)⟩
        · exact ⟨v, List.mem_cons_of_mem _ hv, hvf⟩
      · have hus : ∀ v ∈ us, v.number ≠ u.number := fun v hv he =>
          hnodup.1 (List.mem_map.2 ⟨v, hv, he⟩)
        have hempty {p : Nat} (hp : p < n) (hne : ∀ v ∈ us, v.number ≠ p) :
            (Offspring.grow Command.mk (n + ds.length) os).below p = [] := by
          rw [← hlen]
          refine hnone p (Nat.lt_add_right _ hp) fun v hv => ?_
          rcases List.mem_append.1 hv with hv | hv
          · obtain ⟨i, e, -, rfl⟩ := Unfinished.mem_below.1 (List.mem_reverse.1 hv)
            exact Nat.ne_of_gt (Nat.lt_of_lt_of_le hp (Nat.le_add_right n i))
          · exact hne v hv
        have hpassed {p : Nat} (hp : u.number ≠ p) :
            (Offspring.grow Command.mk n (ds.map (⟨·, u.number⟩) ++ os)).below p =
              (Offspring.grow Command.mk (n + ds.length) os).below p := by
          rw [Offspring.below_grow_append_of_forall_ne (by simpa using fun _ _ => hp),
            List.length_map]
        rw [hlen] at hmade
        refine .inr ⟨_, by rw [hos]; rfl, List.forall_mem_cons.2 ⟨?_, fun v hv => ?_⟩,
          fun p hp hne => ?_⟩
        · rw [Offspring.below_grow_map_append hlt.1, hempty hlt.1 hus, List.append_nil]
          exact Unfinished.commands_eq_ok hds fun v hv =>
            hmade v (List.mem_append_left _ (List.mem_reverse.2 hv))
        · rw [hpassed (hus v hv).symm]
          exact hmade v (List.mem_append_right _ hv)
        · rw [List.forall_mem_cons] at hne
          rw [hpassed hne.1, hempty hp hne.2]

/-! ### The tree of a declaration -/

namespace Command

/-- A declaration as the root of a tree. -/
def asRoot (asked : Text) (c : Declaration) : Registered :=
  ⟨Text.firstGiven [asked, c.details.name, "cli".toList], c, .null⟩

/-- **The worklist makes the tree that recursion makes.** -/
theorem ofDeclaration_eq_tree (asked : Text) (c : Declaration) :
    ofDeclaration asked c = (asRoot asked c).tree := by
  have hwaiting : Waiting 1 [⟨0, c, c.details.passedOn .null⟩] := ⟨by simp, by simp⟩
  rw [ofDeclaration, Registered.tree_eq_bind]
  refine congrArg (Bind.bind _) (funext fun details => ?_)
  rcases finish_cases hwaiting with ⟨f, hf, u, hu, hts⟩ | ⟨os, hos, hts, -⟩
  · obtain rfl := List.mem_singleton.1 hu
    rw [hf]
    exact congrArg (· >>= _) hts.symm
  · rw [hos]
    exact congrArg (· >>= fun ts => .ok (mk details ts)) (hts _ (List.mem_singleton.2 rfl)).symm

variable {asked : Text} {c : Declaration}

/-- A declaration that can be converted gives each command what is said about the entry at its
place, and all entries are there. -/
theorem rel_entryAt? {t : Command} (h : ofDeclaration asked c = .ok t) (p : List Nat) :
    Option.Rel (fun e b => b.IsOfEntry (c.settingAt p) e)
      (c.entryAt? (asRoot asked c).name p) (t.at? p) := by
  rw [ofDeclaration_eq_tree] at h
  refine (Registered.rel_at? h p).of_map_eq ((asRoot asked c).map_at? p) fun r b e hre hb => ?_
  obtain ⟨rfl, hsetting⟩ := Prod.mk.inj hre
  have hdetails : CommandDetails.ofDeclared r.name r.declaration.details (c.settingAt p) =
      .ok b.details := by
    rw [← hb, Registered.details, hsetting]
    rfl
  exact ⟨CommandDetails.name_of_ofDeclared hdetails, hdetails⟩

/-- A declaration cannot be converted if and only if the entry at some place cannot. -/
theorem ofDeclaration_eq_error_iff {f : FlagFault} : ofDeclaration asked c = .error f ↔
    ∃ p e, c.entryAt? (asRoot asked c).name p = some e ∧
      CommandDetails.ofDeclared e.1 e.2.details (c.settingAt p) = .error f := by
  have hof {g : FlagFault} (h : ofDeclaration asked c = .error g) :
      ∃ p e, c.entryAt? (asRoot asked c).name p = some e ∧
        CommandDetails.ofDeclared e.1 e.2.details (c.settingAt p) = .error g := by
    rw [ofDeclaration_eq_tree] at h
    obtain ⟨p, s, hs, hf⟩ := Registered.exists_of_tree_eq_error _ _ _ h
    have hentry := (asRoot asked c).map_at? p
    rw [show (asRoot asked c).at? p = some s from hs] at hentry
    obtain ⟨e, he, hse⟩ := Option.map_eq_some_iff.1 hentry.symm
    obtain ⟨rfl, hsetting⟩ := Prod.mk.inj hse
    refine ⟨p, _, he, ?_⟩
    rw [← hf, Registered.details, ← hsetting]
    rfl
  refine ⟨hof, fun ⟨p, e, he, hf⟩ => ?_⟩
  cases h : ofDeclaration asked c with
  | ok t =>
    obtain ⟨b, -, hb⟩ := (he ▸ rel_entryAt? h p).exists_of_some
    exact absurd (hf.symm.trans hb.details) (by simp)
  | error g =>
    obtain ⟨q, e', -, hg⟩ := hof h
    rw [CommandDetails.eq_nameless_of_ofDeclared hf, CommandDetails.eq_nameless_of_ofDeclared hg]

/-- **The tree of a declaration is the one that recursion makes**, and it is known place by place. A
tree is the one that is made if and only if it has the same places as the declaration, and has at
each of them the command that is registered there: under the name of its registration (the root has
the name that was asked for, its own, or `cli`), converted with the setting that the nearest command
on the way to the root declares, itself included. There is no tree if and only if one of the
commands cannot be converted. -/
theorem recursion_of_ofDeclaration (asked : Text) (c : Declaration) :
    let name := Text.firstGiven [asked, c.details.name, "cli".toList]
    ofDeclaration asked c = c.toCommand name .null ∧
    (∀ t, ofDeclaration asked c = .ok t ↔ ∀ p,
      Option.Rel (fun e b => b.IsOfEntry (c.settingAt p) e) (c.entryAt? name p) (t.at? p)) ∧
    ∀ f, ofDeclaration asked c = .error f ↔ ∃ p e, c.entryAt? name p = some e ∧
      CommandDetails.ofDeclared e.1 e.2.details (c.settingAt p) = .error f := by
  refine ⟨ofDeclaration_eq_tree asked c, fun t => ⟨rel_entryAt?, fun h => ?_⟩,
    fun f => ofDeclaration_eq_error_iff⟩
  cases hmade : ofDeclaration asked c with
  | ok t' =>
    refine congrArg Except.ok (eq_of_forall_at? fun p => ?_)
    refine (rel_entryAt? hmade p).map_eq_map (h p) fun e a b ha hb => ?_
    exact Except.ok.inj (ha.details.symm.trans hb.details)
  | error f =>
    obtain ⟨p, e, he, hf⟩ := ofDeclaration_eq_error_iff.1 hmade
    obtain ⟨b, -, hb⟩ := (he ▸ h p).exists_of_some
    exact absurd (hf.symm.trans hb.details) (by simp)

/-- A command two levels below the one that shows defaults shows them too, unless the group between
them declares null. Its name is that of its registration. -/
example (setting : Option Value) :
    let level : DeclaredOption :=
      { spellings := ["--level".toList], defaultValue := some (.int 3) }
    let run : Declaration := .mk { name := "run".toList, parameters := [.option level] } []
    let group : Declaration := .mk { showDefault := setting } [("start".toList, run)]
    let root : Declaration := .mk { showDefault := some (.bool true) } [("group".toList, group)]
    setting = none ∨ setting = some .null → ∃ t b, ofDeclaration [] root = .ok t ∧
      t.at? [0, 0] = some b ∧ b.name = "start".toList ∧
      b.details.flags.map (·.defaultValue) = [if setting = none then .int 3 else .null] := by
  intro level run group root h
  rcases h with rfl | rfl
  · exact ⟨_, _, (ofDeclaration_eq_tree [] root).trans rfl, rfl, rfl, rfl⟩
  · exact ⟨_, _, (ofDeclaration_eq_tree [] root).trans rfl, rfl, rfl, rfl⟩

end Command

end CommandManual
