import CommandManual.Proofs.Outcome
import CommandManual.Toml.Value

/-!
# The kinds of values in a TOML text

Values come in more kinds than TOML has. A TOML text gives texts, truth values, numbers, points of
time, lists and tables, and the keys of a table are texts. Reading carries one table along; every
statement leaves it such a table, at every depth.

## Main definitions

* `Toml.IsPlain`: a value of these kinds.

## Main results

* `Toml.readsPlain`: so is every value that is read.
* `Toml.isPlain_statement`: a statement keeps the table plain.
* `Toml.isPlain_read`: the table of a text is plain.
-/

namespace CommandManual

namespace Toml

/-- A value of the kinds that TOML has, in which every table has texts for keys. -/
inductive IsPlain : Value → Prop
  | bool (b : Bool) : IsPlain (.bool b)
  | int (n : Int) : IsPlain (.int n)
  | float (x : Binary64) : IsPlain (.float x)
  | text (t : Text) : IsPlain (.text t)
  | moment (m : Moment) : IsPlain (.moment m)
  | list {vs : List Value} (items : ∀ v ∈ vs, IsPlain v) : IsPlain (.list vs)
  | map {es : Table} (keys : ∀ e ∈ es, e.1.text?.isSome) (values : ∀ e ∈ es, IsPlain e.2) :
      IsPlain (.map es)

namespace IsPlain

variable {t u : Table} {k : Text} {v : Value}

theorem empty : IsPlain (.map []) := .map (List.forall_mem_nil _) (List.forall_mem_nil _)

theorem items {vs : List Value} (h : IsPlain (.list vs)) : ∀ v ∈ vs, IsPlain v := by
  cases h with
  | list items => exact items

theorem keys (h : IsPlain (.map t)) : ∀ e ∈ t, e.1.text?.isSome := by
  cases h with
  | map keys _ => exact keys

theorem values (h : IsPlain (.map t)) : ∀ e ∈ t, IsPlain e.2 := by
  cases h with
  | map _ values => exact values

theorem cons {k : Value} (hk : k.text?.isSome) (hv : IsPlain v) (h : IsPlain (.map t)) :
    IsPlain (.map ((k, v) :: t)) :=
  .map (List.forall_mem_cons.2 ⟨hk, h.keys⟩) (List.forall_mem_cons.2 ⟨hv, h.values⟩)

/-! ### Tables -/

theorem lookup {k : Value} (h : IsPlain (.map t)) (hv : Value.lookup k t = some v) : IsPlain v := by
  induction t with
  | nil => cases hv
  | cons e t ih =>
    obtain ⟨-, hkeys⟩ := List.forall_mem_cons.1 h.keys
    obtain ⟨hvalue, hvalues⟩ := List.forall_mem_cons.1 h.values
    rw [Value.lookup] at hv
    split at hv
    · exact Option.some.inj hv ▸ hvalue
    · exact ih (.map hkeys hvalues) hv

theorem set (h : IsPlain (.map t)) (k : Text) (hv : IsPlain v) : IsPlain (.map (t.set k v)) := by
  rw [Table.set]
  induction t with
  | nil => exact .cons rfl hv .empty
  | cons e t ih =>
    obtain ⟨hkey, hkeys⟩ := List.forall_mem_cons.1 h.keys
    obtain ⟨hvalue, hvalues⟩ := List.forall_mem_cons.1 h.values
    rw [Value.put]
    split
    · exact .cons hkey hv (.map hkeys hvalues)
    · exact .cons hkey hvalue (ih (.map hkeys hvalues))

theorem add (h : IsPlain (.map t)) (hv : IsPlain v) (hu : t.add? k v = some u) :
    IsPlain (.map u) := by
  rw [Table.add?] at hu
  split at hu
  · cases hu
  · exact Option.some.inj hu ▸ h.set k hv

theorem append (h : IsPlain (.map t)) (hu : t.append? k = some u) : IsPlain (.map u) := by
  rw [Table.append?] at hu
  split at hu
  · exact Option.some.inj hu ▸ h.set k (.list (List.forall_mem_singleton.2 .empty))
  · next vs hvs =>
    have hitems : ∀ v ∈ vs ++ [.map []], IsPlain v :=
      List.forall_mem_append.2 ⟨(h.lookup hvs).items, List.forall_mem_singleton.2 .empty⟩
    exact Option.some.inj hu ▸ h.set k (.list hitems)
  · cases hu

theorem changeLast {change : Value → Option Value} {vs ws : List Value}
    (hchange : ∀ v w, IsPlain v → change v = some w → IsPlain w) (h : IsPlain (.list vs))
    (hws : Table.changeLast? change vs = some ws) : IsPlain (.list ws) := by
  induction vs generalizing ws with
  | nil => cases hws
  | cons v vs ih =>
    obtain ⟨hv, hvs⟩ := List.forall_mem_cons.1 h.items
    cases vs with
    | nil =>
      obtain ⟨w, hw, rfl⟩ := Option.map_eq_some_iff.1 hws
      exact .list (List.forall_mem_singleton.2 (hchange v w hv hw))
    | cons v' vs =>
      obtain ⟨ws', hws', rfl⟩ := Option.map_eq_some_iff.1 hws
      exact .list (List.forall_mem_cons.2 ⟨hv, (ih (.list hvs) hws').items⟩)

/-- What keeps plain tables plain does so behind a key as well. -/
theorem within {throughLists : Bool} {change : Table → Option Table} {key : Key}
    (hchange : ∀ t u, IsPlain (.map t) → change t = some u → IsPlain (.map u))
    (h : IsPlain (.map t)) (hu : t.within? throughLists change key = some u) :
    IsPlain (.map u) := by
  induction key generalizing t u with
  | nil => exact hchange t u h hu
  | cons k ks ih =>
    rw [Table.within?] at hu
    split at hu
    · obtain ⟨inner, hinner, rfl⟩ := Option.map_eq_some_iff.1 hu
      exact h.set k (ih .empty hinner)
    · next es hes =>
      obtain ⟨inner, hinner, rfl⟩ := Option.map_eq_some_iff.1 hu
      exact h.set k (ih (h.lookup hes) hinner)
    · next vs hvs =>
      split at hu
      · obtain ⟨ws, hws, rfl⟩ := Option.map_eq_some_iff.1 hu
        refine h.set k (changeLast (fun v w hv hw => ?_) (h.lookup hvs) hws)
        split at hw
        · obtain ⟨inner, hinner, rfl⟩ := Option.map_eq_some_iff.1 hw
          exact ih hv hinner
        · cases hw
      · cases hu
    · cases hu

end IsPlain

/-! ### Values -/

section Values

variable {t rest : Text} {v : Value}

theorem orMalformed_eq_ok_iff {α : Type} {x : Option α} {a : α} :
    orMalformed x = .ok a ↔ x = some a := by
  cases x with
  | none => simp [orMalformed]
  | some b => simp [orMalformed]

theorem isPlain_decimal (h : decimal? t = .ok (some (v, rest))) : IsPlain v := by
  simp only [decimal?] at h
  split at h
  · cases h
  · split at h
    · split at h
      · cases h
      · cases h
        exact .int _
    · cases h
      exact .float _

theorem isPlain_special (h : special? t = some (v, rest)) : IsPlain v := by
  simp only [special?] at h
  split at h
  · cases h
    exact .float _
  · split at h
    · cases h
      exact .float _
    · cases h

theorem isPlain_number (h : number? t = .ok (some (v, rest))) : IsPlain v := by
  rw [number?] at h
  split at h
  · cases h
    exact .int _
  · obtain ⟨found, hfound, h⟩ := Except.bind_eq_ok_iff.1 h
    split at h
    · cases h
      exact isPlain_decimal hfound
    · exact isPlain_special (Except.ok.inj h)

theorem isPlain_moment (h : moment? t = .ok (some (v, rest))) : IsPlain v := by
  rw [moment?] at h
  split at h
  · split at h
    · cases h
    · cases h
      exact .moment _
  · obtain ⟨c, -, hc⟩ := Option.map_eq_some_iff.1 (Except.ok.inj h)
    cases hc
    exact .moment _

theorem isPlain_simpleValue (h : simpleValue t = .ok (v, rest)) : IsPlain v := by
  unfold simpleValue at h
  split at h
  · obtain ⟨r, -, hr⟩ := Except.map_eq_ok_iff.1 h
    cases hr
    exact .text _
  · obtain ⟨r, -, hr⟩ := Except.map_eq_ok_iff.1 h
    cases hr
    exact .text _
  · split at h
    · cases h
      exact .bool _
    · split at h
      · cases h
        exact .bool _
      · obtain ⟨found, hfound, h⟩ := Except.bind_eq_ok_iff.1 h
        split at h
        · cases h
          exact isPlain_moment hfound
        · obtain ⟨number, hnumber, h⟩ := Except.bind_eq_ok_iff.1 h
          obtain rfl := orMalformed_eq_ok_iff.1 h
          exact isPlain_number hnumber

/-- What is read with some fuel is plain, whatever stands in it. -/
structure ReadsPlain (fuel : Nat) : Prop where
  value : ∀ room t v rest, value fuel room t = .ok (v, rest) → IsPlain v
  items : ∀ room t vs rest, items fuel room t = .ok (vs, rest) → IsPlain (.list vs)
  fields : ∀ room table marks t es rest, IsPlain (.map table) →
    fields fuel room table marks t = .ok (es, rest) → IsPlain (.map es)
  entry : ∀ room t key v rest, entry fuel room t = .ok (key, v, rest) → IsPlain v

theorem readsPlain_zero : ReadsPlain 0 where
  value _ _ _ _ h := by rw [Toml.value] at h; cases h
  items _ _ _ _ h := by rw [Toml.items] at h; cases h
  fields _ _ _ _ _ _ _ h := by rw [Toml.fields] at h; cases h
  entry _ _ _ _ _ h := by rw [Toml.entry] at h; cases h

theorem ReadsPlain.succ {fuel : Nat} (ih : ReadsPlain fuel) : ReadsPlain (fuel + 1) where
  value room t v rest h := by
    unfold Toml.value at h
    split at h
    · simp only [Except.bind_eq_ok_iff, Except.map_eq_ok_iff] at h
      obtain ⟨room, -, u, -, r, hr, h⟩ := h
      cases h
      exact ih.items _ _ _ _ hr
    · obtain ⟨room, -, h⟩ := Except.bind_eq_ok_iff.1 h
      split at h
      · cases h
        exact .empty
      · obtain ⟨r, hr, h⟩ := Except.map_eq_ok_iff.1 h
        cases h
        exact ih.fields _ _ _ _ _ _ .empty hr
    · exact isPlain_simpleValue h
  items room t vs rest h := by
    unfold Toml.items at h
    split at h
    · cases h
      exact .list (List.forall_mem_nil _)
    · obtain ⟨⟨v, u⟩, hv, h⟩ := Except.bind_eq_ok_iff.1 h
      have hplain := ih.value _ _ _ _ hv
      obtain ⟨next, -, h⟩ := Except.bind_eq_ok_iff.1 h
      split at h
      · cases h
        exact .list (List.forall_mem_singleton.2 hplain)
      · simp only [Except.bind_eq_ok_iff] at h
        obtain ⟨w, -, ⟨vs, rest⟩, hvs, h⟩ := h
        cases h
        exact .list (List.forall_mem_cons.2 ⟨hplain, (ih.items _ _ _ _ hvs).items⟩)
      · cases h
  fields room table marks t es rest htable h := by
    rw [Toml.fields] at h
    obtain ⟨⟨key, v, u⟩, hentry, h⟩ := Except.bind_eq_ok_iff.1 h
    have hplain := ih.entry _ _ _ _ _ hentry
    simp only at h
    split at h
    · cases h
    · obtain ⟨table', htable', h⟩ := Except.bind_eq_ok_iff.1 h
      have hnext : IsPlain (.map table') :=
        .within (fun _ _ ht hu => ht.add hplain hu) htable (orMalformed_eq_ok_iff.1 htable')
      split at h
      · cases h
        exact hnext
      · exact ih.fields _ _ _ _ _ _ hnext h
      · cases h
  entry room t key v rest h := by
    rw [Toml.entry] at h
    obtain ⟨found, -, h⟩ := Except.bind_eq_ok_iff.1 h
    split at h
    · obtain ⟨⟨w, rest⟩, hw, h⟩ := Except.bind_eq_ok_iff.1 h
      cases h
      exact ih.value _ _ _ _ hw
    · cases h

theorem readsPlain (fuel : Nat) : ReadsPlain fuel := by
  induction fuel with
  | zero => exact readsPlain_zero
  | succ fuel ih => exact ih.succ

end Values

/-! ### Statements -/

section Statements

variable {r r' : Reading} {key : Key} {t rest : Text}

theorem isPlain_put {v : Value} (h : IsPlain (.map r.table)) (hv : IsPlain v)
    (hr : r.put key v = .ok r') : IsPlain (.map r'.table) := by
  simp only [Reading.put] at hr
  split at hr
  · cases hr
  · split at hr
    · cases hr
    · obtain ⟨table, htable, hr⟩ := Except.bind_eq_ok_iff.1 hr
      cases hr
      exact .within (fun _ _ ht hu => ht.add hv hu) h (orMalformed_eq_ok_iff.1 htable)

theorem isPlain_openTable (h : IsPlain (.map r.table)) (hr : r.openTable key = .ok r') :
    IsPlain (.map r'.table) := by
  simp only [Reading.openTable] at hr
  split at hr
  · cases hr
  · obtain ⟨table, htable, hr⟩ := Except.bind_eq_ok_iff.1 hr
    cases hr
    exact .within (fun _ _ ht hu => Option.some.inj hu ▸ ht) h (orMalformed_eq_ok_iff.1 htable)

theorem isPlain_openListed (h : IsPlain (.map r.table)) (hr : r.openListed key = .ok r') :
    IsPlain (.map r'.table) := by
  simp only [Reading.openListed] at hr
  split at hr
  · cases hr
  · obtain ⟨table, htable, hr⟩ := Except.bind_eq_ok_iff.1 hr
    cases hr
    exact .within (fun _ _ ht hu => ht.append hu) h (orMalformed_eq_ok_iff.1 htable)

/-- A statement keeps the table plain. -/
theorem isPlain_statement (h : IsPlain (.map r.table)) (hr : statement r t = .ok (r', rest)) :
    IsPlain (.map r'.table) := by
  unfold statement at hr
  split at hr
  · obtain ⟨found, -, hr⟩ := Except.bind_eq_ok_iff.1 hr
    split at hr
    · obtain ⟨opened, hopened, hr⟩ := Except.bind_eq_ok_iff.1 hr
      cases hr
      exact isPlain_openListed h hopened
    · cases hr
  · obtain ⟨found, -, hr⟩ := Except.bind_eq_ok_iff.1 hr
    split at hr
    · obtain ⟨opened, hopened, hr⟩ := Except.bind_eq_ok_iff.1 hr
      cases hr
      exact isPlain_openTable h hopened
    · cases hr
  · cases hr
    exact h
  · obtain ⟨⟨key, v, u⟩, hentry, hr⟩ := Except.bind_eq_ok_iff.1 hr
    obtain ⟨put, hput, hr⟩ := Except.bind_eq_ok_iff.1 hr
    cases hr
    exact isPlain_put h ((readsPlain _).entry _ _ _ _ _ hentry) hput

theorem isPlain_statements {fuel : Nat} {table : Table} (h : IsPlain (.map r.table))
    (hr : statements fuel r t = .ok table) : IsPlain (.map table) := by
  induction fuel generalizing r t with
  | zero =>
    cases hr
    exact h
  | succ fuel ih =>
    unfold statements at hr
    split at hr
    · cases hr
      exact h
    · exact ih h hr
    · obtain ⟨⟨r', u⟩, hstatement, hr⟩ := Except.bind_eq_ok_iff.1 hr
      have hnext := isPlain_statement h hstatement
      obtain ⟨behind, -, hr⟩ := Except.bind_eq_ok_iff.1 hr
      split at hr
      · cases hr
        exact hnext
      · exact ih hnext hr
      · cases hr

/-- **The table of a TOML text is plain**: it has texts for keys, and so has every table in it. -/
theorem isPlain_read {table : Table} (h : read t = .ok table) : IsPlain (.map table) :=
  isPlain_statements .empty h

end Statements

end Toml

end CommandManual
