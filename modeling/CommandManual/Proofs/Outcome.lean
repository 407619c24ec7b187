import Mathlib.Data.List.Forall2

/-!
# Steps that may fail

What is done to a disk or read from a file is a chain of steps, each of which may end the chain
with a fault. The lemmas below open such a chain from the outside: a chain that ended well ended
well at every step.

## Main definitions

* `Except.FailsWith`: a step ends with a fault of a kind.
* `Except.FailsOnly`: a step ends with no other faults.

## Main results

* `Except.bind_eq_ok_iff`, `Except.bind_eq_error_iff`, `Except.map_eq_ok_iff`,
  `Except.mapError_eq_ok_iff`.
* `Except.failsWith_bind_iff`: where a chain of steps ends with a fault of a kind.
* `Except.mapM_eq_ok_iff`, `Except.exists_of_mapM_eq_error`, `Except.forM_eq_ok_iff`,
  `Except.failsOnly_forM`: the same step for every item of a list.
* `Option.forall_map_eq_some`.
-/

namespace Except

variable {ε ε' α β : Type}

@[simp] theorem ok_bind (a : α) (f : α → Except ε β) : ((ok a : Except ε α) >>= f) = f a := rfl

@[simp] theorem error_bind (e : ε) (f : α → Except ε β) :
    ((error e : Except ε α) >>= f) = error e := rfl

theorem bind_eq_ok_iff {x : Except ε α} {f : α → Except ε β} {b : β} :
    (x >>= f) = .ok b ↔ ∃ a, x = .ok a ∧ f a = .ok b := by
  cases x with
  | error e => simp [bind, Except.bind]
  | ok a => simp [bind, Except.bind]

theorem bind_eq_error_iff {x : Except ε α} {f : α → Except ε β} {e : ε} :
    (x >>= f) = .error e ↔ x = .error e ∨ ∃ a, x = .ok a ∧ f a = .error e := by
  cases x with
  | error e' => simp [bind, Except.bind]
  | ok a => simp [bind, Except.bind]

theorem map_eq_ok_iff {x : Except ε α} {f : α → β} {b : β} :
    x.map f = .ok b ↔ ∃ a, x = .ok a ∧ f a = b := by
  cases x with
  | error e => simp [Except.map]
  | ok a => simp [Except.map]

@[simp] theorem mapError_ok (f : ε → ε') (a : α) : (ok a : Except ε α).mapError f = ok a := rfl

@[simp] theorem mapError_error (f : ε → ε') (e : ε) :
    (error e : Except ε α).mapError f = error (f e) := rfl

theorem mapError_eq_ok_iff {x : Except ε α} {f : ε → ε'} {a : α} :
    x.mapError f = .ok a ↔ x = .ok a := by
  cases x with
  | error e => simp
  | ok a => simp

theorem toOption_eq_some_iff {x : Except ε α} {a : α} : x.toOption = some a ↔ x = .ok a := by
  cases x with
  | error e => simp [Except.toOption]
  | ok a => simp [Except.toOption]

/-! ### Faults of a kind -/

/-- The step ends with a fault of a kind. -/
def FailsWith (P : ε → Prop) (x : Except ε α) : Prop := ∃ e, x = .error e ∧ P e

section FailsWith

variable {P : ε → Prop}

@[simp] theorem not_failsWith_ok (a : α) : ¬ FailsWith P (.ok a : Except ε α) := by
  rintro ⟨e, he, -⟩
  cases he

@[simp] theorem failsWith_error_iff {e : ε} : FailsWith P (.error e : Except ε α) ↔ P e := by
  constructor
  · rintro ⟨e', he, h⟩
    rwa [error.inj he]
  · exact fun h => ⟨e, rfl, h⟩

/-- A chain of steps ends with a fault of a kind at its first step or behind it. -/
theorem failsWith_bind_iff {x : Except ε α} {f : α → Except ε β} :
    FailsWith P (x >>= f) ↔ FailsWith P x ∨ ∃ a, x = .ok a ∧ FailsWith P (f a) := by
  cases x with
  | error e => simp
  | ok a => simp

theorem failsWith_mapError_iff {P : ε' → Prop} {x : Except ε α} {f : ε → ε'} :
    FailsWith P (x.mapError f) ↔ FailsWith (fun e => P (f e)) x := by
  cases x with
  | error e => simp
  | ok a => simp

end FailsWith

/-- Every fault that the step can end with is of a kind. -/
def FailsOnly (P : ε → Prop) (x : Except ε α) : Prop := ∀ e, x = .error e → P e

section FailsOnly

variable {P Q : ε → Prop}

@[simp] theorem failsOnly_ok (a : α) : FailsOnly P (.ok a : Except ε α) := by
  rintro e he
  cases he

@[simp] theorem failsOnly_error_iff {e : ε} : FailsOnly P (.error e : Except ε α) ↔ P e :=
  ⟨fun h => h e rfl, fun h _ he => error.inj he ▸ h⟩

theorem FailsOnly.mono {x : Except ε α} (h : FailsOnly P x) (hPQ : ∀ e, P e → Q e) :
    FailsOnly Q x := fun e he => hPQ e (h e he)

/-- In a chain of steps all faults are of a kind if they are so at every step. -/
theorem FailsOnly.bind {x : Except ε α} {f : α → Except ε β} (h : FailsOnly P x)
    (hf : ∀ a, x = .ok a → FailsOnly P (f a)) : FailsOnly P (x >>= f) := by
  cases x with
  | error e => exact failsOnly_error_iff.2 (h e rfl)
  | ok a => exact hf a rfl

theorem failsOnly_mapError_iff {P : ε' → Prop} {x : Except ε α} {f : ε → ε'} :
    FailsOnly P (x.mapError f) ↔ FailsOnly (fun e => P (f e)) x := by
  cases x with
  | error e => simp
  | ok a => simp

end FailsOnly

/-! ### The same step for every item -/

theorem forM_cons (f : α → Except ε Unit) (a : α) (as : List α) :
    (a :: as).forM f = f a >>= fun _ => as.forM f := rfl

/-- A step for every item of a list that gives nothing back ends well if it does so for each. -/
theorem forM_eq_ok_iff {f : α → Except ε Unit} {as : List α} :
    as.forM f = .ok () ↔ ∀ a ∈ as, f a = .ok () := by
  induction as with
  | nil => exact iff_of_true rfl fun a ha => absurd ha List.not_mem_nil
  | cons a as ih =>
    rw [forM_cons, bind_eq_ok_iff, List.forall_mem_cons, ← ih]
    exact ⟨fun ⟨_, ha, h⟩ => ⟨ha, h⟩, fun ⟨ha, h⟩ => ⟨(), ha, h⟩⟩

theorem failsOnly_forM {P : ε → Prop} {f : α → Except ε Unit} {as : List α}
    (h : ∀ a ∈ as, FailsOnly P (f a)) : FailsOnly P (as.forM f) := by
  induction as with
  | nil => exact failsOnly_ok ()
  | cons a as ih =>
    rw [List.forall_mem_cons] at h
    rw [forM_cons]
    exact h.1.bind fun _ _ => ih h.2

theorem mapM_cons (f : α → Except ε β) (a : α) (as : List α) :
    (a :: as).mapM f = f a >>= fun b => as.mapM f >>= fun bs => .ok (b :: bs) :=
  List.mapM_cons

/-- A step for every item of a list ends well if it does so for each of them. -/
theorem mapM_eq_ok_iff {f : α → Except ε β} {as : List α} {bs : List β} :
    as.mapM f = .ok bs ↔ List.Forall₂ (fun a b => f a = .ok b) as bs := by
  induction as generalizing bs with
  | nil =>
    rw [List.mapM_nil, List.forall₂_nil_left_iff]
    exact ⟨fun h => (ok.inj h).symm, fun h => congrArg ok h.symm⟩
  | cons a as ih =>
    rw [mapM_cons, bind_eq_ok_iff, List.forall₂_cons_left_iff]
    constructor
    · rintro ⟨b, hb, h⟩
      obtain ⟨bs', hbs', h⟩ := bind_eq_ok_iff.1 h
      exact ⟨b, bs', hb, ih.1 hbs', (ok.inj h).symm⟩
    · rintro ⟨b, bs', hb, hbs', rfl⟩
      exact ⟨b, hb, bind_eq_ok_iff.2 ⟨bs', ih.2 hbs', rfl⟩⟩

/-- A step for every item of a list that ends with a fault does so at one of them. -/
theorem exists_of_mapM_eq_error {f : α → Except ε β} {as : List α} {e : ε}
    (h : as.mapM f = .error e) : ∃ a ∈ as, f a = .error e := by
  induction as with
  | nil => cases h
  | cons a as ih =>
    rw [mapM_cons] at h
    cases ha : f a with
    | error e' =>
      rw [ha, error_bind] at h
      exact ⟨a, List.mem_cons_self, ha.trans (congrArg error (error.inj h))⟩
    | ok b =>
      rw [ha, ok_bind] at h
      cases has : as.mapM f with
      | error e' =>
        rw [has, error_bind] at h
        obtain ⟨a', ha', hf⟩ := ih (has.trans (congrArg error (error.inj h)))
        exact ⟨a', List.mem_cons_of_mem _ ha', hf⟩
      | ok bs => rw [has, ok_bind] at h; cases h

/-- What the same step for every item of a list gives is said by what it gives for each of them. -/
theorem mapM_congr {f : α → Except ε β} {as as' : List α} (h : as.map f = as'.map f) :
    as.mapM f = as'.mapM f := by
  have hid (as : List α) : as.mapM f = (as.map f).mapM id := by
    rw [List.mapM_map]
    rfl
  rw [hid, h, ← hid]

end Except

namespace Option

/-- What holds of the image of an optional result. -/
theorem forall_map_eq_some {α β : Type} {x : Option α} {f : α → β} {P : β → Prop} :
    (∀ b, x.map f = some b → P b) ↔ ∀ a, x = some a → P (f a) := by
  cases x with
  | none => simp
  | some a => simp

/-- A look-up for every item of a list finds something if it does so for each of them. -/
theorem isSome_mapM_iff {α β : Type} {f : α → Option β} {as : List α} :
    (as.mapM f).isSome ↔ ∀ a ∈ as, (f a).isSome := by
  induction as with
  | nil => exact ⟨fun _ a ha => absurd ha List.not_mem_nil, fun _ => rfl⟩
  | cons a as ih =>
    rw [List.forall_mem_cons, ← ih, List.mapM_cons]
    cases f a with
    | none => simp
    | some b => cases as.mapM f <;> simp

end Option
