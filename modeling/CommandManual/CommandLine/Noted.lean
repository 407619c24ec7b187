import CommandManual.CommandLine.Ending

/-!
# Computations with notes

While the program works it can say what it is doing. A computation keeps its notes also if it fails,
and the notes of one that goes on behind it follow.
-/

namespace CommandManual

namespace CommandLine

/-- The notes of a computation, and its result or the problem that stopped it. -/
structure Noted (α : Type) where
  notes : List Text := []
  result : Except Problem α

namespace Noted

variable {α β : Type}

/-- Go on with the result, if there is one. -/
def andThen (x : Noted α) (f : α → Noted β) : Noted β :=
  match x.result with
  | .error p => ⟨x.notes, .error p⟩
  | .ok a => ⟨x.notes ++ (f a).notes, (f a).result⟩

instance : Monad Noted where
  pure a := ⟨[], .ok a⟩
  bind := andThen

/-- Leave a note. -/
def note (t : Text) : Noted Unit := ⟨[t], .ok ()⟩

/-- A result without a note. -/
def ofExcept (r : Except Problem α) : Noted α := ⟨[], r⟩

@[simp] theorem result_pure (a : α) : (pure a : Noted α).result = .ok a := rfl

@[simp] theorem notes_pure (a : α) : (pure a : Noted α).notes = [] := rfl

theorem result_bind (x : Noted α) (f : α → Noted β) :
    (x >>= f).result = x.result.bind fun a => (f a).result := by
  show (andThen x f).result = _
  unfold andThen
  split <;> simp_all [Except.bind]

end Noted

end CommandLine

end CommandManual
