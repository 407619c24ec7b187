import CommandManual.Number.Binary64
import CommandManual.Text.Digit

/-!
# Whole numbers in texts

A whole number as a user types it: decimal digits with a sign or not, with single underscores
between digits and blanks around it all. Numbers of more than 4300 digits are neither read nor
written.

## Main definitions

* `Text.wholeNumber?`: the number that a text spells.
* `isWritable`: has a number few enough digits to be written?
-/

namespace CommandManual

/-- The greatest number of decimal digits that is read or written. -/
def maxDigits : Nat := 4300

/-- The whole number that a text spells. -/
def Text.wholeNumber? (t : Text) : Option Int :=
  let (negative, body) := Binary64.splitSign (Text.numeral t)
  match Binary64.ungroup body with
  | none | some [] => none
  | some ds =>
    let n : Int := Binary64.digitsValue ds
    if maxDigits < ds.length then none else some (if negative then -n else n)

/-- Has the number few enough digits to be written? -/
def isWritable (n : Int) : Bool := n.natAbs < Nat.pow 10 maxDigits

theorem isWritable_iff {n : Int} : isWritable n = true ↔ n.natAbs < Nat.pow 10 maxDigits := by
  rw [isWritable, decide_eq_true_eq]

@[simp] theorem isWritable_zero : isWritable 0 = true := by
  rw [isWritable_iff]
  generalize maxDigits = n
  exact Nat.pow_pos (Nat.succ_pos 9)

theorem isWritable_of_lt_ten {n : Int} (h : n.natAbs < 10) : isWritable n = true := by
  obtain ⟨m, hm⟩ : ∃ m, maxDigits = m + 1 := ⟨_, rfl⟩
  rw [isWritable_iff, hm]
  exact Nat.lt_of_lt_of_le h (Nat.le_mul_of_pos_left 10 (Nat.pow_pos (Nat.succ_pos 9)))

/-- The least number that is too long to be written. -/
theorem isWritable_pow_maxDigits : isWritable (Nat.pow 10 maxDigits) = false := by
  refine Bool.eq_false_iff.2 fun h => ?_
  rw [isWritable_iff, Int.natAbs_natCast] at h
  exact Nat.lt_irrefl _ h

/-- The wording of the fault that a number has too many digits to be written. -/
def unwritableMessage : Text :=
  "Exceeds the limit (4300 digits) for integer string conversion; ".toList
    ++ "use sys.set_int_max_str_digits() to increase the limit".toList

end CommandManual
