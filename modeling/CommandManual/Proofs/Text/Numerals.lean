import CommandManual.Text.Basic
import Mathlib.Data.List.TakeWhile

/-!
# Numbers that are written

A number is written in its decimal digits, and from these it can be read again. So where a character
that is no digit follows, the number ends there, and nowhere else.

## Main results

* `Text.ofNat_inj`, `Text.ofInt_inj`: different numbers are written differently.
* `Text.isDigit_of_mem_ofNat`, `Text.ofInt_digits`: only digits are written.
* `Text.ofNat_append_cons_inj`: where a number ends.
-/

namespace CommandManual

namespace Text

variable {m n : Nat} {i j : Int} {c : Char}

theorem ofNat_eq_toDigits (n : Nat) : ofNat n = Nat.toDigits 10 n := by
  rw [ofNat, Nat.toString_eq_repr, Nat.toList_repr]

theorem ofNat_inj (h : ofNat m = ofNat n) : m = n := by
  rw [ofNat_eq_toDigits, ofNat_eq_toDigits] at h
  rw [← Nat.ofDigitChars_ten_toDigits (n := m), h, Nat.ofDigitChars_ten_toDigits]

theorem ofNat_ne_nil (n : Nat) : ofNat n ≠ [] := by
  rw [ofNat_eq_toDigits]
  exact Nat.toDigits_ne_nil

theorem isDigit_of_mem_ofNat (h : c ∈ ofNat n) : c.isDigit = true := by
  rw [ofNat_eq_toDigits] at h
  exact Nat.isDigit_of_mem_toDigits (by decide) (by decide) h

/-- A number ends where something else follows. -/
theorem ofNat_append_cons_inj {s t : Text} (hc : c.isDigit = false)
    (h : ofNat m ++ c :: s = ofNat n ++ c :: t) : m = n ∧ s = t := by
  have hdigits (k : Nat) (u : Text) : (ofNat k ++ c :: u).takeWhile Char.isDigit = ofNat k := by
    rw [List.takeWhile_append_of_pos fun d hd => isDigit_of_mem_ofNat hd,
      List.takeWhile_cons_of_neg (by simp [hc]), List.append_nil]
  obtain rfl : m = n := ofNat_inj (by rw [← hdigits m s, h, hdigits])
  exact ⟨rfl, (List.cons.inj (List.append_cancel_left h)).2⟩

/-- Without a sign an integer is written as a natural number is. -/
theorem ofInt_of_nonneg (h : 0 ≤ i) : ofInt i = ofNat i.toNat := by
  rw [ofNat_eq_toDigits, ofInt, Int.toString_eq_repr, Int.repr_eq_if, if_pos h, Nat.toList_repr]

theorem ofInt_inj (hi : 0 ≤ i) (hj : 0 ≤ j) (h : ofInt i = ofInt j) : i = j := by
  rw [ofInt_of_nonneg hi, ofInt_of_nonneg hj] at h
  have hnat := ofNat_inj h
  omega

theorem ofInt_ne_nil (h : 0 ≤ i) : ofInt i ≠ [] := ofInt_of_nonneg h ▸ ofNat_ne_nil _

theorem ofInt_digits (h : 0 ≤ i) (hc : c ∈ ofInt i) : c.isDigit = true :=
  isDigit_of_mem_ofNat (ofInt_of_nonneg h ▸ hc)

end Text

end CommandManual
