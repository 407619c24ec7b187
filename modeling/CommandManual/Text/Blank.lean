import CommandManual.Text.Basic

/-!
# Blank characters

The class of characters that separate words: the ASCII blanks, the four information separators,
and the spaces and line separators of Unicode. The zero-width space and the byte order mark are
not blank.

## Main definitions

* `isBlank`: the class.
* `isNumberBlank`: the blanks that may stand around a number.
* `strip`, `isBlankText`, `words`: a text without its outer blanks, whether it is made of blanks
  only, and its maximal runs of other characters.
-/

namespace CommandManual

/-- A character that separates words. -/
def isBlank (c : Char) : Bool :=
  let n := c.toNat
  (0x09 ≤ n && n ≤ 0x0D) || (0x1C ≤ n && n ≤ 0x20) || n == 0x85 || n == 0xA0 || n == 0x1680 ||
    (0x2000 ≤ n && n ≤ 0x200A) || n == 0x2028 || n == 0x2029 || n == 0x202F || n == 0x205F ||
    n == 0x3000

/-- A blank that may stand around a number: any but the four information separators. -/
def isNumberBlank (c : Char) : Bool := isBlank c && !(0x1C ≤ c.toNat && c.toNat ≤ 0x1F)

/-- Letters and digits of ASCII stand in three ranges. -/
theorem toNat_of_isAlphanum {c : Char} (h : c.isAlphanum = true) :
    (65 ≤ c.toNat ∧ c.toNat ≤ 90) ∨ (97 ≤ c.toNat ∧ c.toNat ≤ 122) ∨
      (48 ≤ c.toNat ∧ c.toNat ≤ 57) := by
  have hranges : ((decide ('A'.val ≤ c.val ∧ c.val ≤ 'Z'.val) ||
      (decide ('a'.val ≤ c.val) && decide (c.val ≤ 'z'.val))) ||
      (decide ('0'.val ≤ c.val) && decide (c.val ≤ '9'.val))) = true := h
  simp only [Bool.or_eq_true, Bool.and_eq_true, decide_eq_true_eq, or_assoc,
    UInt32.le_iff_toNat_le] at hranges
  exact hranges

/-- Letters and digits of ASCII are not blank. -/
theorem isBlank_of_isAlphanum {c : Char} (h : c.isAlphanum = true) : isBlank c = false := by
  have hrange := toNat_of_isAlphanum h
  simp only [isBlank, Bool.or_eq_false_iff, Bool.and_eq_false_iff, decide_eq_false_iff_not,
    beq_eq_false_iff_ne]
  omega

namespace Text

/-- The text without blanks at its ends. -/
def strip (t : Text) : Text := trim isBlank t

/-- Is the text made of blanks only? -/
def isBlankText (t : Text) : Bool := t.all isBlank

/-- The maximal runs of characters that are not blank. -/
def words (t : Text) : List Text :=
  (t.foldr (fun c (acc : Bool × List Text) =>
    if isBlank c then (true, acc.2)
    else if acc.1 then (false, [c] :: acc.2)
    else match acc.2 with
      | [] => (false, [[c]])
      | w :: ws => (false, (c :: w) :: ws)) (true, [])).2

/-- Is there anything but blanks in the text? -/
def hasInk (t : Text) : Bool := !isBlankText t

end Text

end CommandManual
