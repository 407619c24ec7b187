/-!
# Text as a list of characters

Everything the library reads and writes is a `Text`, the list of its characters. Positions and
lengths therefore count characters, and the operations below are the list operations with the
names the domain uses for them.

## Main definitions

* `lines`, `unlines`: a text as the lines between its newlines, and back.
* `terminated`: a list of lines in which every line, the last one included, ends in a newline.
* `trimStart`, `trimEnd`, `trim`: removal of a class of characters at the ends.
* `substitute`: every occurrence of one character written as a text.

## Main results

* `unlines_lines`: cutting a text into lines loses nothing.
* `lines_unlines`: lines that are joined are cut again where they were joined.
* `lines_append_newline`: the lines of a text around one of its newlines.

## Implementation notes

`lines` never returns an empty list: the empty text has one empty line. That makes `unlines` its
left inverse without a side condition.
-/

namespace CommandManual

/-- The characters of a text, in order. -/
abbrev Text := List Char

namespace Text

/-- The mark around code in a line. -/
abbrev backtick : Char := '\x60'

/-! ### Lines -/

/-- Put one character in front of a text that is already cut into lines. -/
def attach (c : Char) : List Text → List Text
  | [] => if c = '\n' then [[], []] else [[c]]
  | l :: ls => if c = '\n' then [] :: l :: ls else (c :: l) :: ls

/-- The lines of a text: what stands between its newlines. -/
def lines (t : Text) : List Text := t.foldr attach [[]]

@[simp] theorem lines_nil : lines [] = [[]] := rfl

theorem lines_cons (c : Char) (t : Text) : lines (c :: t) = attach c (lines t) := rfl

theorem lines_ne_nil (t : Text) : lines t ≠ [] := by
  cases t with
  | nil => simp
  | cons c t =>
    rw [lines_cons]
    unfold attach
    split <;> split <;> simp

@[simp] theorem lines_newline_cons (t : Text) : lines ('\n' :: t) = [] :: lines t := by
  rw [lines_cons]
  cases h : lines t with
  | nil => exact absurd h (lines_ne_nil t)
  | cons l ls => rfl

/-- The lines joined again, with a newline between neighbours. -/
def unlines (ls : List Text) : Text := ['\n'].intercalate ls

@[simp] theorem unlines_singleton (l : Text) : unlines [l] = l := by
  simp [unlines, List.intercalate]

theorem unlines_cons_cons (l m : Text) (ls : List Text) :
    unlines (l :: m :: ls) = l ++ '\n' :: unlines (m :: ls) := by
  simp [unlines, List.intercalate]

private theorem unlines_attach (c : Char) {ls : List Text} (h : ls ≠ []) :
    unlines (attach c ls) = c :: unlines ls := by
  cases ls with
  | nil => exact absurd rfl h
  | cons l ls =>
    rw [attach]
    split
    · next hc => rw [unlines_cons_cons, hc, List.nil_append]
    · cases ls with
      | nil => rw [unlines_singleton, unlines_singleton]
      | cons m ls => rw [unlines_cons_cons, unlines_cons_cons, List.cons_append]

/-- Cutting a text into lines loses nothing. -/
theorem unlines_lines (t : Text) : unlines (lines t) = t := by
  induction t with
  | nil => exact unlines_singleton []
  | cons c t ih => rw [lines_cons, unlines_attach c (lines_ne_nil t), ih]

/-- A line has no newline in it. -/
theorem newline_notMem_of_mem_lines {t l : Text} (h : l ∈ lines t) : '\n' ∉ l := by
  induction t generalizing l with
  | nil =>
    rw [lines_nil, List.mem_singleton] at h
    rw [h]
    exact List.not_mem_nil
  | cons c t ih =>
    rw [lines_cons] at h
    cases e : lines t with
    | nil => exact absurd e (lines_ne_nil t)
    | cons m ms =>
      rw [e] at h ih
      rw [attach] at h
      split at h
      · rcases List.mem_cons.1 h with rfl | h
        · exact List.not_mem_nil
        · exact ih h
      · next hc =>
        rcases List.mem_cons.1 h with rfl | h
        · intro hn
          rcases List.mem_cons.1 hn with hn | hn
          · exact hc hn.symm
          · exact ih (List.mem_cons_self ..) hn
        · exact ih (List.mem_cons_of_mem _ h)

/-- A text without a newline in front of a line belongs to that line. -/
theorem lines_append_of_notMem {l t m : Text} {ms : List Text} (h : '\n' ∉ l)
    (e : lines t = m :: ms) : lines (l ++ t) = (l ++ m) :: ms := by
  induction l with
  | nil => exact e
  | cons c l ih =>
    have hc : ¬ c = '\n' := fun hc => h (hc ▸ List.mem_cons_self ..)
    rw [List.cons_append, lines_cons, ih fun hl => h (List.mem_cons_of_mem _ hl), attach,
      if_neg hc, List.cons_append]

/-- Lines that are joined are cut again where they were joined. -/
theorem lines_unlines {ls : List Text} (hne : ls ≠ []) (h : ∀ l ∈ ls, '\n' ∉ l) :
    lines (unlines ls) = ls := by
  induction ls with
  | nil => exact absurd rfl hne
  | cons l ls ih =>
    have hl := h l (List.mem_cons_self ..)
    cases ls with
    | nil =>
      have one := lines_append_of_notMem hl lines_nil
      rw [List.append_nil] at one
      rw [unlines_singleton, one]
    | cons m ls =>
      rw [unlines_cons_cons, lines_append_of_notMem hl (lines_newline_cons _), List.append_nil,
        ih (List.cons_ne_nil m ls) fun k hk => h k (List.mem_cons_of_mem _ hk)]

/-- Every line ends in a newline. -/
def terminated (ls : List Text) : Text := ls.flatMap fun l => l ++ ['\n']

@[simp] theorem terminated_nil : terminated [] = [] := rfl

@[simp] theorem terminated_cons (l : Text) (ls : List Text) :
    terminated (l :: ls) = l ++ '\n' :: terminated ls := by
  simp [terminated]

theorem terminated_append (ls ms : List Text) :
    terminated (ls ++ ms) = terminated ls ++ terminated ms := by
  simp [terminated]

/-! ### Lines of a text that is put together

A newline separates what stands in front of it from what stands behind it. Everything about the
lines of a longer text follows from that one equation. -/

/-- **A newline cuts.** The lines around it are those of the two sides. -/
theorem lines_append_newline (s t : Text) : lines (s ++ '\n' :: t) = lines s ++ lines t := by
  induction s with
  | nil => rw [List.nil_append, lines_newline_cons, lines_nil, List.singleton_append]
  | cons c s ih =>
    rw [List.cons_append, lines_cons, ih, lines_cons]
    cases h : lines s with
    | nil => exact absurd h (lines_ne_nil s)
    | cons l ls =>
      rw [List.cons_append, attach, attach]
      split <;> rfl

theorem lines_of_notMem {l : Text} (h : '\n' ∉ l) : lines l = [l] := by
  simpa using lines_append_of_notMem h lines_nil

/-- Lines that are ended are cut again where they end. -/
theorem lines_terminated_append {ls : List Text} (h : ∀ l ∈ ls, '\n' ∉ l) (t : Text) :
    lines (terminated ls ++ t) = ls ++ lines t := by
  induction ls with
  | nil => simp
  | cons l ls ih =>
    rw [terminated_cons, List.append_assoc, List.cons_append, lines_append_newline,
      lines_of_notMem (h l (List.mem_cons_self ..)),
      ih fun k hk => h k (List.mem_cons_of_mem _ hk), List.singleton_append, List.cons_append]

theorem terminated_append_unlines (ls : List Text) {ms : List Text} (h : ms ≠ []) :
    terminated ls ++ unlines ms = unlines (ls ++ ms) := by
  induction ls with
  | nil => rfl
  | cons l ls ih =>
    rw [terminated_cons, List.append_assoc, List.cons_append, ih]
    cases e : ls ++ ms with
    | nil => exact absurd (List.append_eq_nil_iff.1 e).2 h
    | cons k ks => rw [List.cons_append, e, unlines_cons_cons]

/-- To end every line of a text is to end the text. -/
theorem terminated_lines (t : Text) : terminated (lines t) = t ++ ['\n'] := by
  have h := terminated_append_unlines (lines t) (List.cons_ne_nil [] [])
  rw [← lines_nil, ← lines_append_newline, unlines_lines, unlines_lines, List.append_nil] at h
  exact h

/-- The text without one carriage return at its end. -/
def withoutReturn (t : Text) : Text := if t.getLast? = some '\r' then t.dropLast else t

/-- Both spellings of a line end become the newline. -/
def normalizeReturns : Text → Text
  | '\r' :: '\n' :: t => '\n' :: normalizeReturns t
  | c :: t => c :: normalizeReturns t
  | [] => []

/-- Every line end, a carriage return alone included, becomes the newline. -/
def unifyLineEnds : Text → Text
  | '\r' :: '\n' :: t => '\n' :: unifyLineEnds t
  | c :: t => (if c = '\r' then '\n' else c) :: unifyLineEnds t
  | [] => []

/-! ### Trimming -/

/-- Drop the leading characters of a class. -/
def trimStart (p : Char → Bool) (t : Text) : Text := t.dropWhile p

/-- Drop the trailing characters of a class. -/
def trimEnd (p : Char → Bool) (t : Text) : Text := (t.reverse.dropWhile p).reverse

/-- Drop the leading and the trailing characters of a class. -/
def trim (p : Char → Bool) (t : Text) : Text := trimEnd p (trimStart p t)

@[simp] theorem trimEnd_nil (p : Char → Bool) : trimEnd p [] = [] := rfl

@[simp] theorem trim_nil (p : Char → Bool) : trim p [] = [] := rfl

/-! ### Replacement and cutting -/

/-- Every occurrence of `c` written as `r`. -/
def substitute (c : Char) (r : Text) (t : Text) : Text :=
  t.flatMap fun d => if d = c then r else [d]

/-- Does the text begin with `p`? -/
def startsWith (t p : Text) : Bool := p.isPrefixOf t

/-- The text before and after the first occurrence of a character; the second part is absent when
the character does not occur. -/
def cutAt (c : Char) (t : Text) : Text × Option Text :=
  match t.span (· ≠ c) with
  | (before, []) => (before, none)
  | (before, _ :: after) => (before, some after)

/-- The parts of a text between the occurrences of a character. -/
def splitOn (c : Char) (t : Text) : List Text :=
  t.foldr (fun d ps =>
    match ps with
    | [] => if d = c then [[], []] else [[d]]
    | p :: ps => if d = c then [] :: p :: ps else (d :: p) :: ps) [[]]

/-- The first of some texts that is not empty. -/
def firstGiven : List Text → Text
  | [] => []
  | t :: ts => if t.isEmpty then firstGiven ts else t

/-- The decimal text of a number. -/
def ofNat (n : Nat) : Text := (toString n).toList

/-- The decimal text of an integer, with a minus sign in front of a negative one. -/
def ofInt (n : Int) : Text := (toString n).toList

/-- Texts in the order of their characters' code points. -/
def precedes : Text → Text → Bool
  | [], _ => true
  | _ :: _, [] => false
  | a :: s, b :: t => a.toNat < b.toNat || (a == b && precedes s t)

/-- The texts in ascending order. -/
def sorted (ts : List Text) : List Text := ts.mergeSort precedes

/-- The texts in a row, separated by a comma and a space. -/
def commaList (ts : List Text) : Text := ", ".toList.intercalate ts

end Text

end CommandManual
