import CommandManual.Roff.Escape
import CommandManual.Text.Blank
import CommandManual.Text.Word

/-!
# Fonts inside a line

Code spans, strong emphasis and emphasis inside a line become changes of font. The three kinds are
replaced one after the other, each in the result of the one before: code between single backticks,
then strong text between double asterisks, then emphasized text between single asterisks that stand
at the edges of words.

## Main definitions

* `Roff.codeSpans`, `Roff.strongSpans`, `Roff.emphasisSpans`: the three replacements.
* `Roff.inline`: a line of a document in the source of a page.

## Implementation notes

A span never extends over a newline, except a code span. Each search starts again behind the span
it has found, and a mark without a partner stays as it is.
-/

namespace CommandManual

namespace Roff

/-- A text set in a font, which is given back at its end. -/
def inFont (font : Char) (t : Text) : Text :=
  '\\' :: 'f' :: font :: t ++ ['\\', 'f', 'P']

/-! ### Code spans -/

/-- The text up to the next backtick and the text behind it, if there is a backtick. -/
def splitBacktick : Text → Option (Text × Text)
  | [] => none
  | c :: t => if c = Text.backtick then some ([], t) else (splitBacktick t).map fun r => (c :: r.1, r.2)

theorem length_of_splitBacktick {t body rest : Text} (h : splitBacktick t = some (body, rest)) :
    rest.length < t.length := by
  induction t generalizing body with
  | nil => simp [splitBacktick] at h
  | cons c t ih =>
    rw [splitBacktick] at h
    split at h
    · simp only [Option.some.injEq, Prod.mk.injEq] at h
      simp [← h.2]
    · simp only [Option.map_eq_some_iff, Prod.mk.injEq] at h
      obtain ⟨⟨b, r⟩, hr, -, rfl⟩ := h
      simpa using Nat.lt_succ_of_lt (ih hr)

/-- Text between two backticks, at least one character long, set in bold. -/
def codeSpans : Text → Text
  | [] => []
  | c :: t =>
    if c = Text.backtick then
      match h : splitBacktick t with
      | some (d :: body, rest) =>
        have := length_of_splitBacktick h
        inFont 'B' (d :: body) ++ codeSpans rest
      | _ => c :: codeSpans t
    else c :: codeSpans t
  termination_by t => t.length
  decreasing_by all_goals simp_all +arith; try omega

/-! ### Strong text -/

/-- The text up to the next pair of asterisks on the line and the text behind it. -/
def splitStrong : Text → Option (Text × Text)
  | [] => none
  | c :: t =>
    if c = '*' && t.head? = some '*' then some ([], t.tail)
    else if c = '\n' then none
    else (splitStrong t).map fun r => (c :: r.1, r.2)

theorem length_of_splitStrong {t body rest : Text} (h : splitStrong t = some (body, rest)) :
    rest.length < t.length := by
  induction t generalizing body with
  | nil => simp [splitStrong] at h
  | cons c t ih =>
    rw [splitStrong] at h
    split at h
    · simp only [Option.some.injEq, Prod.mk.injEq] at h
      simp only [← h.2, List.length_tail, List.length_cons]
      omega
    · split at h
      · simp at h
      · simp only [Option.map_eq_some_iff, Prod.mk.injEq] at h
        obtain ⟨⟨b, r⟩, hr, -, rfl⟩ := h
        simpa using Nat.lt_succ_of_lt (ih hr)

/-- Text between two pairs of asterisks, at least one character long, set in bold. The shortest
such text is taken. -/
def strongSpans : Text → Text
  | '*' :: '*' :: c :: t =>
    if c = '\n' then '*' :: '*' :: c :: strongSpans t
    else
      match h : splitStrong t with
      | some (body, rest) =>
        have := length_of_splitStrong h
        inFont 'B' (c :: body) ++ strongSpans rest
      | none => '*' :: strongSpans ('*' :: c :: t)
  | c :: t => c :: strongSpans t
  | [] => []
  termination_by t => t.length
  decreasing_by all_goals simp_all +arith; try omega

/-! ### Emphasized text -/

/-- Is a mark allowed to open or to close beside this character? Not inside a word and not beside
another asterisk. -/
def isOuterEdge : Option Char → Bool
  | none => true
  | some c => !isWordChar c && c ≠ '*'

/-- Is this character allowed directly inside a pair of marks? -/
def isInnerEdge (c : Char) : Bool := !isBlank c && c ≠ '*'

/-- The text up to the next asterisk that can close, and the text behind it; `last` is the
character in front. -/
def splitEmphasis (last : Char) : Text → Option (Text × Text)
  | [] => none
  | c :: t =>
    if c = '*' && isInnerEdge last && isOuterEdge t.head? then some ([], t)
    else if c = '\n' then none
    else (splitEmphasis c t).map fun r => (c :: r.1, r.2)

theorem length_of_splitEmphasis {last : Char} {t body rest : Text}
    (h : splitEmphasis last t = some (body, rest)) : rest.length < t.length := by
  induction t generalizing last body with
  | nil => simp [splitEmphasis] at h
  | cons c t ih =>
    rw [splitEmphasis] at h
    split at h
    · simp only [Option.some.injEq, Prod.mk.injEq] at h
      simp [← h.2]
    · split at h
      · simp at h
      · simp only [Option.map_eq_some_iff, Prod.mk.injEq] at h
        obtain ⟨⟨b, r⟩, hr, -, rfl⟩ := h
        simpa using Nat.lt_succ_of_lt (ih hr)

/-- Text between two asterisks at the edges of words, set in italics. The shortest such text is
taken; `last` is the character in front. -/
def emphasisSpans (last : Option Char) : Text → Text
  | [] => []
  | c :: t =>
    if c = '*' && isOuterEdge last then
      match t with
      | d :: u =>
        if isInnerEdge d then
          match h : splitEmphasis d u with
          | some (body, rest) =>
            have := length_of_splitEmphasis h
            inFont 'I' (d :: body) ++ emphasisSpans (some '*') rest
          | none => c :: emphasisSpans (some c) (d :: u)
        else c :: emphasisSpans (some c) (d :: u)
      | [] => [c]
    else c :: emphasisSpans (some c) t
  termination_by t => t.length
  decreasing_by all_goals simp_all +arith; try omega

/-- A line of a document in the source of a page. -/
def inline (t : Text) : Text := emphasisSpans none (strongSpans (codeSpans (escape t)))

end Roff

end CommandManual
