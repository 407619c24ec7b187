import CommandManual.Text.Blank

/-!
# Margins

Help texts are written inside a program and so carry its indentation. What they share of it is
their margin, which is removed before they are shown.

## Main definitions

* `Text.expandTabs`: spaces in place of tabs.
* `Text.margin?`: the indentation that the lines after the first share.
* `Text.withoutMargin`: the text without its margin and without empty lines at its ends.
-/

namespace CommandManual

namespace Text

/-- Spaces up to the next multiple of eight in place of every tab; the text begins at `column`. -/
def expandTabsFrom (column : Nat) : Text → Text
  | [] => []
  | c :: t =>
    if c = '\t' then
      List.replicate (8 - column % 8) ' ' ++ expandTabsFrom (column + (8 - column % 8)) t
    else c :: expandTabsFrom (if c = '\n' || c = '\r' then 0 else column + 1) t

/-- Spaces in place of tabs, whose stops are eight columns apart. -/
def expandTabs (t : Text) : Text := expandTabsFrom 0 t

/-- The number of blanks in front of a line. -/
def indentation (l : Text) : Nat := (l.takeWhile isBlank).length

/-- The least indentation of the lines that are not blank, if there are any. -/
def margin? (ls : List Text) : Option Nat := ((ls.filter hasInk).map indentation).min?

/-- The lines without the empty ones at both ends. -/
def trimLines (ls : List Text) : List Text :=
  ((ls.reverse.dropWhile List.isEmpty).reverse).dropWhile List.isEmpty

/-- The text without the margin of the lines after the first, without blanks in front of the
first, and without empty lines at both ends. -/
def withoutMargin (t : Text) : Text :=
  match lines (expandTabs t) with
  | [] => []
  | l :: ls => unlines (trimLines (trimStart isBlank l :: ls.map (·.drop ((margin? ls).getD 0))))

end Text

end CommandManual
