import CommandManual.Text.Basic

/-!
# Matching rows

What two lists of rows have in common is found by looking for the longest run of equal rows, and
then for the longest ones in front of it and behind it.

## Main definitions

* `Run`: equal rows in two lists.
* `longestRun`: the longest run of two lists.
* `commonRuns`: all runs, in order.

## Implementation notes

Rows that stand in a long list very often match nearly everywhere and say little. They begin no
run, but a run may grow over them at its ends.
-/

namespace CommandManual

namespace Difference

/-- Rows that are equal: where they begin in the two lists, and how many there are. -/
structure Run where
  left : Nat
  right : Nat
  size : Nat
  deriving DecidableEq, Repr

/-- The number of items that two lists have in common in front. -/
def commonHead : List Text → List Text → Nat
  | x :: xs, y :: ys => if x = y then commonHead xs ys + 1 else 0
  | _, _ => 0

/-- Does a row stand so often in a list that it says little? -/
def isFrequent (rows : List Text) (row : Text) : Bool :=
  200 ≤ rows.length && rows.length / 100 + 1 < rows.count row

/-- For every row on the right, the length of the run that ends there and in the row `x` on the
left; `before` has these lengths for the row before `x`. -/
def runEnds (skip : Text → Bool) (x : Text) (right : List Text) (before : List Nat) : List Nat :=
  if skip x then right.map fun _ => 0
  else List.zipWith (fun y k => if x = y then k + 1 else 0) right (0 :: before)

/-- The longer of a run and the runs that end in row `i` on the left, the first one of several. -/
def longer (i : Nat) (best : Run) (ends : List Nat) : Run :=
  (ends.foldl (fun (acc : Run × Nat) k =>
    (if acc.1.size < k then ⟨i + 1 - k, acc.2 + 1 - k, k⟩ else acc.1, acc.2 + 1)) (best, 0)).1

/-- The longest run that ends in row `i` or behind it, or `best`. -/
def searchRun (skip : Text → Bool) (right : List Text) (i : Nat) (best : Run) (before : List Nat) :
    List Text → Run
  | [] => best
  | x :: xs =>
    let ends := runEnds skip x right before
    searchRun skip right (i + 1) (longer i best ends) ends xs

/-- The run with the equal rows in front of it and behind it. -/
def grow (left right : List Text) (r : Run) : Run :=
  let front := commonHead (left.take r.left).reverse (right.take r.right).reverse
  let back := commonHead (left.drop (r.left + r.size)) (right.drop (r.right + r.size))
  ⟨r.left - front, r.right - front, front + r.size + back⟩

/-- The longest run of two lists; it is empty if they have no row in common. -/
def longestRun (skip : Text → Bool) (left right : List Text) : Run :=
  grow left right (searchRun skip right 0 ⟨0, 0, 0⟩ (right.map fun _ => 0) left)

/-- The runs of two parts that begin at `i` and `j`, found in at most `fuel` turns. -/
def runsFrom (skip : Text → Bool) :
    (fuel : Nat) → (i j : Nat) → (left right : List Text) → List Run
  | 0, _, _, _, _ => []
  | fuel + 1, i, j, left, right =>
    let r := longestRun skip left right
    if r.size = 0 then []
    else
      let stop := r.left + r.size
      let stop' := r.right + r.size
      runsFrom skip fuel i j (left.take r.left) (right.take r.right)
        ++ ⟨i + r.left, j + r.right, r.size⟩
        :: runsFrom skip fuel (i + stop) (j + stop') (left.drop stop) (right.drop stop')

/-- The runs with neighbours that touch made one. -/
def joinRuns : List Run → List Run
  | [] => []
  | r :: rs =>
    match joinRuns rs with
    | [] => [r]
    | s :: ss =>
      if r.left + r.size = s.left && r.right + r.size = s.right then
        ⟨r.left, r.right, r.size + s.size⟩ :: ss
      else r :: s :: ss

/-- The runs of two lists, in order. -/
def commonRuns (left right : List Text) : List Run :=
  joinRuns (runsFrom (isFrequent right) (left.length + 1) 0 0 left right)

end Difference

end CommandManual
