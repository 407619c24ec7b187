import CommandManual.Difference.Matching

/-!
# Unified differences

The difference of two texts is shown as the rows that were taken away and those that came in, with
three rows around each change. A row ends at any of the characters that end lines.

## Main definitions

* `rows`: the rows of a text with their ends.
* `Stretch`: neighbouring rows that are equal in both texts, or changed.
* `unified`: the difference of two texts.
-/

namespace CommandManual

namespace Difference

/-- A character that ends a row. -/
def endsRow (c : Char) : Bool :=
  let n := c.toNat
  (0x0A ≤ n && n ≤ 0x0D) || (0x1C ≤ n && n ≤ 0x1E) || n == 0x85 || n == 0x2028 || n == 0x2029

/-- The rows of a text, each with its end. A carriage return and a newline are one end. -/
def rows : Text → List Text
  | [] => []
  | '\r' :: '\n' :: t => ['\r', '\n'] :: rows t
  | c :: t =>
    if endsRow c then [c] :: rows t
    else match rows t with
      | [] => [[c]]
      | r :: rs => (c :: r) :: rs

/-- Neighbouring rows: where they begin and end in both texts, and whether they are equal. -/
structure Stretch where
  equal : Bool
  left : Nat
  leftEnd : Nat
  right : Nat
  rightEnd : Nat
  deriving DecidableEq, Repr

/-- The stretches behind the places `i` and `j`, given the runs of equal rows there. -/
def stretchesFrom (leftEnd rightEnd i j : Nat) : List Run → List Stretch
  | [] => if i < leftEnd || j < rightEnd then [⟨false, i, leftEnd, j, rightEnd⟩] else []
  | r :: rs =>
    (if i < r.left || j < r.right then [⟨false, i, r.left, j, r.right⟩] else [])
      ++ ⟨true, r.left, r.left + r.size, r.right, r.right + r.size⟩
      :: stretchesFrom leftEnd rightEnd (r.left + r.size) (r.right + r.size) rs

/-- The number of rows shown around a change. -/
def context : Nat := 3

namespace Stretch

/-- The rows at the head of an equal stretch that are shown behind a change. -/
def head (s : Stretch) : Stretch :=
  { s with leftEnd := min s.leftEnd (s.left + context)
           rightEnd := min s.rightEnd (s.right + context) }

/-- The rows at the end of an equal stretch that are shown in front of a change. -/
def tail (s : Stretch) : Stretch :=
  { s with left := max s.left (s.leftEnd - context), right := max s.right (s.rightEnd - context) }

end Stretch

/-- Stretches where the first one is cut at its head and the last one at its end, if they are
equal. -/
def trimEnds (ss : List Stretch) : List Stretch :=
  let front := match ss with
    | s :: rest => (if s.equal then s.tail else s) :: rest
    | [] => []
  match front.getLast? with
  | some s => front.dropLast ++ [if s.equal then s.head else s]
  | none => []

/-- The groups of stretches that are shown together. A long equal stretch ends one group and begins
the next one. -/
def groupsFrom (group : List Stretch) : List Stretch → List (List Stretch)
  | [] => if group.any (!·.equal) then [group] else []
  | s :: ss =>
    if s.equal && 2 * context < s.leftEnd - s.left then
      (group ++ [s.head]) :: groupsFrom [s.tail] ss
    else groupsFrom (group ++ [s]) ss

/-- The numbers of rows: the first one, and how many there are unless it is one. -/
def rangeText (start stop : Nat) : Text :=
  if stop - start = 1 then Text.ofNat (start + 1)
  else if stop - start = 0 then Text.ofNat start ++ ",0".toList
  else Text.ofNat (start + 1) ++ ',' :: Text.ofNat (stop - start)

/-- The rows of a list from one place to another, each with a mark in front. -/
def markedRows (mark : Char) (rs : List Text) (start stop : Nat) : Text :=
  ((rs.take stop).drop start).flatMap (mark :: ·)

/-- The text of a stretch. -/
def stretchText (left right : List Text) (s : Stretch) : Text :=
  if s.equal then markedRows ' ' left s.left s.leftEnd
  else markedRows '-' left s.left s.leftEnd ++ markedRows '+' right s.right s.rightEnd

/-- The text of a group, with the numbers of its rows in front. -/
def groupText (left right : List Text) (g : List Stretch) : Text :=
  match g.head?, g.getLast? with
  | some a, some b =>
    "@@ -".toList ++ rangeText a.left b.leftEnd ++ " +".toList ++ rangeText a.right b.rightEnd
      ++ " @@\n".toList ++ g.flatMap (stretchText left right)
  | _, _ => []

/-- The difference of two texts with names. It is empty if the texts are equal. -/
def unified (leftName rightName leftText rightText : Text) : Text :=
  let left := rows leftText
  let right := rows rightText
  let ss := stretchesFrom left.length right.length 0 0 (commonRuns left right)
  match groupsFrom [] (trimEnds ss) with
  | [] => []
  | groups =>
    "--- ".toList ++ leftName ++ "\n+++ ".toList ++ rightName
      ++ '\n' :: groups.flatMap (groupText left right)

end Difference

end CommandManual
