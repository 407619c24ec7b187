import CommandManual.Text.Blank

/-!
# Blocks of a Markdown document

The part of Markdown that the narrative document uses: headings, fenced and indented code,
quotations, bullet items and paragraphs. A blank line ends every block but fenced code, and blank
lines inside indented code belong to it.

## Main definitions

* `Block`: the kinds of block.
* `heading?`, `bullet?`, `opensBlock`: what the beginning of a line says.
* `blocks`: the blocks of the lines of a document, or the first `Fault`.
-/

namespace CommandManual

namespace Markdown

/-- A block of a document. -/
inductive Block where
  /-- A heading with its number of hashes. -/
  | heading (level : Nat) (title : Text)
  /-- Literal lines, fenced or indented. -/
  | code (lines : List Text)
  | quote (lines : List Text)
  | bullet (text : Text)
  | paragraph (lines : List Text)
  deriving DecidableEq, Repr

/-- Why a text is not a document. Lines are counted from one. -/
inductive Fault where
  /-- Every line is blank. -/
  | empty
  /-- The first line that is not blank is no title line. -/
  | noTitle
  /-- The title line names no page. -/
  | noName
  /-- The fence opened on a line is never closed. -/
  | openFence (line : Nat)
  /-- The heading on a line has no text. -/
  | emptyHeading (line : Nat)
  deriving DecidableEq, Repr

/-- The wording of a fault. -/
def Fault.message : Fault → Text
  | .empty => "Cannot convert an empty document".toList
  | .noTitle => "Missing title block: document must start with '% name section'".toList
  | .noName => "Title block has no page name".toList
  | .openFence n => "Unterminated code fence opened on line ".toList ++ Text.ofNat n
  | .emptyHeading n => "Empty heading on line ".toList ++ Text.ofNat n

/-! ### What the beginning of a line says -/

/-- The mark that opens and closes fenced code. -/
def fence : Text := "```".toList

/-- Does the line open or close fenced code? -/
def isFence (l : Text) : Bool := l.startsWith fence

/-- The spaces in front of indented code. -/
def codeIndent : Text := "    ".toList

/-- Is the line indented as code is? -/
def isIndented (l : Text) : Bool := l.startsWith codeIndent

/-- Is the line a quotation? -/
def isQuoted (l : Text) : Bool := l.startsWith ['>']

/-- A heading: one to six hashes, and then nothing or a blank and the title. -/
def heading? (l : Text) : Option (Nat × Text) :=
  let hashes := l.takeWhile (· = '#')
  if hashes.isEmpty || 6 < hashes.length then none
  else match l.dropWhile (· = '#') with
    | [] => some (hashes.length, [])
    | c :: t => if isBlank c then some (hashes.length, Text.strip t) else none

/-- A bullet item: a hyphen or an asterisk, a blank, and the item's text. -/
def bullet? : Text → Option Text
  | m :: c :: t => if (m = '-' || m = '*') && isBlank c then some (t.dropWhile isBlank) else none
  | _ => none

/-- Does the line begin a block that ends a paragraph above it? -/
def opensBlock (l : Text) : Bool :=
  isFence l || isIndented l || isQuoted l || (heading? l).isSome || (bullet? l).isSome

/-! ### Cutting a document into blocks -/

/-- The lines up to the closing fence and the lines behind it, if there is a closing fence. -/
def splitFence : List Text → Option (List Text × List Text)
  | [] => none
  | l :: ls => if isFence l then some ([], ls) else (splitFence ls).map fun r => (l :: r.1, r.2)

theorem length_of_splitFence {ls body rest : List Text} (h : splitFence ls = some (body, rest)) :
    body.length + rest.length + 1 = ls.length := by
  induction ls generalizing body with
  | nil => simp [splitFence] at h
  | cons l ls ih =>
    rw [splitFence] at h
    split at h
    · simp only [Option.some.injEq, Prod.mk.injEq] at h
      simp [← h.1, ← h.2]
    · simp only [Option.map_eq_some_iff, Prod.mk.injEq] at h
      obtain ⟨⟨b, r⟩, hr, rfl, rfl⟩ := h
      have := ih hr
      simp only [List.length_cons] at this ⊢
      omega

/-- May the line continue indented code? -/
def continuesCode (l : Text) : Bool := isIndented l || l.isBlankText

/-- May the line continue a paragraph? -/
def continuesParagraph (l : Text) : Bool := !l.isBlankText && !opensBlock l

/-- The literal lines of indented code: without the indentation, and without blank lines at the
end. -/
def codeLines (ls : List Text) : List Text :=
  ((ls.map (·.drop codeIndent.length)).reverse.dropWhile Text.isBlankText).reverse

/-- The text of a line of a quotation. -/
def quotedText (l : Text) : Text := Text.strip (l.drop 1)

/-- The blocks of some lines, the first of which has the number `n`. -/
def blocks (n : Nat) : List Text → Except Fault (List Block)
  | [] => .ok []
  | l :: ls =>
    if l.isBlankText then blocks (n + 1) ls
    else if isFence l then
      match h : splitFence ls with
      | none => .error (.openFence n)
      | some (body, rest) =>
        have := length_of_splitFence h
        (Block.code body :: ·) <$> blocks (n + body.length + 2) rest
    else match heading? l with
    | some (level, title) =>
      if title.isEmpty then .error (.emptyHeading n)
      else (Block.heading level title :: ·) <$> blocks (n + 1) ls
    | none =>
      if isIndented l then
        let body := ls.takeWhile continuesCode
        (Block.code (codeLines (l :: body)) :: ·) <$>
          blocks (n + 1 + body.length) (ls.dropWhile continuesCode)
      else if isQuoted l then
        let body := ls.takeWhile isQuoted
        (Block.quote ((l :: body).map quotedText) :: ·) <$>
          blocks (n + 1 + body.length) (ls.dropWhile isQuoted)
      else match bullet? l with
      | some text => (Block.bullet text :: ·) <$> blocks (n + 1) ls
      | none =>
        let body := ls.takeWhile continuesParagraph
        (Block.paragraph ((l :: body).map Text.strip) :: ·) <$>
          blocks (n + 1 + body.length) (ls.dropWhile continuesParagraph)
  termination_by ls => ls.length
  decreasing_by
    all_goals simp only [List.length_cons]
    all_goals first
      | omega
      | exact Nat.lt_succ_of_le (List.dropWhile_sublist _).length_le

end Markdown

end CommandManual
