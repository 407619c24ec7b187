import CommandManual.Markdown.Block

/-!
# Markdown documents with a title line

A document for a manual page begins with a title line: a percent sign, the name of the page and the
section it belongs to. The blocks follow.

## Main definitions

* `Document`: a title and blocks.
* `Document.ofText`: the document that a text spells, or the first `Fault`.
-/

namespace CommandManual

namespace Markdown

/-- The name of a page and the section of the manual that it belongs to. -/
structure Title where
  name : Text
  manual : Text
  deriving DecidableEq, Repr

/-- A document with a title line. -/
structure Document where
  title : Title
  blocks : List Block
  deriving DecidableEq, Repr

/-- The title that a line spells. A page without a section is in the first one, and words after
the section are ignored. -/
def Title.ofLine (l : Text) : Except Fault Title :=
  match l with
  | '%' :: t =>
    match Text.words t with
    | [] => .error .noName
    | [name] => .ok ⟨name, ['1']⟩
    | name :: manual :: _ => .ok ⟨name, manual⟩
  | _ => .error .noTitle

/-- The document that lines spell: blank lines, the title line, and the blocks behind it. -/
def Document.ofLines (ls : List Text) : Except Fault Document :=
  match ls.dropWhile Text.isBlankText with
  | [] => .error .empty
  | l :: rest => do
    let title ← Title.ofLine l
    let body ← Markdown.blocks (ls.length - rest.length + 1) rest
    return ⟨title, body⟩

/-- The document that a text spells. -/
def Document.ofText (t : Text) : Except Fault Document :=
  Document.ofLines (Text.lines (Text.normalizeReturns t))

end Markdown

end CommandManual
