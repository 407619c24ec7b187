import CommandManual.Markdown.Document
import CommandManual.Roff.Inline

/-!
# Manual pages

The source of a manual page is made of requests, which begin with a full stop, and lines of text.
A page begins with its title; every block of the document becomes a request with its text.

## Main definitions

* `Roff.blockLines`: the source lines of a block.
* `Roff.Page`: the title and the source lines of a page.
* `Roff.convert`: the page of a Markdown text.
-/

namespace CommandManual

namespace Roff

/-- The source lines of a block. -/
def blockLines : Markdown.Block → List Text
  | .heading level title => [(if level = 1 then ".SH ".toList else ".SS ".toList) ++ inline title]
  | .code lines => ".EX".toList :: lines.map escape ++ [".EE".toList]
  | .quote lines => ".PP".toList :: ".RS".toList :: lines.map inline ++ [".RE".toList]
  | .bullet text => [".IP \\(bu 2".toList, inline text]
  | .paragraph lines => ".PP".toList :: lines.map inline

/-- A manual page. -/
structure Page where
  title : Markdown.Title
  lines : List Text
  deriving DecidableEq, Repr

/-- The two lines in front of a page's blocks: no hyphenation, and the title. -/
def titleLines (t : Markdown.Title) : List Text :=
  [".nh".toList, ".TH ".toList ++ escape t.name ++ ' ' :: escape t.manual]

/-- The page of a document. -/
def Page.ofDocument (d : Markdown.Document) : Page :=
  ⟨d.title, titleLines d.title ++ d.blocks.flatMap blockLines⟩

/-- The source of a page. -/
def Page.text (p : Page) : Text := Text.terminated p.lines

/-- The page of a Markdown text. -/
def convert (t : Text) : Except Markdown.Fault Page := Page.ofDocument <$> Markdown.Document.ofText t

end Roff

end CommandManual
