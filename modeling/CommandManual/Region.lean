import CommandManual.Text.Quoted

/-!
# Generated regions of a file

A file carries two delimiter lines, and the lines between them are generated. The first line equal
to the start tag opens the region, and the first line behind it that equals the end tag closes it.
A carriage return at the end of a line does not count.

## Main definitions

* `Tags`: a pair of delimiters; `Tags.ofList` reads it from a list of tags.
* `Region`: where a region begins and ends; `Region.find` looks for it.
* `block`: the text of a region.
* `Region.text`, `Region.patch`: what a region holds, and the content with another text in it.

## Implementation notes

Offsets count characters. The region begins behind the newline of the start line and ends in front
of the end line, so that the content is the text in front of the region, the region, and the text
behind it, whatever the line ends are.
-/

namespace CommandManual

/-- The delimiter lines of a region; neither is empty. -/
structure Tags where
  opening : Text
  closing : Text
  opening_ne : opening ≠ []
  closing_ne : closing ≠ []
  deriving DecidableEq

/-- Why a list of tags is no pair of delimiters. -/
inductive Tags.Fault where
  /-- There are neither none nor two. -/
  | count (n : Nat)
  /-- One of the two is empty. -/
  | empty
  deriving DecidableEq, Repr

/-- The wording of a fault. -/
def Tags.Fault.message : Tags.Fault → Text
  | .count n => "Expected a start and an end tag, got ".toList ++ Text.ofNat n ++ " tag(s)".toList
  | .empty => "Tags must not be empty".toList

namespace Tags

/-- The start tag of a file that names none. -/
def defaultOpening : Text := "<!--GENERATED:CLI_DOCS-->".toList

/-- The end tag of a file that names none. -/
def defaultClosing : Text := "<!--/GENERATED:CLI_DOCS-->".toList

/-- The delimiters of a file that names none. -/
def standard : Tags := ⟨defaultOpening, defaultClosing, by decide, by decide⟩

/-- Two texts as delimiters. -/
def ofPair (opening closing : Text) : Except Fault Tags :=
  if h : opening ≠ [] ∧ closing ≠ [] then .ok ⟨opening, closing, h.1, h.2⟩ else .error .empty

/-- The delimiters that a list gives: the usual ones if it is empty. -/
def ofList : List Text → Except Fault Tags
  | [] => .ok standard
  | [opening, closing] => ofPair opening closing
  | ts => .error (.count ts.length)

end Tags

/-- A tag that no line of a content equals, in the part where it was looked for. -/
structure MissingTag where
  tag : Text
  deriving DecidableEq, Repr

/-- The wording of a missing tag; `source` names the content. -/
def MissingTag.message (m : MissingTag) (source : Text) : Text :=
  "Tag ".toList ++ m.tag.quoted ++ " not found in ".toList ++ source

/-- The place of a region: the offset of its first character, and the offset behind its last. -/
structure Region where
  start : Nat
  stop : Nat
  deriving DecidableEq, Repr

namespace Region

/-- Does a line equal a tag? -/
def isTag (tag line : Text) : Bool := Text.withoutReturn line == tag

/-- Look for the end tag in lines that begin at an offset. -/
def findClosing (tag : Text) (start offset : Nat) : List Text → Except MissingTag Region
  | [] => .error ⟨tag⟩
  | l :: ls =>
    if isTag tag l then .ok ⟨start, offset⟩ else findClosing tag start (offset + l.length + 1) ls

/-- Look for the start tag in lines that begin at an offset, and for the end tag behind it. -/
def findOpening (tags : Tags) (offset : Nat) : List Text → Except MissingTag Region
  | [] => .error ⟨tags.opening⟩
  | l :: ls =>
    let next := offset + l.length + 1
    if isTag tags.opening l then findClosing tags.closing next next ls
    else findOpening tags next ls

/-- The first region of a content. -/
def find (tags : Tags) (content : Text) : Except MissingTag Region :=
  findOpening tags 0 (Text.lines content)

/-- What a region holds. -/
def text (r : Region) (content : Text) : Text := (content.take r.stop).drop r.start

/-- The content with another text in the region. -/
def patch (r : Region) (new content : Text) : Text :=
  content.take r.start ++ new ++ content.drop r.stop

/-- What the first region of a content holds. -/
def extract (tags : Tags) (content : Text) : Except MissingTag Text :=
  (find tags content).map fun r => r.text content

/-- The content with another text in its first region. -/
def replace (tags : Tags) (new content : Text) : Except MissingTag Text :=
  (find tags content).map fun r => r.patch new content

end Region

/-- The line that says that a region is generated. -/
def generatedComment : Text :=
  "<!-- Documentation inside this block generated by clidoc; DO NOT EDIT -->".toList

/-- The text of a region: the document, with or without the comment in front. -/
def generatedBlock (annotate : Bool) (document : Text) : Text :=
  (if annotate then generatedComment ++ ['\n'] else []) ++ document ++ ['\n']

end CommandManual
