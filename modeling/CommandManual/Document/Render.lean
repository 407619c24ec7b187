import CommandManual.Document.Narrative
import CommandManual.Document.Tabular
import CommandManual.Roff.Page
import CommandManual.Template.Render
import CommandManual.View.Fault

/-!
# Rendering documents

A document of a tree in one of three forms. The narrative and the tabular document can take their
layout from a template; a manual page is the narrative document for a section, converted.

## Main definitions

* `DocumentFault`: why there is no document.
* `renderNarrative`, `renderTabular`, `renderManual`: the three documents.
-/

namespace CommandManual

/-- Why there is no document of a tree. -/
inductive DocumentFault where
  /-- Manual pages belong to a section from one on. -/
  | manualSection (n : Int)
  /-- Something that the document has to show cannot be shown. -/
  | view (f : ViewFault)
  | template (f : Template.Fault)
  | conversion (f : Markdown.Fault)
  deriving DecidableEq, Repr

/-- The wording of a fault. -/
def DocumentFault.message : DocumentFault → Text
  | .manualSection n => "Man page section must be >= 1, got ".toList ++ Text.ofInt n
  | .view f => f.message
  | .template f => f.message
  | .conversion f => f.message

/-- The layout of a view: by a template if there is one, else the usual one, in which the section of
a manual page is written. -/
def layOut (template : Option Text) (usual : DocumentView → Text) (v : DocumentView) :
    Except DocumentFault Text :=
  match template with
  | none => if isWritable v.manualSection then .ok (usual v) else .error (.view .digits)
  | some t => (Template.render t v).mapError .template

/-- The usual layout of a view is made unless its section is too long to be written. -/
theorem layOut_none (usual : DocumentView → Text) {v : DocumentView}
    (h : isWritable v.manualSection = true) : layOut none usual v = .ok (usual v) := by
  rw [layOut, if_pos h]

theorem layOut_none_of_not_isWritable (usual : DocumentView → Text) {v : DocumentView}
    (h : isWritable v.manualSection = false) : layOut none usual v = .error (.view .digits) := by
  rw [layOut, if_neg (by simp [h])]

/-- The narrative document. -/
def renderNarrative (template : Option Text) (root : Command) (manualSection : Int) :
    Except DocumentFault Text := do
  layOut template Narrative.render (← (DocumentView.build root [] manualSection).mapError .view)

/-- The tabular document, under a name that is asked for or the application's own. -/
def renderTabular (template : Option Text) (root : Command) (asked : Text) :
    Except DocumentFault Text := do
  let v ← (DocumentView.build root asked 0).mapError .view
  return Prose.tidy (← layOut template Tabular.draft v)

/-- The manual page of a section. -/
def renderManual (template : Option Text) (root : Command) (manualSection : Int) :
    Except DocumentFault Roff.Page := do
  if manualSection < 1 then throw (.manualSection manualSection)
  let markdown ← renderNarrative template root manualSection
  (Roff.convert markdown).mapError .conversion

end CommandManual
