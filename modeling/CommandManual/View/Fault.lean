import CommandManual.View.Document

/-!
# Views that cannot be made

A flag can have something among its names that is no name, and a default that is a number too long
to be written. As long as the flag is hidden this does no harm; a document that has to show it
cannot be made.

## Main definitions

* `ViewFault`: why an application cannot be shown.
* `Flag.viewFault?`, `Command.viewFault?`, `viewFaults?`: the first fault of a flag, of a command,
  and of a list of commands.
* `DocumentView.build`: what a document shows of an application, or the first fault.

## Main results

* `DocumentView.build_eq_ok`: without a fault the view is that of the command.
-/

namespace CommandManual

/-- Why an application cannot be shown. -/
inductive ViewFault where
  /-- A flag has something among its names that is no text. -/
  | nameKind
  /-- A number has too many digits to be written. -/
  | digits
  deriving DecidableEq, Repr

/-- The wording of a fault; a name that is no text has none. -/
def ViewFault.message : ViewFault → Text
  | .nameKind => []
  | .digits => unwritableMessage

/-- Why a flag cannot be shown. Its names come first, then its default if that is shown. -/
def Flag.viewFault? (f : Flag) : Option ViewFault :=
  if !f.strays.isEmpty then some .nameKind
  else if f.takesValue && f.defaultText.isEmpty && !f.defaultValue.isWritable then some .digits
  else none

/-- Why the flags of a command cannot be shown: the fault of the first visible flag that has one. -/
def CommandDetails.viewFault? (d : CommandDetails) : Option ViewFault :=
  d.visibleFlags.findSome? Flag.viewFault?

mutual

/-- Why a command cannot be shown with those below it, from the top. -/
def Command.viewFault? : Command → Option ViewFault
  | .mk d cs => d.viewFault?.or (viewFaults? cs)

/-- Why the visible commands of a list cannot be shown. -/
def viewFaults? : List Command → Option ViewFault
  | [] => none
  | c :: cs => if c.hidden then viewFaults? cs else c.viewFault?.or (viewFaults? cs)

end

namespace DocumentView

/-- Why an application cannot be shown. Its own flags come after all commands. -/
def fault? (root : Command) : Option ViewFault :=
  (viewFaults? root.commands).or root.details.viewFault?

/-- What a document shows of an application, if it can be shown. -/
def build (root : Command) (asked : Text) (manualSection : Int) : Except ViewFault DocumentView :=
  match fault? root with
  | some f => .error f
  | none => .ok (ofCommand root asked manualSection)

/-- Without a fault the view is that of the command. -/
theorem build_eq_ok {root : Command} (h : fault? root = none) (asked : Text) (manualSection : Int) :
    build root asked manualSection = .ok (ofCommand root asked manualSection) := by
  rw [build, h]

end DocumentView

end CommandManual
