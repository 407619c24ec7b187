import CommandManual.View.Command

/-!
# What a document shows of an application

`DocumentView.ofCommand` is computed once for a tree; every document is a layout of it. Hidden
commands and flags are left out here and nowhere else.
-/

namespace CommandManual

/-- What a document shows of an application. -/
structure DocumentView where
  name : Text
  /-- The name that the application is called by in usage lines and headings. -/
  calledAs : Text
  /-- The section of the manual; zero for a document that is no manual page. -/
  manualSection : Int
  usage : Text
  usageText : Text
  usageTextLines : List Text
  argsUsage : Text
  description : Text
  flags : List FlagView
  flagGroups : List FlagGroup
  synopsisArgs : List Text
  commands : List CommandView
  /-- Every visible command, in the order in which a reader meets them. -/
  allCommands : List CommandView
  authors : List Text
  copyright : Text

namespace DocumentView

/-- The name of an application that has none. -/
def namelessApp : Text := "app".toList

/-- The name that an application is called by: the one asked for, else its own. -/
def callName (asked name : Text) : Text := Text.firstGiven [asked, name, namelessApp]

/-- What a document shows of an application. An empty `asked` asks for no particular name. -/
def ofCommand (root : Command) (asked : Text) (manualSection : Int) : DocumentView :=
  let d := root.details
  let groups := groupFlags d.flags
  let flags := groupedFlags groups
  let views := Offspring.grow .mk 1 (walk 1 ((visitsBelow root 0 []).map (⟨·, 0⟩)))
  { name := d.name
    calledAs := callName asked d.name
    manualSection := manualSection
    usage := Prose.oneLine d.usage
    usageText := Prose.usageBlock Prose.blockIndent d.usageText
    usageTextLines := Prose.inkedLines d.usageText
    argsUsage := Prose.cell d.argsUsage
    description := d.description
    flags := flags
    flagGroups := groups
    synopsisArgs := flags.map (·.synopsis)
    commands := views.below 0
    allCommands := views.all
    authors := d.authors.map Author.shown
    copyright := d.copyright }

end DocumentView

end CommandManual
