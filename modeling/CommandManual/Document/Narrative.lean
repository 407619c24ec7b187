import CommandManual.View.Document

/-!
# The narrative document

A Markdown document in the order of a manual page: name, synopsis, description, options, commands,
authors and copyright. With a section of the manual it begins with a title line, which is what
turns it into a page.

## Main definitions

* `Narrative.render`: the document of a view.
-/

namespace CommandManual

namespace Narrative

/-- A part of the document that is left out when there is nothing to put into it. -/
def unlessEmpty {α : Type} (xs : List α) (part : Text) : Text := if xs.isEmpty then [] else part

/-- The title line of a document for a section of the manual. -/
def titleLine (v : DocumentView) : Text :=
  if 0 < v.manualSection then
    "% ".toList ++ v.name ++ ' ' :: Text.ofInt v.manualSection ++ "\n\n".toList
  else []

/-- The name of the application, with its summary. -/
def namePart (v : DocumentView) : Text :=
  "# NAME\n\n".toList ++ v.name ++ unlessEmpty v.usage (" - ".toList ++ v.usage)

/-- The name of the application and how each of its flags is typed. -/
def synopsisPart (v : DocumentView) : Text :=
  "\n\n# SYNOPSIS\n\n".toList ++ v.name ++ '\n' ::
    unlessEmpty v.synopsisArgs
      ("\n```\n".toList ++ Text.terminated v.synopsisArgs ++ "```\n".toList)

/-- The description of the application. -/
def descriptionPart (v : DocumentView) : Text :=
  unlessEmpty v.description ("\n# DESCRIPTION\n\n".toList ++ v.description ++ ['\n'])

/-- The usage line of an application that has no usage text. -/
def usageLine (v : DocumentView) : Text :=
  "```\n".toList ++ v.calledAs ++ " [GLOBAL OPTIONS]".toList
    ++ unlessEmpty v.commands " [command [COMMAND OPTIONS]]".toList
    ++ " [ARGUMENTS...]\n```\n".toList

/-- The usage text of the application, or its usage line. -/
def usagePart (v : DocumentView) : Text :=
  "\n**Usage**:\n\n".toList ++ if v.usageText.isEmpty then usageLine v else v.usageText

/-- The flags of a group, each in a paragraph of its own, under the label of the group. -/
def groupPart (g : FlagGroup) : Text :=
  unlessEmpty g.category ("\n**".toList ++ g.category ++ "**\n".toList)
    ++ g.flags.flatMap fun f => '\n' :: f.display ++ ['\n']

/-- The flags of the application. -/
def optionsPart (v : DocumentView) : Text :=
  unlessEmpty v.flags ("\n# GLOBAL OPTIONS\n".toList ++ v.flagGroups.flatMap groupPart)

/-- The number of hashes of a command's heading: two at the top, and never more than six. -/
def headingLevel (level : Nat) : Nat := min (level + 2) 6

/-- A command: its heading, its summary, its usage text and its flags. -/
def commandPart (c : CommandSummary) : Text :=
  '\n' :: List.replicate (headingLevel c.level) '#' ++ ' ' :: Text.commaList c.names
    ++ "\n\n".toList ++ c.usageBlock ++ c.usageText ++ c.flagGroups.flatMap groupPart

/-- The commands of the application. -/
def commandsPart (v : DocumentView) : Text :=
  unlessEmpty v.commands
    ("\n# COMMANDS\n".toList ++ v.allCommands.flatMap fun c => commandPart c.summary)

/-- The authors of the application. -/
def authorsPart (v : DocumentView) : Text :=
  unlessEmpty v.authors
    ("\n# AUTHORS\n".toList ++ (v.authors.flatMap fun a => "\n- ".toList ++ a) ++ ['\n'])

/-- The copyright of the application. -/
def copyrightPart (v : DocumentView) : Text :=
  unlessEmpty v.copyright ("\n# COPYRIGHT\n\n".toList ++ v.copyright ++ ['\n'])

/-- The narrative document of a view. -/
def render (v : DocumentView) : Text :=
  titleLine v ++ namePart v ++ synopsisPart v ++ descriptionPart v ++ usagePart v
    ++ optionsPart v ++ commandsPart v ++ authorsPart v ++ copyrightPart v

end Narrative

end CommandManual
