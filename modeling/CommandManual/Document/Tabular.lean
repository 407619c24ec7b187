import CommandManual.View.Document

/-!
# The tabular document

A compact Markdown document with a section for every command and the flags of each in tables. Rows
have four cells: the names, the usage, the default and the environment variables.

## Main definitions

* `Tabular.row`: the row of a flag.
* `Tabular.draft`, `Tabular.render`: the document of a view before and after its blank lines are
  tidied.
-/

namespace CommandManual

namespace Tabular

/-- A text as a code span. -/
def code (t : Text) : Text := Text.backtick :: t ++ [Text.backtick]

/-- A flag's name in a table, with a sign for the value it takes. -/
def nameSpan (f : FlagView) (name : Text) : Text :=
  code (name ++ if f.takesValue then "=\"…\"".toList else [])

/-- The cell of the environment variables. -/
def envCell (f : FlagView) : Text :=
  if f.envVars.isEmpty then "*none*".toList else Text.commaList (f.envVars.map code)

/-- The cell of the default; empty when there is none. -/
def defaultCell (f : FlagView) : Text := if f.default.isEmpty then [] else code f.default

/-- The row of a flag. -/
def row (f : FlagView) : Text :=
  "| ".toList ++ Text.commaList (f.names.map (nameSpan f)) ++ " | ".toList ++ f.usage
    ++ " | ".toList ++ defaultCell f ++ " | ".toList ++ envCell f ++ " |".toList

/-- The two lines above the rows of a table. -/
def tableHead : List Text :=
  ["| Name | Description | Default value | Environment variables |".toList,
    "|------|-------------|:-------------:|:---------------------:|".toList]

/-- The table of a group, under the label of the group. -/
def groupTable (g : FlagGroup) : Text :=
  '\n' :: (if g.category.isEmpty then [] else "**".toList ++ g.category ++ "**\n".toList)
    ++ '\n' :: Text.terminated (tableHead ++ g.flags.map row) ++ ['\n']

/-- A text as a sentence of its own; nothing stands for the empty text. -/
def sentence (t : Text) : Text := if t.isEmpty then [] else t ++ ['.']

/-- Lines as a quotation. -/
def quotation (ls : List Text) : Text := Text.terminated (ls.map fun l => '>' :: ' ' :: l)

/-- A usage line of a shell. -/
def shellBlock (line : Text) : Text := "Usage:\n\n```bash\n$ ".toList ++ line ++ "\n```\n\n".toList

/-- The positional arguments in a usage line. -/
def argsText (args : Text) : Text := if args.isEmpty then "[ARGUMENTS...]".toList else args

/-- The heading of a command. -/
def commandHeading (c : CommandSummary) : Text :=
  "### ".toList ++ code c.fullName ++ ' ' :: (if 0 < c.level then "sub".toList else [])
    ++ "command".toList
    ++ if c.aliases.isEmpty then []
       else " (aliases: ".toList ++ Text.commaList (c.aliases.map code) ++ [')']

/-- The section of a command. -/
def commandSection (calledAs : Text) (c : CommandSummary) : Text :=
  commandHeading c ++ "\n\n".toList ++ sentence c.usage ++ "\n\n".toList
    ++ quotation c.usageTextLines ++ '\n' :: sentence c.description ++ "\n\n".toList
    ++ shellBlock (calledAs ++ " [GLOBAL FLAGS] ".toList ++ c.fullName
        ++ (if c.flags.isEmpty then [] else " [COMMAND FLAGS]".toList)
        ++ ' ' :: argsText c.argsUsage)
    ++ if c.flags.isEmpty then []
       else "The following flags are supported:\n".toList ++ c.flagGroups.flatMap groupTable

/-- The document before its blank lines are tidied. -/
def draft (v : DocumentView) : Text :=
  "## CLI interface - ".toList ++ v.calledAs ++ "\n\n".toList
    ++ (if v.description.isEmpty then [] else Prose.cell v.description ++ ['.'])
    ++ "\n\n".toList
    ++ (if v.usage.isEmpty then [] else Prose.cell v.usage ++ ['.'])
    ++ "\n\n".toList ++ quotation v.usageTextLines ++ '\n' ::
      shellBlock (v.calledAs
        ++ (if v.flags.isEmpty then [] else " [GLOBAL FLAGS]".toList)
        ++ (if v.commands.isEmpty then [] else " [COMMAND] [COMMAND FLAGS]".toList)
        ++ ' ' :: argsText v.argsUsage)
    ++ (if v.flags.isEmpty then []
        else "Global flags:\n".toList ++ v.flagGroups.flatMap groupTable)
    ++ "\n\n".toList
    ++ (v.allCommands.flatMap fun c => commandSection v.calledAs c.summary ++ "\n\n".toList)
    ++ '\n' :: (if v.authors.isEmpty then []
        else "### Authors\n\n".toList ++ Text.terminated (v.authors.map fun a => '-' :: ' ' :: a))
    ++ ['\n']

/-- The tabular document of a view. -/
def render (v : DocumentView) : Text := Prose.tidy (draft v)

end Tabular

end CommandManual
