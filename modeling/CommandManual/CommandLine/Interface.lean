import CommandManual.Declaration.Basic

/-!
# The interface of the program

The program declares its own commands like any other program: there are global options, and a
command for each document and for each thing to do with the region of a file. What is declared here
is what its command line is read by, and what its own manual is made from.

## Main definitions

* `Interface.Command`: the commands.
* `Interface.globalOptions`, `Interface.Command.parameters`: what can be given to the program and
  to each command.
* `Interface.declaration`: the declared program.
-/

namespace CommandManual

namespace Interface

/-- The name of the program. -/
def program : Text := "clidoc".toList

/-- What is printed when the version is asked for. -/
def versionLine : Text := program ++ ", version 0.1.0\n".toList

/-! ### Options -/

/-- The keys of the options: the first way to type each of them. -/
def appKey : Text := "--app".toList

@[inherit_doc appKey] def definitionKey : Text := "--definition".toList
@[inherit_doc appKey] def configKey : Text := "--config".toList
@[inherit_doc appKey] def verboseKey : Text := "--verbose".toList
@[inherit_doc appKey] def versionKey : Text := "--version".toList
@[inherit_doc appKey] def helpKey : Text := "--help".toList
@[inherit_doc appKey] def outputKey : Text := "--output".toList
@[inherit_doc appKey] def calledAsKey : Text := "--app-path".toList
@[inherit_doc appKey] def sectionKey : Text := "--section".toList
@[inherit_doc appKey] def openingKey : Text := "--start-tag".toList
@[inherit_doc appKey] def closingKey : Text := "--end-tag".toList
@[inherit_doc appKey] def annotateKey : Text := "--annotate".toList
@[inherit_doc appKey] def diffKey : Text := "--diff".toList

/-- The option that shows the help of every command. It is not part of manuals. -/
def help : DeclaredOption := { spellings := [helpKey, "-h".toList], isFlag := true, type := .bool }

/-- The options in front of the command. -/
def globalOptions : List DeclaredOption := [
  { spellings := [appKey], help := "Click command to document".toList },
  { spellings := [definitionKey], type := .path
    help := "YAML file describing the command tree".toList },
  { spellings := [configKey], type := .path, help := "Config file path".toList },
  { spellings := [verboseKey, "-v".toList], isFlag := true, type := .bool
    help := "Verbose output".toList },
  { spellings := [versionKey], isFlag := true, type := .bool
    help := "Show the version and exit.".toList }]

/-- Where a document is written. -/
def output : DeclaredOption :=
  { spellings := [outputKey, "-o".toList], type := .path
    help := "Write to FILE instead of stdout".toList }

/-- What the application is called in the tabular document. -/
def calledAs : DeclaredOption :=
  { spellings := [calledAsKey]
    help := "Display name used in headings and usage lines (default: application name)".toList }

/-- The section of a manual page. -/
def manualSection : DeclaredOption :=
  { spellings := [sectionKey], type := .int
    help := "Man page section number (default: 1)".toList }

/-- The file with a region, the delimiters of the region, and whether it begins with a comment. -/
def region (annotateHelp : String) : List DeclaredParameter := [
  .argument { name := "file".toList },
  .option calledAs,
  .option { spellings := [openingKey]
            help := "Opening delimiter line (default: <!--GENERATED:CLI_DOCS-->)".toList },
  .option { spellings := [closingKey]
            help := "Closing delimiter line (default: <!--/GENERATED:CLI_DOCS-->)".toList },
  .option { spellings := [annotateKey], offSpellings := ["--no-annotate".toList], isFlag := true
            type := .bool, help := annotateHelp.toList }]

/-! ### Commands -/

/-- The commands of the program. -/
inductive Command where
  | markdown
  | tabular
  | man
  | inject
  | check
  deriving DecidableEq, Repr

namespace Command

/-- The commands in their order. -/
def all : List Command := [.markdown, .tabular, .man, .inject, .check]

/-- The name of a command. -/
def name : Command → Text
  | .markdown => "markdown".toList
  | .tabular => "tabular".toList
  | .man => "man".toList
  | .inject => "inject".toList
  | .check => "check".toList

/-- The command with a name. -/
def ofName? (t : Text) : Option Command := all.find? (·.name = t)

@[simp] theorem ofName?_name (c : Command) : ofName? c.name = some c := by cases c <;> decide

/-- What a command is for. -/
def summary : Command → Text
  | .markdown => "Render narrative Markdown documentation.".toList
  | .tabular => "Render tabular Markdown documentation.".toList
  | .man => "Render a troff man page.".toList
  | .inject => "Replace the generated block in FILE with tabular Markdown.".toList
  | .check => "Exit with status 1 if the generated block in FILE is out of date.".toList

/-- What can be given to a command. -/
def parameters : Command → List DeclaredParameter
  | .markdown => [.option output]
  | .tabular => [.option calledAs, .option output]
  | .man => [.option manualSection, .option output]
  | .inject => region "Insert the 'generated by' comment (default: on)"
  | .check =>
    region "Expect the 'generated by' comment (default: on)"
      ++ [.option { spellings := [diffKey], isFlag := true, type := .bool
                    help := "Show what inject would change".toList }]

/-- The options that are read behind a command. -/
def options (c : Command) : List DeclaredOption :=
  c.parameters.filterMap DeclaredParameter.option? ++ [help]

end Command

/-- The help of the program. -/
def helpText : Text :=
  ("clidoc - render CLI documentation as Markdown or man pages.\n\n"
    ++ "\x08\nExamples:\n"
    ++ "    clidoc --app mypkg.cli:main markdown -o docs/cli.md\n"
    ++ "    clidoc --definition cli.yaml man --section 1 -o greet.1\n"
    ++ "    clidoc --app mypkg.cli:main inject README.md\n\n"
    ++ "\x08\nCONFIGURATION:\n"
    ++ "    .clidoc.toml or [tool.clidoc] in pyproject.toml\n"
    ++ "    Keys: app_path, section, start_tag, end_tag, annotate").toList

/-- The declaration of one command. -/
def declared (c : Command) : Declaration :=
  .mk { name := c.name, help := c.summary, parameters := c.parameters } []

/-- The declaration of the program. -/
def declaration : Declaration :=
  .mk { name := "main".toList, help := helpText, parameters := globalOptions.map .option }
    (Command.all.map fun c => (c.name, declared c))

end Interface

end CommandManual
