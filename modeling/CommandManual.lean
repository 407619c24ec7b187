import CommandManual.Command.Basic
import CommandManual.Command.Definition
import CommandManual.Command.Flag
import CommandManual.Command.Record
import CommandManual.CommandLine.Arguments
import CommandManual.CommandLine.Ending
import CommandManual.CommandLine.Interface
import CommandManual.CommandLine.Noted
import CommandManual.CommandLine.Request
import CommandManual.CommandLine.Run
import CommandManual.Config
import CommandManual.Declaration.Basic
import CommandManual.Declaration.Command
import CommandManual.Declaration.Registry
import CommandManual.Difference.Matching
import CommandManual.Difference.Unified
import CommandManual.Disk.Access
import CommandManual.Disk.Basic
import CommandManual.Disk.Path
import CommandManual.Document.Narrative
import CommandManual.Document.Render
import CommandManual.Document.Tabular
import CommandManual.Main
import CommandManual.Markdown.Block
import CommandManual.Markdown.Document
import CommandManual.Number.Binary64
import CommandManual.Number.Shortest
import CommandManual.Number.Whole
import CommandManual.Proofs.Command.Prune
import CommandManual.Proofs.Disk.Changes
import CommandManual.Proofs.Disk.Follow
import CommandManual.Proofs.Document.Hidden
import CommandManual.Proofs.Markdown.Blocks
import CommandManual.Proofs.Markdown.Wording
import CommandManual.Proofs.Region.Cut
import CommandManual.Proofs.Region.Lens
import CommandManual.Proofs.Roff.Decode
import CommandManual.Proofs.Roff.Escapes
import CommandManual.Proofs.Roff.Grammar
import CommandManual.Proofs.Session.Replace
import CommandManual.Proofs.Text.Utf8
import CommandManual.Proofs.Workspace.Frame
import CommandManual.Prose
import CommandManual.Region
import CommandManual.Roff.Escape
import CommandManual.Roff.Inline
import CommandManual.Roff.Page
import CommandManual.Session.Step
import CommandManual.Template.Datum
import CommandManual.Template.Part
import CommandManual.Template.Render
import CommandManual.Template.Token
import CommandManual.Text.Basic
import CommandManual.Text.Blank
import CommandManual.Text.Control
import CommandManual.Text.Digit
import CommandManual.Text.Hexadecimal
import CommandManual.Text.Identifier
import CommandManual.Text.Lowercase
import CommandManual.Text.Margin
import CommandManual.Text.Printable
import CommandManual.Text.Quoted
import CommandManual.Text.Ranges
import CommandManual.Text.Uppercase
import CommandManual.Text.Utf8
import CommandManual.Text.Word
import CommandManual.Toml.Number
import CommandManual.Toml.Table
import CommandManual.Toml.Text
import CommandManual.Toml.Value
import CommandManual.Value.Basic
import CommandManual.Value.Moment
import CommandManual.Value.Printed
import CommandManual.View.Command
import CommandManual.View.Document
import CommandManual.View.Fault
import CommandManual.View.Flag
import CommandManual.Workspace.Basic
import CommandManual.Workspace.Configuration
import CommandManual.Workspace.Definition
import CommandManual.Workspace.Injection
import CommandManual.Workspace.Lock
import CommandManual.Yaml.Base64
import CommandManual.Yaml.Cell
import CommandManual.Yaml.Cursor
import CommandManual.Yaml.Document
import CommandManual.Yaml.Fault
import CommandManual.Yaml.Graph
import CommandManual.Yaml.Leaf
import CommandManual.Yaml.Merge
import CommandManual.Yaml.Scalar
import CommandManual.Yaml.Source
import CommandManual.Yaml.Tag
import CommandManual.Yaml.Timestamp
import CommandManual.Yaml.Token
import CommandManual.Yaml.Value
import CommandManual.Proofs.Roff.Payload
import CommandManual.Proofs.View.Groups
import CommandManual.Proofs.View.Listing
import CommandManual.Proofs.Text.Lines
import CommandManual.Proofs.Text.Tidy
import CommandManual.Proofs.Document.Tables
import CommandManual.Proofs.Markdown.Outline
import CommandManual.Proofs.Roff.Headings
import CommandManual.Proofs.Document.Outline
import CommandManual.Proofs.Document.Skeleton
import CommandManual.Proofs.CommandLine.Reading
import CommandManual.Proofs.Workspace.Agreement
import CommandManual.Proofs.CommandLine.Agreement
import CommandManual.Proofs.View.Forest
import CommandManual.Proofs.View.Places
import CommandManual.Proofs.Declaration.Recursion
import CommandManual.Proofs.Declaration.Withheld
import CommandManual.Proofs.Disk.Growth
import CommandManual.Proofs.Disk.Way
import CommandManual.Proofs.Workspace.Development
import CommandManual.Proofs.Workspace.Orderly
import CommandManual.Proofs.Workspace.Locking
import CommandManual.Proofs.Session.Locks
import CommandManual.Proofs.Definition.RoundTrip
import CommandManual.Proofs.Definition.Reported
import CommandManual.Proofs.Toml.Kinds
import CommandManual.Proofs.Workspace.Configuration
import CommandManual.Proofs.Document.Cells
import CommandManual.Proofs.Document.Rows
import CommandManual.Proofs.Roff.Tokens
import CommandManual.Proofs.Roff.Balance
import CommandManual.Proofs.Roff.Fonts
import CommandManual.Proofs.Markdown.FirstBlock
import CommandManual.Proofs.Markdown.Joined
import CommandManual.Proofs.Roff.Joined
import CommandManual.Proofs.Roff.UsageText
import CommandManual.Proofs.Region.Apart
import CommandManual.Proofs.Document.Section
import CommandManual.Proofs.Roff.CodeText
import CommandManual.Proofs.Declaration.Spellings
import CommandManual.Proofs.Declaration.Unshown
import CommandManual.Proofs.Disk.Refusals
import CommandManual.Proofs.Workspace.Faults
import CommandManual.Proofs.CommandLine.Blame
import CommandManual.Proofs.CommandLine.Values
import CommandManual.Proofs.Definition.Located
import CommandManual.Proofs.View.Partition
import CommandManual.Proofs.View.Names
import CommandManual.Proofs.Text.Runs
