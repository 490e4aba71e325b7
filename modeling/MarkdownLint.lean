import MarkdownLint.Association
import MarkdownLint.Calendar
import MarkdownLint.Check.Basic
import MarkdownLint.Check.BreakStyle
import MarkdownLint.Check.Heading
import MarkdownLint.Check.LineLength
import MarkdownLint.Check.Visit
import MarkdownLint.Check.Whitespace
import MarkdownLint.CommandLine.Arguments
import MarkdownLint.CommandLine.Program
import MarkdownLint.CommandLine.Usage
import MarkdownLint.Configuration.Basic
import MarkdownLint.Configuration.Builder
import MarkdownLint.Configuration.Error
import MarkdownLint.Configuration.File
import MarkdownLint.Configuration.Mapping
import MarkdownLint.Decimal.Binary64
import MarkdownLint.Decimal.Reading
import MarkdownLint.Decimal.Rounded
import MarkdownLint.Decimal.Shortest
import MarkdownLint.Document
import MarkdownLint.Files.Discovery
import MarkdownLint.Files.Path
import MarkdownLint.Files.Tree
import MarkdownLint.Log.Basic
import MarkdownLint.Log.Format
import MarkdownLint.Log.Template
import MarkdownLint.Main
import MarkdownLint.Markdown.Block
import MarkdownLint.Markdown.Grammar
import MarkdownLint.Markdown.Html
import MarkdownLint.Markdown.Leaf
import MarkdownLint.Markdown.Parser
import MarkdownLint.Markdown.Reference
import MarkdownLint.Markdown.Scope
import MarkdownLint.Markdown.Source
import MarkdownLint.Markdown.Table
import MarkdownLint.Pattern.Basic
import MarkdownLint.Pattern.Error
import MarkdownLint.Pattern.Matcher
import MarkdownLint.Pattern.Parser
import MarkdownLint.Proofs.Association
import MarkdownLint.Proofs.Check.Placement
import MarkdownLint.Proofs.Check.Sites
import MarkdownLint.Proofs.Check.Terminators
import MarkdownLint.Proofs.Document.Lines
import MarkdownLint.Proofs.Files.Discovery
import MarkdownLint.Proofs.Files.Tree
import MarkdownLint.Proofs.Files.Write
import MarkdownLint.Proofs.Lists
import MarkdownLint.Proofs.Markdown.Parsing
import MarkdownLint.Proofs.Report.Checkstyle
import MarkdownLint.Proofs.Report.Fidelity
import MarkdownLint.Proofs.Report.Layout
import MarkdownLint.Proofs.Report.Marks
import MarkdownLint.Proofs.Report.Page
import MarkdownLint.Proofs.Report.Tally
import MarkdownLint.Proofs.Report.View
import MarkdownLint.Proofs.Text.Integer
import MarkdownLint.Proofs.Text.Pieces
import MarkdownLint.Proofs.Text.Utf8
import MarkdownLint.Proofs.Xml.Attribute
import MarkdownLint.Proofs.Xml.Content
import MarkdownLint.Proofs.Xml.Document
import MarkdownLint.Report.Checkstyle
import MarkdownLint.Report.Html
import MarkdownLint.Report.Output
import MarkdownLint.Report.Summary
import MarkdownLint.Rule.Basic
import MarkdownLint.Rule.Catalog
import MarkdownLint.Run
import MarkdownLint.Scan
import MarkdownLint.Text.Blank
import MarkdownLint.Text.Case
import MarkdownLint.Text.CharacterName
import MarkdownLint.Text.Digit
import MarkdownLint.Text.Identifier
import MarkdownLint.Text.Integer
import MarkdownLint.Text.Line
import MarkdownLint.Text.Numeral
import MarkdownLint.Text.Printable
import MarkdownLint.Text.Quoted
import MarkdownLint.Text.Ranges
import MarkdownLint.Text.Utf8
import MarkdownLint.Text.Word
import MarkdownLint.Value
import MarkdownLint.Violation
import MarkdownLint.Xml.Attribute
import MarkdownLint.Xml.Element
import MarkdownLint.Xml.Encoding
import MarkdownLint.Xml.Name
import MarkdownLint.Xml.Reader
import MarkdownLint.Yaml.Cursor
import MarkdownLint.Yaml.Error
import MarkdownLint.Yaml.Literal
import MarkdownLint.Yaml.Load
import MarkdownLint.Yaml.Node
import MarkdownLint.Yaml.Number
import MarkdownLint.Yaml.Plain
import MarkdownLint.Yaml.Property
import MarkdownLint.Yaml.Quoted
import MarkdownLint.Yaml.Tag
import MarkdownLint.Yaml.Timestamp
import MarkdownLint.Yaml.Token
import MarkdownLint.Proofs.Scan.Record
import MarkdownLint.Proofs.Scan.Accounts
import MarkdownLint.Proofs.Rule.Making
import MarkdownLint.Proofs.Scan.Independence
import MarkdownLint.Proofs.Report.Writing
import MarkdownLint.Proofs.Run.Containment
import MarkdownLint.Proofs.Run.Repetition
import MarkdownLint.Proofs.Scan.Pool
import MarkdownLint.Proofs.Run.Verdict
import MarkdownLint.Proofs.Configuration.Calls
import MarkdownLint.Proofs.Configuration.Refusal
import MarkdownLint.Proofs.Text.Search
import MarkdownLint.Proofs.Text.Cuts
import MarkdownLint.Proofs.Document.Partition
import MarkdownLint.Proofs.Document.Lookup
import MarkdownLint.Proofs.Markdown.Numbering
import MarkdownLint.Proofs.Configuration.Language
import MarkdownLint.Proofs.Configuration.NormalForm
import MarkdownLint.Proofs.Text.Trimming
import MarkdownLint.Proofs.Rule.Validity
import MarkdownLint.Proofs.Rule.Refusal
import MarkdownLint.Proofs.Files.Exactness
import MarkdownLint.Proofs.Document.Blocks
import MarkdownLint.Proofs.Check.Trailing
import MarkdownLint.Proofs.Markdown.Leads
import MarkdownLint.Proofs.Check.Markers
import MarkdownLint.Proofs.Markdown.Progress
import MarkdownLint.Proofs.Markdown.Containers
import MarkdownLint.Proofs.Markdown.Breaks
import MarkdownLint.Proofs.Check.Styles
import MarkdownLint.Proofs.Document.Code
import MarkdownLint.Proofs.Check.Lines
import MarkdownLint.Proofs.Check.Blanks
import MarkdownLint.Proofs.Check.Lengths
import MarkdownLint.Proofs.Report.Summary
import MarkdownLint.Proofs.Log.Configuring
