import SchemaDocs.Command.Arguments
import SchemaDocs.Command.Help
import SchemaDocs.Command.Options
import SchemaDocs.Command.Run
import SchemaDocs.Descriptor.Basic
import SchemaDocs.Descriptor.Decode
import SchemaDocs.Descriptor.Records
import SchemaDocs.Descriptor.Shape
import SchemaDocs.Descriptor.Wire
import SchemaDocs.Files.Disk
import SchemaDocs.Files.Path
import SchemaDocs.Generation
import SchemaDocs.Journal
import SchemaDocs.Json.Reader
import SchemaDocs.Json.Writer
import SchemaDocs.Layout.Bindings
import SchemaDocs.Layout.Custom
import SchemaDocs.Layout.Markdown
import SchemaDocs.Layout.Sources
import SchemaDocs.Main
import SchemaDocs.Number.Binary64
import SchemaDocs.Number.Fixed
import SchemaDocs.Number.Numeral
import SchemaDocs.Number.Power
import SchemaDocs.Number.Shortest
import SchemaDocs.Schema.Basic
import SchemaDocs.Schema.Index
import SchemaDocs.Schema.Load
import SchemaDocs.Schema.LoadError
import SchemaDocs.Schema.MapNotation
import SchemaDocs.Schema.Resolve
import SchemaDocs.Schema.Scope
import SchemaDocs.Schema.Slots
import SchemaDocs.Schema.Walk
import SchemaDocs.Site.Navigation
import SchemaDocs.Site.Page
import SchemaDocs.Site.Route
import SchemaDocs.Site.Sidebar
import SchemaDocs.Template.Attribute
import SchemaDocs.Template.Builtin
import SchemaDocs.Template.Call
import SchemaDocs.Template.Comparison
import SchemaDocs.Template.Compile
import SchemaDocs.Template.Constant
import SchemaDocs.Template.Conversion
import SchemaDocs.Template.Evaluate
import SchemaDocs.Template.Fault
import SchemaDocs.Template.Filter
import SchemaDocs.Template.Item
import SchemaDocs.Template.Lexer
import SchemaDocs.Template.Lexer.Escape
import SchemaDocs.Template.Lexer.Number
import SchemaDocs.Template.Loop
import SchemaDocs.Template.Method
import SchemaDocs.Template.Method.Collection
import SchemaDocs.Template.Method.Number
import SchemaDocs.Template.Method.Parameter
import SchemaDocs.Template.Method.Text
import SchemaDocs.Template.Names
import SchemaDocs.Template.Operation
import SchemaDocs.Template.Parser.Cursor
import SchemaDocs.Template.Parser.Expr
import SchemaDocs.Template.Parser.Stmt
import SchemaDocs.Template.Percent
import SchemaDocs.Template.Render
import SchemaDocs.Template.Scope
import SchemaDocs.Template.Selection
import SchemaDocs.Template.Syntax
import SchemaDocs.Template.Token
import SchemaDocs.Text.Blank
import SchemaDocs.Text.CaseClass
import SchemaDocs.Text.Casefold
import SchemaDocs.Text.CharacterName
import SchemaDocs.Text.CharacterName.Alias
import SchemaDocs.Text.CharacterName.From0000
import SchemaDocs.Text.CharacterName.From0900
import SchemaDocs.Text.CharacterName.From10000
import SchemaDocs.Text.CharacterName.From13000
import SchemaDocs.Text.CharacterName.From1800
import SchemaDocs.Text.CharacterName.From1D000
import SchemaDocs.Text.CharacterName.From2000
import SchemaDocs.Text.CharacterName.From2800
import SchemaDocs.Text.CharacterName.From3000
import SchemaDocs.Text.Digit
import SchemaDocs.Text.Hex
import SchemaDocs.Text.Identifier
import SchemaDocs.Text.Lowercase
import SchemaDocs.Text.Mdx
import SchemaDocs.Text.Numeric
import SchemaDocs.Text.Printable
import SchemaDocs.Text.Quoted
import SchemaDocs.Text.Ranges
import SchemaDocs.Text.Search
import SchemaDocs.Text.Split
import SchemaDocs.Text.Titlecase
import SchemaDocs.Text.Uppercase
import SchemaDocs.Text.Utf8
import SchemaDocs.Text.Word
import SchemaDocs.Value
import SchemaDocs.Proofs.Declarations
import SchemaDocs.Proofs.Scoping
import SchemaDocs.Proofs.Resolution
import SchemaDocs.Proofs.References
import SchemaDocs.Proofs.Documents
import SchemaDocs.Proofs.Links
import SchemaDocs.Proofs.Outcome
import SchemaDocs.Proofs.Outline
import SchemaDocs.Proofs.FrontMatter
import SchemaDocs.Proofs.Rearrangement
import SchemaDocs.Proofs.Unresolved
import SchemaDocs.Proofs.OrderIndependence
import SchemaDocs.Proofs.PlainNames
import SchemaDocs.Proofs.FileOrder
import SchemaDocs.Proofs.Unstructured
import SchemaDocs.Proofs.CleanItems
import SchemaDocs.Proofs.CleanOperations
import SchemaDocs.Proofs.Apart
import SchemaDocs.Proofs.CleanStore
import SchemaDocs.Proofs.CleanEvaluation
import SchemaDocs.Proofs.CleanRendering
import SchemaDocs.Proofs.CustomLayout
import SchemaDocs.Proofs.FirstMet
import SchemaDocs.Proofs.Destinations
import SchemaDocs.Proofs.Writing
import SchemaDocs.Proofs.PagePaths
import SchemaDocs.Proofs.Publication
import SchemaDocs.Proofs.DirectReading
import SchemaDocs.Proofs.Loading
import SchemaDocs.Proofs.RecordLoading
import SchemaDocs.Proofs.ScopeFree
import SchemaDocs.Proofs.Carrying
import SchemaDocs.Proofs.Refusal
import SchemaDocs.Proofs.Recordable
import SchemaDocs.Proofs.Redaction
import SchemaDocs.Proofs.Alike
import SchemaDocs.Proofs.Isolation
import SchemaDocs.Proofs.ReportedFailures
import SchemaDocs.Proofs.Mentions
import SchemaDocs.Proofs.Additions
import SchemaDocs.Proofs.Acceptance
import SchemaDocs.Proofs.LoadFailure
import SchemaDocs.Proofs.Inventory
import SchemaDocs.Proofs.Diagnosis
import SchemaDocs.Proofs.Repetition
import SchemaDocs.Proofs.PathLinks
import SchemaDocs.Proofs.TableRows
import SchemaDocs.Proofs.GroupNames
import SchemaDocs.Proofs.RouteLinks
import SchemaDocs.Proofs.Marks
import SchemaDocs.Proofs.Delimiters
import SchemaDocs.Proofs.Mirroring
import SchemaDocs.Proofs.MapTexts
import SchemaDocs.Proofs.TypeNames
import SchemaDocs.Proofs.Changes
import SchemaDocs.Proofs.Variants
import SchemaDocs.Proofs.Spellings
import SchemaDocs.Proofs.MapSpellings
import SchemaDocs.Proofs.RouteBase
import SchemaDocs.Proofs.Titles
import SchemaDocs.Proofs.SidebarModule
import SchemaDocs.Proofs.Descriptions
import SchemaDocs.Proofs.Traversal
import SchemaDocs.Proofs.Unescaping
import SchemaDocs.Proofs.OneLine
import SchemaDocs.Proofs.LayoutAgreement
