import ContentAssist.CommandLine
import ContentAssist.Completion.Context
import ContentAssist.Completion.Cursor
import ContentAssist.Completion.Expectation
import ContentAssist.Completion.Resolve
import ContentAssist.Completion.Rules
import ContentAssist.Config
import ContentAssist.Document.Basic
import ContentAssist.Document.Json
import ContentAssist.Document.OfTree
import ContentAssist.Json.Reader
import ContentAssist.Json.Record
import ContentAssist.Json.Value
import ContentAssist.Json.Writer
import ContentAssist.LogFilter
import ContentAssist.Main
import ContentAssist.Markup.Edit
import ContentAssist.Markup.Json
import ContentAssist.Markup.Lexeme
import ContentAssist.Markup.Reader
import ContentAssist.Markup.Token
import ContentAssist.Markup.Tree
import ContentAssist.Path
import ContentAssist.Pattern.Bracket
import ContentAssist.Pattern.CharClass
import ContentAssist.Pattern.Escape
import ContentAssist.Pattern.Language
import ContentAssist.Pattern.Mode
import ContentAssist.Pattern.Reader
import ContentAssist.Pattern.Regex
import ContentAssist.Pattern.Size
import ContentAssist.Program
import ContentAssist.Proofs.Completion.Body
import ContentAssist.Proofs.Completion.Checked
import ContentAssist.Proofs.Completion.Innermost
import ContentAssist.Proofs.Completion.Locate
import ContentAssist.Proofs.Completion.Rules
import ContentAssist.Proofs.Completion.Shape
import ContentAssist.Proofs.Completion.Slice
import ContentAssist.Proofs.Completion.Stability
import ContentAssist.Proofs.Completion.Supplied
import ContentAssist.Proofs.Completion.SuppliedParts
import ContentAssist.Proofs.Completion.TagSlots
import ContentAssist.Proofs.Completion.Typed
import ContentAssist.Proofs.Document.Alignment
import ContentAssist.Proofs.Document.Arena
import ContentAssist.Proofs.Document.Dangling
import ContentAssist.Proofs.Document.Growth
import ContentAssist.Proofs.Document.Moved
import ContentAssist.Proofs.Document.Order
import ContentAssist.Proofs.Document.Preorder
import ContentAssist.Proofs.Json.Members
import ContentAssist.Proofs.Json.Records
import ContentAssist.Proofs.Json.RoundTrip
import ContentAssist.Proofs.Markup.Acceptance
import ContentAssist.Proofs.Markup.Adjacency
import ContentAssist.Proofs.Markup.Barrier
import ContentAssist.Proofs.Markup.Cut
import ContentAssist.Proofs.Markup.Grammar
import ContentAssist.Proofs.Markup.Insertion
import ContentAssist.Proofs.Markup.Locality
import ContentAssist.Proofs.Markup.Moved
import ContentAssist.Proofs.Markup.Names
import ContentAssist.Proofs.Markup.Nesting
import ContentAssist.Proofs.Markup.Outline
import ContentAssist.Proofs.Markup.Passage
import ContentAssist.Proofs.Markup.Preface
import ContentAssist.Proofs.Markup.Reading
import ContentAssist.Proofs.Markup.Recognition
import ContentAssist.Proofs.Markup.Restated
import ContentAssist.Proofs.Markup.Slice
import ContentAssist.Proofs.Markup.TokenOrder
import ContentAssist.Proofs.Markup.Tokens
import ContentAssist.Proofs.Markup.Trail
import ContentAssist.Proofs.Schema.Blocks
import ContentAssist.Proofs.Schema.Repeats
import ContentAssist.Proofs.Schema.RoundTrip
import ContentAssist.Proofs.Schema.Violations
import ContentAssist.Proofs.Snapshot.Faultless
import ContentAssist.Proofs.Snapshot.Machine
import ContentAssist.Proofs.Snapshot.RoundTrip
import ContentAssist.Proofs.Snapshot.Steps
import ContentAssist.Samples
import ContentAssist.Schema.Basic
import ContentAssist.Schema.File
import ContentAssist.Schema.Json
import ContentAssist.Schema.Validation
import ContentAssist.Schema.Yaml
import ContentAssist.Snapshot
import ContentAssist.Span
import ContentAssist.Text.Quoted
import ContentAssist.Unicode.Age
import ContentAssist.Unicode.Alphabetic
import ContentAssist.Unicode.BinaryProperty
import ContentAssist.Unicode.CaseFolding
import ContentAssist.Unicode.Category
import ContentAssist.Unicode.Numeric
import ContentAssist.Unicode.Property
import ContentAssist.Unicode.Ranges
import ContentAssist.Unicode.Script
import ContentAssist.Unicode.Segmentation
import ContentAssist.Unicode.WhiteSpace
import ContentAssist.Yaml.Document
import ContentAssist.Yaml.Input
import ContentAssist.Yaml.Node
import ContentAssist.Yaml.Plain
import ContentAssist.Yaml.Property
import ContentAssist.Yaml.Reading
import ContentAssist.Yaml.Scalar
import ContentAssist.Yaml.Scan
import ContentAssist.Yaml.Token
