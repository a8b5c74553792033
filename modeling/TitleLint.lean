import TitleLint.CommandLine
import TitleLint.Config
import TitleLint.DisplayName
import TitleLint.Document.Anchor
import TitleLint.Document.Cursor
import TitleLint.Document.Decode
import TitleLint.Document.Layout
import TitleLint.Document.Node
import TitleLint.Document.Scalar
import TitleLint.Document.Token
import TitleLint.Document.Value
import TitleLint.Double
import TitleLint.Duration
import TitleLint.EditDistance
import TitleLint.File.Path
import TitleLint.File.Tree
import TitleLint.Glob.Basic
import TitleLint.Glob.Ignore
import TitleLint.Glob.Parse
import TitleLint.Harvest
import TitleLint.Issue
import TitleLint.Json
import TitleLint.Main
import TitleLint.NameSource
import TitleLint.Pattern.Basic
import TitleLint.Pattern.CharClass
import TitleLint.Pattern.ClassReader
import TitleLint.Pattern.Parse
import TitleLint.Pattern.Property
import TitleLint.Pattern.Reader
import TitleLint.Policy
import TitleLint.Program
import TitleLint.Proofs.Config.Lists
import TitleLint.Proofs.DisplayName.Alike
import TitleLint.Proofs.DisplayName.Declaration
import TitleLint.Proofs.DisplayName.Decoration
import TitleLint.Proofs.DisplayName.Literal
import TitleLint.Proofs.DisplayName.OwnName
import TitleLint.Proofs.DisplayName.Reading
import TitleLint.Proofs.Document.Fields
import TitleLint.Proofs.EditDistance.Edits
import TitleLint.Proofs.Except
import TitleLint.Proofs.File.Components
import TitleLint.Proofs.File.LastName
import TitleLint.Proofs.File.Order
import TitleLint.Proofs.Glob.Ends
import TitleLint.Proofs.Harvest.Reduction
import TitleLint.Proofs.Harvest.Sources
import TitleLint.Proofs.Json.Reading
import TitleLint.Proofs.Json.RoundTrip
import TitleLint.Proofs.Pattern.Matching
import TitleLint.Proofs.Policy.Ticket
import TitleLint.Proofs.Program.Status
import TitleLint.Proofs.Report.Content
import TitleLint.Proofs.Report.Reading
import TitleLint.Proofs.Report.Validity
import TitleLint.Proofs.Scope.Commas
import TitleLint.Proofs.Scope.Pieces
import TitleLint.Proofs.Scope.Resolution
import TitleLint.Proofs.Source.Children
import TitleLint.Proofs.Source.Unwrap
import TitleLint.Proofs.Subject.Marker
import TitleLint.Proofs.Text.Bytes
import TitleLint.Proofs.Text.Infix
import TitleLint.Proofs.Text.Lines
import TitleLint.Proofs.Text.Split
import TitleLint.Proofs.Title.Composition
import TitleLint.Proofs.Title.Extension
import TitleLint.Proofs.Title.Reading
import TitleLint.Proofs.Unicode.CaseFolding
import TitleLint.Proofs.Validation.Basic
import TitleLint.Proofs.Validation.Delimiter
import TitleLint.Proofs.Validation.Marked
import TitleLint.Proofs.Validation.NoNames
import TitleLint.Proofs.Validation.NodeName
import TitleLint.Proofs.Validation.OnDemand
import TitleLint.Proofs.Validation.Parts
import TitleLint.Proofs.Validation.ScopeList
import TitleLint.Proofs.Validation.SubjectCase
import TitleLint.Proofs.Validation.Ticket
import TitleLint.Proofs.Validation.Verdict
import TitleLint.Proofs.Validation.Widening
import TitleLint.Proofs.Vocabulary.Closest
import TitleLint.Proofs.Vocabulary.History
import TitleLint.Proofs.Vocabulary.Listing
import TitleLint.Proofs.Vocabulary.Members
import TitleLint.Proofs.Vocabulary.Nearest
import TitleLint.Proofs.Walk.Deadline
import TitleLint.Proofs.Walk.Discovery
import TitleLint.Proofs.Walk.Files
import TitleLint.Proofs.Walk.Kinds
import TitleLint.Proofs.Walk.Moving
import TitleLint.Proofs.Walk.Selection
import TitleLint.Report
import TitleLint.Scope
import TitleLint.Similarity
import TitleLint.Source.Extent
import TitleLint.Source.Item
import TitleLint.Source.Outline
import TitleLint.Source.Token
import TitleLint.Source.Tree
import TitleLint.SourceKind
import TitleLint.Subject
import TitleLint.Text.Bytes
import TitleLint.Text.Lines
import TitleLint.Text.Quoted
import TitleLint.Text.Split
import TitleLint.Title
import TitleLint.Unicode.CaseFolding
import TitleLint.Unicode.Category
import TitleLint.Unicode.Property
import TitleLint.Unicode.Run
import TitleLint.Unicode.Script
import TitleLint.Validation
import TitleLint.Vocabulary
import TitleLint.Walk.Bounded
import TitleLint.Walk.Discovery
import TitleLint.Walk.Files
import TitleLint.Walk.IgnoreLevel
