import StatementProfiles.CommandLine.Arguments
import StatementProfiles.CommandLine.Help
import StatementProfiles.CommandLine.Run
import StatementProfiles.Concept.Basic
import StatementProfiles.Concept.Kind
import StatementProfiles.Concept.Lookup
import StatementProfiles.Config
import StatementProfiles.Datum
import StatementProfiles.Decimal.Binary64
import StatementProfiles.Decimal.Shortest
import StatementProfiles.Document.Builder
import StatementProfiles.Document.History
import StatementProfiles.Document.Kind
import StatementProfiles.Document.Options
import StatementProfiles.Document.Path
import StatementProfiles.Document.Setting
import StatementProfiles.Error
import StatementProfiles.Files.Name
import StatementProfiles.Files.Tree
import StatementProfiles.Iri
import StatementProfiles.Json.Basic
import StatementProfiles.Json.Printer
import StatementProfiles.Json.Reader
import StatementProfiles.JsonPath.Basic
import StatementProfiles.JsonPath.Reader
import StatementProfiles.JsonPath.Select
import StatementProfiles.Main
import StatementProfiles.Members
import StatementProfiles.Pattern.Basic
import StatementProfiles.Pattern.Match
import StatementProfiles.Pattern.Occurrence
import StatementProfiles.Profile.Basic
import StatementProfiles.Profile.Concept
import StatementProfiles.Profile.Pattern
import StatementProfiles.Profile.Reference
import StatementProfiles.Profile.Text
import StatementProfiles.Profile.Version
import StatementProfiles.Proofs.Concept.Lookup
import StatementProfiles.Proofs.Document.Builder
import StatementProfiles.Proofs.Document.Path
import StatementProfiles.Proofs.Pattern.Completion
import StatementProfiles.Proofs.Pattern.Ending
import StatementProfiles.Proofs.Pattern.Exactness
import StatementProfiles.Proofs.Pattern.Language
import StatementProfiles.Proofs.Pattern.Recording
import StatementProfiles.Proofs.Pattern.Soundness
import StatementProfiles.Proofs.Registry.Cache
import StatementProfiles.Proofs.Registry.Consistency
import StatementProfiles.Proofs.Registry.Grammar
import StatementProfiles.Proofs.Registry.Prefill
import StatementProfiles.Proofs.Registry.Registration
import StatementProfiles.Proofs.Registry.Run
import StatementProfiles.Proofs.Registry.Table
import StatementProfiles.Proofs.Registry.Unfolding
import StatementProfiles.Proofs.Result
import StatementProfiles.Regex.Basic
import StatementProfiles.Regex.Reader
import StatementProfiles.Regex.Size
import StatementProfiles.Registry.Basic
import StatementProfiles.Registry.Catalog
import StatementProfiles.Registry.Grammar
import StatementProfiles.Registry.Load
import StatementProfiles.Registry.Statement
import StatementProfiles.Registry.Table
import StatementProfiles.Template.Basic
import StatementProfiles.Template.Rule
import StatementProfiles.Template.Selector
import StatementProfiles.Template.Validation
import StatementProfiles.Text.Age
import StatementProfiles.Text.Blank
import StatementProfiles.Text.Break
import StatementProfiles.Text.Category
import StatementProfiles.Text.CharSet
import StatementProfiles.Text.Folding
import StatementProfiles.Text.Named
import StatementProfiles.Text.OctetPath
import StatementProfiles.Text.Property
import StatementProfiles.Text.Script
import StatementProfiles.Text.Span
import StatementProfiles.Text.Stretch
import StatementProfiles.Text.Utf8
import StatementProfiles.Text.Word
import StatementProfiles.Time.Date
import StatementProfiles.Time.Instant
import StatementProfiles.Time.Reader
import StatementProfiles.Uuid
import StatementProfiles.Yaml.Block
import StatementProfiles.Yaml.Flow
import StatementProfiles.Yaml.Lexer
import StatementProfiles.Yaml.Name
import StatementProfiles.Yaml.Node
import StatementProfiles.Yaml.Outline
import StatementProfiles.Yaml.Place
import StatementProfiles.Yaml.Reader
import StatementProfiles.Yaml.Scalar
import StatementProfiles.Yaml.Tag
import StatementProfiles.Yaml.Token
import StatementProfiles.Proofs.Json.RoundTrip
import StatementProfiles.Proofs.Pattern.Leaves
import StatementProfiles.Proofs.Pattern.Resumption
import StatementProfiles.Proofs.Registry.Naming
import StatementProfiles.Proofs.Registry.Order
import StatementProfiles.Proofs.Document.Merge
import StatementProfiles.Proofs.Document.Reach
import StatementProfiles.Proofs.Document.Object
import StatementProfiles.Proofs.Document.Nesting
import StatementProfiles.Proofs.Document.Spine
import StatementProfiles.Proofs.Document.Commutation
import StatementProfiles.Proofs.Document.Gathering
import StatementProfiles.Proofs.Registry.Issue
import StatementProfiles.Proofs.Datum.Values
import StatementProfiles.Proofs.Time.RoundTrip
import StatementProfiles.Proofs.Datum.Fields
import StatementProfiles.Proofs.Profile.RoundTrip
import StatementProfiles.Proofs.Registry.Loading
import StatementProfiles.Proofs.Registry.Acceptance
import StatementProfiles.Proofs.Template.Meaning
import StatementProfiles.Proofs.Document.Finish
import StatementProfiles.Proofs.Document.Writing
import StatementProfiles.Proofs.Document.Removal
import StatementProfiles.Proofs.Pattern.Rewriting
import StatementProfiles.Proofs.Document.Pushing
import StatementProfiles.Proofs.Concept.Resolution
import StatementProfiles.Proofs.Template.Names
import StatementProfiles.Proofs.Text.Pieces
import StatementProfiles.Proofs.JsonPath.Nesting
import StatementProfiles.Proofs.JsonPath.Reading
import StatementProfiles.Proofs.Template.Selector
import StatementProfiles.Proofs.Concept.Answers
import StatementProfiles.Proofs.Document.Overlay
import StatementProfiles.Proofs.Pattern.Repetition
import StatementProfiles.Proofs.Pattern.Remainder
