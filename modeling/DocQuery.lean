import DocQuery.Bson.Embedded
import DocQuery.Bson.Equality
import DocQuery.Bson.ExtendedJson
import DocQuery.Bson.Order
import DocQuery.Bson.Relaxed
import DocQuery.Bson.Text
import DocQuery.Bson.Value
import DocQuery.Command.Arguments
import DocQuery.Command.Data
import DocQuery.Command.Disk
import DocQuery.Command.Program
import DocQuery.Command.Run
import DocQuery.Config.Basic
import DocQuery.Config.Sources
import DocQuery.Criteria.Basic
import DocQuery.Criteria.Error
import DocQuery.Criteria.Filter
import DocQuery.Criteria.Input
import DocQuery.Criteria.Name
import DocQuery.Criteria.Operator
import DocQuery.Criteria.Order
import DocQuery.Criteria.Request
import DocQuery.Json.Numeral
import DocQuery.Json.Printer
import DocQuery.Json.Record
import DocQuery.Json.Syntax
import DocQuery.Json.Value
import DocQuery.Log.Layout
import DocQuery.Log.Line
import DocQuery.Log.Part
import DocQuery.Log.Path
import DocQuery.Log.Settings
import DocQuery.Log.Setup
import DocQuery.Main
import DocQuery.Number.Binary64
import DocQuery.Number.Decimal128
import DocQuery.Number.Layout
import DocQuery.Number.Literal
import DocQuery.Number.Shortest
import DocQuery.Number.Word
import DocQuery.Pattern.Automaton.Build
import DocQuery.Pattern.Automaton.Characters
import DocQuery.Pattern.Automaton.Literals
import DocQuery.Pattern.Automaton.Size
import DocQuery.Pattern.Basic
import DocQuery.Pattern.Bracket
import DocQuery.Pattern.Escape
import DocQuery.Pattern.Flags
import DocQuery.Pattern.Reader
import DocQuery.Pattern.Search
import DocQuery.Pattern.Set
import DocQuery.Proofs.Order.Documents
import DocQuery.Proofs.Order.Values
import DocQuery.Proofs.Predicate.Evaluation
import DocQuery.Query.Compiled
import DocQuery.Query.Conversion
import DocQuery.Query.Fragment
import DocQuery.Query.Merge
import DocQuery.Session.Basic
import DocQuery.Session.Step
import DocQuery.Store.Matcher
import DocQuery.Store.Memory
import DocQuery.Store.Page
import DocQuery.Store.Path
import DocQuery.Store.Predicate
import DocQuery.Store.Repository
import DocQuery.Store.Sorting
import DocQuery.Text.Base64
import DocQuery.Text.Digits
import DocQuery.Text.Scan
import DocQuery.Text.Split
import DocQuery.Time.Format
import DocQuery.Time.Instant
import DocQuery.Toml.Document
import DocQuery.Toml.Quoted
import DocQuery.Toml.Scalar
import DocQuery.Toml.Tree
import DocQuery.Unicode.Age
import DocQuery.Unicode.Binary
import DocQuery.Unicode.Break
import DocQuery.Unicode.Category
import DocQuery.Unicode.CharSet
import DocQuery.Unicode.Encoding
import DocQuery.Unicode.Fold
import DocQuery.Unicode.Property
import DocQuery.Unicode.Script
import DocQuery.Yaml.Lexer
import DocQuery.Yaml.Node
import DocQuery.Yaml.Scalar
import DocQuery.Yaml.Token
import DocQuery.Yaml.Value
import DocQuery.Proofs.Predicate.Patterns
import DocQuery.Proofs.Filter.Fragment
import DocQuery.Proofs.Filter.Meaning
import DocQuery.Proofs.Bson.Entries
import DocQuery.Proofs.Query.Merge
import DocQuery.Proofs.Store.Scan
import DocQuery.Proofs.Store.Search
import DocQuery.Proofs.Store.Paging
import DocQuery.Proofs.FirstOccurrences
import DocQuery.Proofs.Order.Preorder
import DocQuery.Proofs.Store.NextPage
import DocQuery.Proofs.Query.Evaluation
import DocQuery.Proofs.Store.History
import DocQuery.Proofs.Bson.Reflexive
import DocQuery.Proofs.Order.Agreement
import DocQuery.Proofs.Store.Path
import DocQuery.Proofs.Query.OwnValue
import DocQuery.Proofs.Query.Refusal
import DocQuery.Proofs.Session.Capture
import DocQuery.Proofs.Bson.NaturalText
import DocQuery.Proofs.Criteria.Reading
import DocQuery.Proofs.Predicate.OnDemand
import DocQuery.Proofs.Criteria.RoundTrip
import DocQuery.Proofs.Criteria.Validity
import DocQuery.Proofs.Filter.Misfit
import DocQuery.Proofs.Query.Conversion
import DocQuery.Proofs.Query.Overwritten
import DocQuery.Proofs.Query.Encodings
import DocQuery.Proofs.Order.Ranges
import DocQuery.Proofs.Store.InsertionOrder
import DocQuery.Proofs.Number.Rounding
import DocQuery.Proofs.Query.Complement
import DocQuery.Proofs.Order.Integers
import DocQuery.Proofs.Json.Lines
import DocQuery.Proofs.Command.Perform
import DocQuery.Proofs.Bson.ExtendedJson
import DocQuery.Proofs.Command.Data
import DocQuery.Proofs.Command.Run
import DocQuery.Proofs.Config.Precedence
import DocQuery.Proofs.Store.Lookup
import DocQuery.Proofs.Bson.Equivalence
import DocQuery.Proofs.Predicate.Membership
import DocQuery.Proofs.Text.Decimal
import DocQuery.Proofs.Number.Whole
import DocQuery.Proofs.Query.NumericTypes
