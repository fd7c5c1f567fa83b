import EventQuery.Decimal.Binary64
import EventQuery.Decimal.Layout
import EventQuery.Decimal.Shortest
import EventQuery.Json
import EventQuery.Json.Decoder
import EventQuery.Json.Decoder.Ignored
import EventQuery.Json.Decoder.Item
import EventQuery.Json.Error
import EventQuery.Json.Reader
import EventQuery.Json.Reader.Basic
import EventQuery.Json.Reader.Number
import EventQuery.Json.Reader.Text
import EventQuery.Json.Writer
import EventQuery.Number
import EventQuery.Path
import EventQuery.Path.Resolve
import EventQuery.Path.Table
import EventQuery.Plan
import EventQuery.Plan.Resolution
import EventQuery.Projection
import EventQuery.Proofs.Path.Matches
import EventQuery.Proofs.Path.Numbering
import EventQuery.Proofs.Plan.Binding
import EventQuery.Proofs.Plan.Equivalence
import EventQuery.Proofs.Plan.Sharing
import EventQuery.Proofs.Projection.Documents
import EventQuery.Proofs.Projection.Order
import EventQuery.Proofs.Projection.Replay
import EventQuery.Proofs.Projection.Writing
import EventQuery.Proofs.Query.MatchOrder
import EventQuery.Proofs.Registry.History
import EventQuery.Proofs.Value.Navigation
import EventQuery.Proofs.Value.Reordered
import EventQuery.Query
import EventQuery.Query.Error
import EventQuery.Query.Evaluation
import EventQuery.Query.Expr
import EventQuery.Query.Limits
import EventQuery.Query.Reader
import EventQuery.Query.Reader.Condition
import EventQuery.Query.Reader.Path
import EventQuery.Query.Reader.Statement
import EventQuery.Query.Reader.Token
import EventQuery.Query.Statement
import EventQuery.Record
import EventQuery.Regex.Ast
import EventQuery.Regex.Automaton
import EventQuery.Regex.Automaton.CharacterClass
import EventQuery.Regex.Automaton.Draft
import EventQuery.Regex.Automaton.WordChoice
import EventQuery.Regex.Basic
import EventQuery.Regex.Blueprint
import EventQuery.Regex.ClassReader
import EventQuery.Regex.Encoding
import EventQuery.Regex.Error
import EventQuery.Regex.Lexeme
import EventQuery.Regex.Lexeme.Leaves
import EventQuery.Regex.Match
import EventQuery.Regex.Meaning
import EventQuery.Regex.Pattern
import EventQuery.Regex.Property
import EventQuery.Regex.Reader
import EventQuery.Regex.Words
import EventQuery.Registry
import EventQuery.Sampling.Clause
import EventQuery.Sampling.Decoder
import EventQuery.Sampling.Draw
import EventQuery.Sampling.Sampler
import EventQuery.Sampling.SipHash
import EventQuery.Settings
import EventQuery.Text.Age
import EventQuery.Text.Break.Grapheme
import EventQuery.Text.Break.Sentence
import EventQuery.Text.Break.Word
import EventQuery.Text.CaseChange
import EventQuery.Text.CaseFolding
import EventQuery.Text.Category
import EventQuery.Text.Category.Letter
import EventQuery.Text.Category.Mark
import EventQuery.Text.Category.Numeral
import EventQuery.Text.Category.Other
import EventQuery.Text.Category.Punctuation
import EventQuery.Text.Category.Separator
import EventQuery.Text.Category.Symbol
import EventQuery.Text.Characters
import EventQuery.Text.CodeSet
import EventQuery.Text.Properties
import EventQuery.Text.Properties.Derived
import EventQuery.Text.Quoted
import EventQuery.Text.Recent
import EventQuery.Text.Script
import EventQuery.Text.Script.AtoH
import EventQuery.Text.Script.Basic
import EventQuery.Text.Script.ItoO
import EventQuery.Text.Script.PtoZ
import EventQuery.Value
import EventQuery.Value.Document
import EventQuery.Value.Order
import EventQuery.Proofs.Path.Places
import EventQuery.Proofs.Plan.Table
import EventQuery.Proofs.Registry.Dispatch
import EventQuery.Proofs.Query.Grammar
import EventQuery.Proofs.Query.Lexical
import EventQuery.Proofs.Query.ReadBack
import EventQuery.Proofs.Number.Order
import EventQuery.Proofs.Value.Comparison
import EventQuery.Proofs.Query.Expansions
import EventQuery.Proofs.Query.Dependence
import EventQuery.Proofs.Json.Suffixes
import EventQuery.Proofs.Query.Suffixes
import EventQuery.Proofs.Query.Positions
import EventQuery.Proofs.Projection.Outcome
import EventQuery.Proofs.Projection.Fanout
import EventQuery.Proofs.Query.Results
import EventQuery.Proofs.Query.Selection
import EventQuery.Proofs.Plan.Demand
import EventQuery.Proofs.Query.Nesting
import EventQuery.Proofs.Query.WellFormed
import EventQuery.Proofs.Query.Height
import EventQuery.Proofs.Query.Display
import EventQuery.Proofs.Json.Writing
import EventQuery.Proofs.Sampling.Thresholds
import EventQuery.Proofs.Json.Endings
import EventQuery.Proofs.Sampling.EqualKeys
import EventQuery.Proofs.Value.Documents
import EventQuery.Proofs.Value.Writings
import EventQuery.Proofs.Number.Mixed
import EventQuery.Proofs.Path.Calls
import EventQuery.Proofs.Regex.Matching
import EventQuery.Proofs.Regex.Prolonged
import EventQuery.Proofs.Regex.ProlongedClasses
import EventQuery.Proofs.Regex.Anchoring
import EventQuery.Proofs.Regex.Bounds
import EventQuery.Proofs.Query.Patterns
