import Casewise.Cases
import Casewise.Clause
import Casewise.Document
import Casewise.Instant
import Casewise.Json
import Casewise.Json.Part
import Casewise.Json.Text
import Casewise.Literal
import Casewise.Matcher
import Casewise.Matcher.Bound
import Casewise.Number.Binary64
import Casewise.Number.Notation
import Casewise.Number.Shortest
import Casewise.Options
import Casewise.OrderedMap
import Casewise.Pattern
import Casewise.Pattern.Compiled
import Casewise.Pattern.Meaning
import Casewise.Pattern.NormalForm
import Casewise.Pattern.Occurrence
import Casewise.Pattern.Strengthening
import Casewise.Pattern.Template
import Casewise.Predicate
import Casewise.Predicate.Formula
import Casewise.Predicate.Guards
import Casewise.Predicate.Positional
import Casewise.Predicate.Refinement
import Casewise.Regex.Flag
import Casewise.Regex.Grammar
import Casewise.Regex.Machine
import Casewise.Regex.Machine.Class
import Casewise.Regex.Machine.Literals
import Casewise.Regex.Machine.Size
import Casewise.Regex.NamedClass
import Casewise.Regex.Plain
import Casewise.Regex.Property
import Casewise.Regex.Resolution
import Casewise.Regex.Syntax
import Casewise.Regex.Validity
import Casewise.Report
import Casewise.Rules
import Casewise.Rules.Encoding
import Casewise.Rules.Json
import Casewise.Rules.Meaning
import Casewise.Rules.WellFormed
import Casewise.Rules.Yaml
import Casewise.Spec
import Casewise.Spec.Encoding
import Casewise.Spec.Grammar
import Casewise.Symbol
import Casewise.Symbol.Session
import Casewise.Terminal
import Casewise.Text.Blank
import Casewise.Text.Extending
import Casewise.Text.Letter
import Casewise.Text.Quoted
import Casewise.Text.Ranges
import Casewise.Text.Unprintable
import Casewise.Traced
import Casewise.Unicode.Age
import Casewise.Unicode.Casing
import Casewise.Unicode.Category
import Casewise.Unicode.CodeSet
import Casewise.Unicode.Encoding
import Casewise.Unicode.Property
import Casewise.Unicode.Script
import Casewise.Unicode.Segmentation
import Casewise.Unicode.Table
import Casewise.Value
import Casewise.Value.Construction
import Casewise.Value.Data
import Casewise.Value.Display
import Casewise.Value.Equality
import Casewise.Value.Extension
import Casewise.Value.Inspect
import Casewise.Value.Occurrence
import Casewise.Value.Regexp
import Casewise.Value.WellFormed
import Casewise.Yaml.Folding
import Casewise.Yaml.Glyph
import Casewise.Yaml.Node
import Casewise.Yaml.Node.Anchors
import Casewise.Yaml.Node.Grammar
import Casewise.Yaml.Scalar
import Casewise.Yaml.Tag
import Casewise.Yaml.Token
import Casewise.Yaml.Token.Lexer
import Casewise.Yaml.Token.Property
import Casewise.Yaml.Token.Scalar
import Casewise.Yaml.Walk
import Casewise.Proofs.NestedInduction
import Casewise.Proofs.Compilation
import Casewise.Proofs.Registration
import Casewise.Proofs.FirstMatch
import Casewise.Proofs.HandlerCalls
import Casewise.Proofs.Agreement
import Casewise.Proofs.Satisfaction
import Casewise.Proofs.RuleSets
import Casewise.Proofs.Answers
import Casewise.Proofs.Polarity
import Casewise.Proofs.Strengthening
import Casewise.Proofs.DeadClauses
import Casewise.Proofs.ValueEquality
import Casewise.Proofs.EqualValues
import Casewise.Proofs.OpenTemplates
import Casewise.Proofs.PartialEquality
import Casewise.Proofs.Documents
import Casewise.Proofs.SpecRoundTrip
import Casewise.Proofs.SpecGrammar
import Casewise.Proofs.RuleSetRoundTrip
import Casewise.Proofs.NormalForm
import Casewise.Proofs.MissingProperties
import Casewise.Proofs.Navigation
import Casewise.Proofs.MergedTemplates
import Casewise.Proofs.ProgramRuns
import Casewise.Proofs.GroupedClauses
import Casewise.Proofs.ProgramContexts
import Casewise.Proofs.TagDispatch
import Casewise.Proofs.TemplatePredicates
import Casewise.Proofs.DataChoices
import Casewise.Proofs.TagTests
import Casewise.Proofs.EqualityLaws
import Casewise.Proofs.Delimiters
import Casewise.Proofs.WholeNumbers
import Casewise.Proofs.UniqueReading
import Casewise.Proofs.DeMorgan
import Casewise.Proofs.SymbolIdentity
import Casewise.Proofs.InsertionOrder
import Casewise.Proofs.Positions
