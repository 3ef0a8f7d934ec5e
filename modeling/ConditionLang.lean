import ConditionLang.Builtin
import ConditionLang.Command.Argument
import ConditionLang.Command.Evaluate
import ConditionLang.Command.Files
import ConditionLang.Command.Invocation
import ConditionLang.Command.Run
import ConditionLang.Condition.Line
import ConditionLang.Condition.Run
import ConditionLang.Condition.Set
import ConditionLang.Config.Basic
import ConditionLang.Config.Read
import ConditionLang.Context.Basic
import ConditionLang.Context.Draws
import ConditionLang.Context.Lookup
import ConditionLang.Context.Name
import ConditionLang.Diagnostic.Check
import ConditionLang.Diagnostic.Finding
import ConditionLang.Diagnostic.Lint
import ConditionLang.Diagnostic.Report
import ConditionLang.Diagnostic.Suggestion
import ConditionLang.Entries
import ConditionLang.Eval.Basic
import ConditionLang.Eval.Calls
import ConditionLang.Eval.Error
import ConditionLang.Eval.Operators
import ConditionLang.Expr.Basic
import ConditionLang.Expr.Canonical
import ConditionLang.Expr.Parser
import ConditionLang.Log.Event
import ConditionLang.Log.Filter
import ConditionLang.Log.Layout
import ConditionLang.Log.Level
import ConditionLang.Log.Timestamp
import ConditionLang.Log.Trace
import ConditionLang.Number.Binary
import ConditionLang.Number.Decimal
import ConditionLang.Number.Rounding
import ConditionLang.Pattern.Basic
import ConditionLang.Pattern.CharClass
import ConditionLang.Pattern.Machine
import ConditionLang.Pattern.Meaning
import ConditionLang.Pattern.Ranges
import ConditionLang.Pattern.Reader
import ConditionLang.Pattern.Segmentation
import ConditionLang.Pattern.Shape
import ConditionLang.Pattern.Tree
import ConditionLang.Request
import ConditionLang.Text.Blank
import ConditionLang.Text.EditDistance
import ConditionLang.Text.Hexadecimal
import ConditionLang.Text.Lines
import ConditionLang.Text.Quoted
import ConditionLang.Text.Split
import ConditionLang.Text.Taken
import ConditionLang.Token.Basic
import ConditionLang.Token.Lexer
import ConditionLang.Token.SyntaxError
import ConditionLang.Toml.Document
import ConditionLang.Toml.Quoted
import ConditionLang.Toml.Reader
import ConditionLang.Toml.Scalar
import ConditionLang.Unicode.Age
import ConditionLang.Unicode.Binary
import ConditionLang.Unicode.ByteTree
import ConditionLang.Unicode.Case
import ConditionLang.Unicode.CodeSet
import ConditionLang.Unicode.GeneralCategory
import ConditionLang.Unicode.Hidden
import ConditionLang.Unicode.Script
import ConditionLang.Value.Basic
import ConditionLang.Value.Json
import ConditionLang.Main
import ConditionLang.Proofs.Aliases
import ConditionLang.Proofs.Arguments
import ConditionLang.Proofs.Bindings
import ConditionLang.Proofs.Boundaries
import ConditionLang.Proofs.Calls
import ConditionLang.Proofs.Canonical
import ConditionLang.Proofs.Comments
import ConditionLang.Proofs.Composition
import ConditionLang.Proofs.Conjunction
import ConditionLang.Proofs.Continuation
import ConditionLang.Proofs.Coverage
import ConditionLang.Proofs.Cutting
import ConditionLang.Proofs.Decimals
import ConditionLang.Proofs.Destructuring
import ConditionLang.Proofs.Determined
import ConditionLang.Proofs.Doubles
import ConditionLang.Proofs.Draws
import ConditionLang.Proofs.EditDistance
import ConditionLang.Proofs.Effects
import ConditionLang.Proofs.Equality
import ConditionLang.Proofs.Evaluation
import ConditionLang.Proofs.Faults
import ConditionLang.Proofs.FindingOrder
import ConditionLang.Proofs.Frame
import ConditionLang.Proofs.Headers
import ConditionLang.Proofs.Heads
import ConditionLang.Proofs.Image
import ConditionLang.Proofs.Joining
import ConditionLang.Proofs.KeyedReads
import ConditionLang.Proofs.Leaves
import ConditionLang.Proofs.Linting
import ConditionLang.Proofs.Loading
import ConditionLang.Proofs.Lockstep
import ConditionLang.Proofs.Markers
import ConditionLang.Proofs.Marks
import ConditionLang.Proofs.Membership
import ConditionLang.Proofs.Miscalls
import ConditionLang.Proofs.Modes
import ConditionLang.Proofs.Names
import ConditionLang.Proofs.Numerals
import ConditionLang.Proofs.Operations
import ConditionLang.Proofs.OperatorChain
import ConditionLang.Proofs.Overruns
import ConditionLang.Proofs.Parentheses
import ConditionLang.Proofs.Phrases
import ConditionLang.Proofs.Positions
import ConditionLang.Proofs.Precedence
import ConditionLang.Proofs.Progress
import ConditionLang.Proofs.Provenance
import ConditionLang.Proofs.RandomIntegers
import ConditionLang.Proofs.Randomness
import ConditionLang.Proofs.Reading
import ConditionLang.Proofs.Rounding
import ConditionLang.Proofs.Scopes
import ConditionLang.Proofs.Scoping
import ConditionLang.Proofs.Separators
import ConditionLang.Proofs.Shadowing
import ConditionLang.Proofs.SortedEvaluation
import ConditionLang.Proofs.SortedMaps
import ConditionLang.Proofs.Spacing
import ConditionLang.Proofs.Spelling
import ConditionLang.Proofs.Substrings
import ConditionLang.Proofs.Tokens
import ConditionLang.Proofs.UnboundVariables
import ConditionLang.Proofs.Verdict
import ConditionLang.Proofs.Walks
import ConditionLang.Proofs.WholeNumbers
import ConditionLang.Proofs.Writable
import ConditionLang.Proofs.Writing
