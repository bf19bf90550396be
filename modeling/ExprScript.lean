import ExprScript.CommandLine.Arguments
import ExprScript.CommandLine.Session
import ExprScript.Decimal.Basic
import ExprScript.Decimal.Layout
import ExprScript.Decimal.Reading
import ExprScript.Decimal.Shortest
import ExprScript.Double.Remainder
import ExprScript.Engine
import ExprScript.Eval.Arithmetic
import ExprScript.Eval.Error
import ExprScript.Eval.Expression
import ExprScript.Eval.Member
import ExprScript.Eval.Number
import ExprScript.Eval.Outcome
import ExprScript.Eval.Statement
import ExprScript.Host.Access
import ExprScript.Host.Handle
import ExprScript.Host.HostType
import ExprScript.Host.Member
import ExprScript.Host.Parameter
import ExprScript.Host.Part
import ExprScript.Host.Resolver
import ExprScript.Host.TextMember
import ExprScript.Integer.Basic
import ExprScript.Main
import ExprScript.Parse.Error
import ExprScript.Parse.Expression
import ExprScript.Parse.Precedence
import ExprScript.Parse.Statement
import ExprScript.Parse.Stream
import ExprScript.Pattern.Basic
import ExprScript.Pattern.CharClass
import ExprScript.Pattern.CharSet
import ExprScript.Pattern.Matching
import ExprScript.Pattern.Piece
import ExprScript.Pattern.Property
import ExprScript.Pattern.Syntax.Bracket
import ExprScript.Pattern.Syntax.Escape
import ExprScript.Pattern.Syntax.Expression
import ExprScript.Pattern.Syntax.Flags
import ExprScript.Pattern.Syntax.Reader
import ExprScript.Proofs.Counting
import ExprScript.Proofs.Decimal.Value
import ExprScript.Proofs.Decimal.Written
import ExprScript.Proofs.Double.Exact
import ExprScript.Proofs.Double.Order
import ExprScript.Proofs.Double.Packing
import ExprScript.Proofs.Double.Scientific
import ExprScript.Proofs.Double.Written
import ExprScript.Proofs.Eval.Blame
import ExprScript.Proofs.Eval.Coupling
import ExprScript.Proofs.Eval.Effects
import ExprScript.Proofs.Eval.Equality
import ExprScript.Proofs.Eval.Follows
import ExprScript.Proofs.Eval.FullMatch
import ExprScript.Proofs.Eval.Integers
import ExprScript.Proofs.Eval.Interchange
import ExprScript.Proofs.Eval.Moving
import ExprScript.Proofs.Eval.Numerals
import ExprScript.Proofs.Eval.Operands
import ExprScript.Proofs.Eval.Paths
import ExprScript.Proofs.Eval.Reading
import ExprScript.Proofs.Eval.Sequencing
import ExprScript.Proofs.Eval.Strictness
import ExprScript.Proofs.Eval.Visits
import ExprScript.Proofs.Eval.Walks
import ExprScript.Proofs.Eval.Writing
import ExprScript.Proofs.Evaluating
import ExprScript.Proofs.Excerpts
import ExprScript.Proofs.Grammar.Basic
import ExprScript.Proofs.Grammar.Brackets
import ExprScript.Proofs.Grammar.Completeness
import ExprScript.Proofs.Grammar.Exactness
import ExprScript.Proofs.Grammar.Levels
import ExprScript.Proofs.Grammar.Soundness
import ExprScript.Proofs.Grammar.Statements
import ExprScript.Proofs.Grammar.Unambiguous
import ExprScript.Proofs.Host.Caching
import ExprScript.Proofs.Host.Calls
import ExprScript.Proofs.Host.Emptiness
import ExprScript.Proofs.Host.Fields
import ExprScript.Proofs.Host.Inheritance
import ExprScript.Proofs.Host.Keys
import ExprScript.Proofs.Host.Occurrences
import ExprScript.Proofs.Host.Policies
import ExprScript.Proofs.Host.Privacy
import ExprScript.Proofs.Host.Requests
import ExprScript.Proofs.Host.Routes
import ExprScript.Proofs.Host.Substrings
import ExprScript.Proofs.Host.Territory
import ExprScript.Proofs.Host.TextCalls
import ExprScript.Proofs.Host.Transparency
import ExprScript.Proofs.Host.Uses
import ExprScript.Proofs.Independence
import ExprScript.Proofs.IntegerTexts
import ExprScript.Proofs.MemberNames
import ExprScript.Proofs.Modes
import ExprScript.Proofs.Parse.Branches
import ExprScript.Proofs.Parse.Continuing
import ExprScript.Proofs.Parse.Finality
import ExprScript.Proofs.Parse.Mirrors
import ExprScript.Proofs.Parse.Passing
import ExprScript.Proofs.Parse.Places
import ExprScript.Proofs.Parse.Program
import ExprScript.Proofs.Parse.Progress
import ExprScript.Proofs.Parse.Sequencing
import ExprScript.Proofs.Parse.Statements
import ExprScript.Proofs.Parse.Success
import ExprScript.Proofs.Parse.Taking
import ExprScript.Proofs.Parse.Terminating
import ExprScript.Proofs.Parse.Unclosed
import ExprScript.Proofs.Places
import ExprScript.Proofs.Reformatting
import ExprScript.Proofs.RoundTrip.Printing
import ExprScript.Proofs.RoundTrip.Range
import ExprScript.Proofs.RoundTrip.Spelling
import ExprScript.Proofs.Sequencing
import ExprScript.Proofs.Source.Indexed
import ExprScript.Proofs.Source.Order
import ExprScript.Proofs.Source.Places
import ExprScript.Proofs.Source.Shifting
import ExprScript.Proofs.Source.Slices
import ExprScript.Proofs.Text.Encoding
import ExprScript.Proofs.Text.Hexadecimal
import ExprScript.Proofs.Text.Search
import ExprScript.Proofs.TextForms
import ExprScript.Proofs.Token.Characters
import ExprScript.Proofs.Token.Layout
import ExprScript.Proofs.Token.Lexed
import ExprScript.Proofs.Token.Lexemes
import ExprScript.Proofs.Token.Lines
import ExprScript.Proofs.Token.Places
import ExprScript.Proofs.Token.Progress
import ExprScript.Proofs.Token.Reading
import ExprScript.Proofs.Token.Scanning
import ExprScript.Proofs.Token.Seam
import ExprScript.Proofs.Token.Separators
import ExprScript.Proofs.Token.Shifting
import ExprScript.Proofs.Token.Slicing
import ExprScript.Proofs.Token.Spaced
import ExprScript.Proofs.Token.Spellings
import ExprScript.Proofs.Token.Strings
import ExprScript.Proofs.Token.Tiling
import ExprScript.Proofs.Tree.Nodes
import ExprScript.Proofs.Tree.Places
import ExprScript.Source.Cursor
import ExprScript.Source.Position
import ExprScript.Source.Span
import ExprScript.Table
import ExprScript.Text.Alphabetic
import ExprScript.Text.Blank
import ExprScript.Text.Case
import ExprScript.Text.Case.Context
import ExprScript.Text.Case.Folding
import ExprScript.Text.Case.Lower
import ExprScript.Text.Case.Upper
import ExprScript.Text.Hexadecimal
import ExprScript.Text.Numeric
import ExprScript.Text.Order
import ExprScript.Text.Property.Binary
import ExprScript.Text.Property.Category
import ExprScript.Text.Property.Named
import ExprScript.Text.Property.Script
import ExprScript.Text.Property.ScriptExtension
import ExprScript.Text.Ranges
import ExprScript.Text.Search
import ExprScript.Token.Basic
import ExprScript.Token.Scan
import ExprScript.Token.Tokenize
import ExprScript.Tree.Basic
import ExprScript.Tree.Operator
import ExprScript.Tree.Printer
import ExprScript.Value.Basic
