import Formula.CompileError
import Formula.Decimal.Arithmetic
import Formula.Decimal.Basic
import Formula.Decimal.Convert
import Formula.Decimal.Read
import Formula.Decimal.Remainder
import Formula.Digest
import Formula.Expr.Basic
import Formula.Expr.Build
import Formula.Expr.Eval
import Formula.Failure
import Formula.Floating.Arithmetic
import Formula.Floating.Digits
import Formula.Floating.Format
import Formula.Floating.Text
import Formula.Floating.Widening
import Formula.Function
import Formula.Host
import Formula.Key
import Formula.Kind
import Formula.Library.Bag
import Formula.Library.Collection
import Formula.Library.Math
import Formula.Library.Primitive
import Formula.Library.Random
import Formula.Library.Root
import Formula.Library.Sample
import Formula.Library.Standard
import Formula.Library.Strings
import Formula.Native
import Formula.Operator
import Formula.Parameters
import Formula.Power
import Formula.Promotion
import Formula.Proofs.Alongside
import Formula.Proofs.Ancestry
import Formula.Proofs.Blame
import Formula.Proofs.Brackets
import Formula.Proofs.Branches
import Formula.Proofs.ByteSearch
import Formula.Proofs.Calls
import Formula.Proofs.Composition
import Formula.Proofs.Conversions
import Formula.Proofs.ConvertedValues
import Formula.Proofs.Counting
import Formula.Proofs.Dictionaries
import Formula.Proofs.Faults
import Formula.Proofs.Floats
import Formula.Proofs.Grammar
import Formula.Proofs.GrammarComplete
import Formula.Proofs.Headers
import Formula.Proofs.HeadersAlongside
import Formula.Proofs.HostValues
import Formula.Proofs.Indexers
import Formula.Proofs.Instances
import Formula.Proofs.Invocations
import Formula.Proofs.Lexing
import Formula.Proofs.Lookups
import Formula.Proofs.MemberCalls
import Formula.Proofs.Members
import Formula.Proofs.Namespaces
import Formula.Proofs.Nesting
import Formula.Proofs.Numerals
import Formula.Proofs.Onward
import Formula.Proofs.Parentheses
import Formula.Proofs.Places
import Formula.Proofs.Printing
import Formula.Proofs.Quoting
import Formula.Proofs.Readback
import Formula.Proofs.ReaderPlaces
import Formula.Proofs.ReaderTyping
import Formula.Proofs.Regions
import Formula.Proofs.Registration
import Formula.Proofs.Rendering
import Formula.Proofs.Resolution
import Formula.Proofs.Respacing
import Formula.Proofs.Rounds
import Formula.Proofs.Safety
import Formula.Proofs.Scanning
import Formula.Proofs.Scoping
import Formula.Proofs.Seams
import Formula.Proofs.Sequencing
import Formula.Proofs.Setters
import Formula.Proofs.Shapes
import Formula.Proofs.Termination
import Formula.Proofs.TextMembers
import Formula.Proofs.Tiling
import Formula.Proofs.TokenOrder
import Formula.Proofs.TokenWalk
import Formula.Proofs.Twins
import Formula.Proofs.TypeNames
import Formula.Proofs.TypeTexts
import Formula.Proofs.TypedCalls
import Formula.Proofs.Unboxing
import Formula.Proofs.Unrolling
import Formula.Proofs.Voids
import Formula.Proofs.Words
import Formula.Reader.Basic
import Formula.Reader.Bracket
import Formula.Reader.Expression
import Formula.Reader.Lambda
import Formula.Reader.TypeName
import Formula.Registry.Basic
import Formula.Registry.Entry
import Formula.Registry.Hierarchy
import Formula.Registry.Universe
import Formula.Signature
import Formula.Span
import Formula.Store
import Formula.Text.Quoted
import Formula.Token.Basic
import Formula.Token.Counted
import Formula.Token.Fault
import Formula.Token.Lexer
import Formula.Token.Literal
import Formula.Token.Stream
import Formula.Ty
import Formula.Unicode.Blank
import Formula.Unicode.Case
import Formula.Unicode.Letter
import Formula.Unicode.Number
import Formula.Unicode.Printable
import Formula.Unicode.Ranges
import Formula.Value.Basic
import Formula.Value.Convert
import Formula.Value.Operate
import Formula.Word
