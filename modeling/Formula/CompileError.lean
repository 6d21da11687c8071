import Formula.Token.Fault
import Formula.Ty

/-! Why a formula cannot be compiled. An error is a fault, given by its cause, and the place where it
was found; how it reads is settled here for every cause. -/
namespace Formula

/-- Tokens that are not where the grammar wants them. `found` is the description of a token. -/
inductive GrammarFault where
  | expected (spelling found : String)
  | expectedType (found : String)
  | expectedMember (found : String)
  | expectedMemberAfterDot (found : String)
  /-- An array type in a creation is followed by its items. -/
  | expectedItems (ty : Ty) (found : String)
  /-- A type in a creation is followed by arguments, a length or an initializer. -/
  | expectedCreation (ty : Ty) (found : String)
  | expectedSeparator (closer found : String)
  | strayComma
  | expressionMissing
  | expressionMissingBefore (closer : String)
  /-- A type stands where a value should. -/
  | typeAlone (ty : Ty)
  | trailing (found : String)
  | duplicateParameter (name : String)
  | malformedNumber
  | emptyCharacter
  | tooDeep
  deriving DecidableEq

/-- How a fault of grammar reads. -/
def GrammarFault.text : GrammarFault → String
  | expected spelling found => s!"expected '{spelling}', found '{found}'"
  | expectedType found => s!"expected a type name, found '{found}'"
  | expectedMember found => s!"expected a member name, found '{found}'"
  | expectedMemberAfterDot found => s!"expected a member name after '.', found '{found}'"
  | expectedItems ty found => s!"expected '\x7b' after '{ty.text}', found '{found}'"
  | expectedCreation ty found => s!"expected '(', '[' or '\x7b' after '{ty.text}', found '{found}'"
  | expectedSeparator closer found => s!"expected ',' or '{closer}', found '{found}'"
  | strayComma => "unexpected ','"
  | expressionMissing => "expected an expression, found end of input"
  | expressionMissingBefore closer => s!"expected an expression before '{closer}'"
  | typeAlone ty => s!"'{ty.text}' is a type; expected '.' and a member name"
  | trailing found => s!"unexpected '{found}' after the expression"
  | duplicateParameter name => s!"duplicate parameter name '{name}'"
  | malformedNumber => "malformed number"
  | emptyCharacter => "empty character literal"
  | tooDeep => "the expression is nested too deeply"

/-- Brackets that do not pair up. -/
inductive BracketFault where
  | unclosed (closer : String)
  | wrongCloser (found closer : String)
  | unopened (found : String)
  deriving DecidableEq

/-- How a fault of brackets reads. -/
def BracketFault.text : BracketFault → String
  | unclosed closer => s!"expected '{closer}' before end of input"
  | wrongCloser found closer => s!"found '{found}' where '{closer}' was expected"
  | unopened found => s!"'{found}' has no matching opening bracket"

/-- Operands, conversions and conditions of the wrong type. -/
inductive TypingFault where
  | unaryOperand (spelling : String) (operand : Ty)
  | binaryOperands (spelling : String) (left right : Ty)
  | concatenatedVoid
  | condition (found : Ty)
  | branches (left right : Ty)
  | coalescedValue (left : Ty)
  | testedValueType (target : Ty)
  | implicitConversion (source target : Ty)
  | explicitConversion (source target : Ty)
  | resultConversion (source target : Ty)
  | resultMissing (target : Ty)
  | indexCount
  | indexType (found : Ty)
  | lengthCount
  | lengthType (found : Ty)
  | readOnly (owner : Ty) (member : String)
  | unsized (ty : Ty)
  deriving DecidableEq

/-- How a fault of typing reads. -/
def TypingFault.text : TypingFault → String
  | unaryOperand spelling operand =>
    s!"operator '{spelling}' cannot be applied to operand of type '{operand.text}'"
  | binaryOperands spelling left right =>
    s!"operator '{spelling}' cannot be applied to operands of type '{left.text}' and '{right.text}'"
  | concatenatedVoid => "a method without a result cannot be concatenated"
  | condition found => s!"condition must be of type 'bool', found '{found.text}'"
  | branches left right => s!"no implicit conversion between '{left.text}' and '{right.text}'"
  | coalescedValue left => s!"operator '??' cannot be applied to a non-nullable '{left.text}'"
  | testedValueType target =>
    s!"'as' needs a reference or nullable type, '{target.text}' is a value type"
  | implicitConversion source target =>
    s!"cannot implicitly convert type '{source.text}' to '{target.text}'"
  | explicitConversion source target => s!"cannot convert type '{source.text}' to '{target.text}'"
  | resultConversion source target =>
    s!"cannot implicitly convert type '{source.text}' to the result type '{target.text}'"
  | resultMissing target =>
    s!"the expression has no value but the signature returns '{target.text}'"
  | indexCount => "arrays take exactly one index"
  | indexType found => s!"array index must be an integer, found '{found.text}'"
  | lengthCount => "only single-dimension arrays can be created"
  | lengthType found => s!"array length must be an integer, found '{found.text}'"
  | readOnly owner member => s!"'{owner.text}.{member}' is read-only"
  | unsized ty => s!"'{ty.text}' does not have a predefined size"

/-- A header that disagrees with the signature it is bound to. -/
inductive SignatureFault where
  | parameterCount (written declared : Nat)
  | parameterType (name : String) (written declared : Ty)
  | noDefaultInstance
  | untypedDefaultInstance
  deriving DecidableEq

/-- How a disagreement with the signature reads. -/
def SignatureFault.text : SignatureFault → String
  | parameterCount written declared =>
    s!"the lambda declares {written} parameter(s) but the signature has {declared}"
  | parameterType name written declared =>
    s!"parameter '{name}' is declared '{written.text}' but the signature passes '{declared.text}'"
  | noDefaultInstance => "the first parameter is the default instance but the signature has none"
  | untypedDefaultInstance => "the default instance parameter must have a declared type"

/-- Why a formula cannot be compiled. -/
inductive CompileFault where
  | lexical (fault : LexFault)
  | grammar (fault : GrammarFault)
  | bracket (fault : BracketFault)
  /-- Something that the tokens have and formulas do not. -/
  | unsupported (what : String)
  | typeNotFound (name : String)
  | memberNotFound (owner : Ty) (member : String)
  | typing (fault : TypingFault)
  | signature (fault : SignatureFault)
  deriving DecidableEq

/-- The name of the family of a fault. -/
def CompileFault.name : CompileFault → String
  | lexical _ => "Lex"
  | grammar _ => "Syntax"
  | bracket _ => "UnmatchedBracket"
  | unsupported _ => "UnknownConstruct"
  | typeNotFound _ => "TypeNotFound"
  | memberNotFound _ _ => "MemberNotFound"
  | typing _ => "TypeMismatch"
  | signature _ => "SignatureMismatch"

/-- The family of a fault, as it reads. -/
def CompileFault.family : CompileFault → String
  | lexical _ => "lex error"
  | grammar _ => "syntax error"
  | bracket _ => "unmatched bracket"
  | unsupported _ => "unknown construct"
  | typeNotFound _ => "type not found"
  | memberNotFound _ _ => "member not found"
  | typing _ => "type mismatch"
  | signature _ => "signature mismatch"

/-- A fault and where it was found. -/
structure CompileError where
  fault : CompileFault
  span : Span
  deriving DecidableEq

namespace CompileError

/-- A fault in the characters. -/
def ofLexError (error : LexError) : CompileError := ⟨.lexical error.fault, error.span⟩

/-- How an error reads. -/
def message (error : CompileError) : String :=
  let place := error.span.text
  match error.fault with
  | .lexical fault => LexError.message ⟨fault, error.span⟩
  | .grammar fault => s!"syntax error at {place}: {fault.text}"
  | .bracket fault => s!"unmatched bracket at {place}: {fault.text}"
  | .unsupported what => s!"unsupported construct '{what}' at {place}"
  | .typeNotFound name => s!"type '{name}' not found at {place}"
  | .memberNotFound owner member => s!"'{member}' not found on '{owner.text}' at {place}"
  | .typing fault => s!"type mismatch at {place}: {fault.text}"
  | .signature fault => s!"signature mismatch at {place}: {fault.text}"

/-- A line without the carriage return at its end. -/
def withoutReturn (line : List Char) : List Char :=
  match line.reverse with
  | '\r' :: rest => rest.reverse
  | _ => line

/-- The lines of a text. A line ends at a line feed, and the end of the text ends a line only if
something stands in it; `line` has been read of the current one, last character first. -/
def linesFrom (line : List Char) : List Char → List (List Char)
  | [] => if line.isEmpty then [] else [line.reverse]
  | c :: rest =>
    if c = '\n' then withoutReturn line.reverse :: linesFrom [] rest
    else linesFrom (c :: line) rest

/-- The lines of a source, without what ends them. -/
def lines (source : String) : List String := (linesFrom [] source.toList).map String.ofList

/-- A text that stands at the right of a column of some width. -/
def padded (width : Nat) (text : String) : String :=
  String.ofList (List.replicate (width - text.length) ' ') ++ text

/-- The error, then the line where it was found, then a mark under the place. -/
def rendered (error : CompileError) (source : String) : String :=
  let span := error.span
  let head := "error: " ++ error.message ++ "\n"
  match (lines source)[span.line - 1]? with
  | none => head
  | some line =>
    let indent := String.ofList (List.replicate (span.col - 1) ' ')
    let mark := String.ofList (List.replicate (max span.length 1) '^')
    let number := padded 4 (toString span.line)
    head ++ s!"{number} | {line}\n     | {indent}{mark}\n"

end CompileError
end Formula
