import Formula.Token.Basic

/-! Operators and how tightly they bind. Higher numbers bind tighter; an operator is taken only where
it binds tighter than what surrounds it, so operators of one level group to the left. -/
namespace Formula

/-- Operators between two operands. -/
inductive BinaryOp where
  | add | sub | mul | div | rem
  | shiftLeft | shiftRight
  | less | greater | lessEqual | greaterEqual
  | equal | notEqual
  | bitAnd | bitOr | bitXor
  /-- Takes the right operand only if the left is true. -/
  | and
  /-- Takes the right operand only if the left is false. -/
  | or
  deriving DecidableEq, Repr

/-- What operators have in common: the operands they take and the result they have. -/
inductive OperatorFamily where
  | arithmetic | shift | relational | equality | bitwise | logical
  deriving DecidableEq, Repr

namespace BinaryOp

/-- Every operator, once. -/
def all : List BinaryOp := [
  .add, .sub, .mul, .div, .rem, .shiftLeft, .shiftRight, .less, .greater, .lessEqual,
  .greaterEqual, .equal, .notEqual, .bitAnd, .bitOr, .bitXor, .and, .or]

/-- The token of an operator. -/
def token : BinaryOp → TokenKind
  | add => .plus
  | sub => .minus
  | mul => .star
  | div => .slash
  | rem => .percent
  | shiftLeft => .lessLess
  | shiftRight => .greaterGreater
  | less => .less
  | greater => .greater
  | lessEqual => .lessEqual
  | greaterEqual => .greaterEqual
  | equal => .equalEqual
  | notEqual => .bangEqual
  | bitAnd => .amp
  | bitOr => .pipe
  | bitXor => .caret
  | and => .ampAmp
  | or => .pipePipe

/-- How an operator is spelled. -/
def text (op : BinaryOp) : String := op.token.text

/-- The name of an operator in a listing. -/
def name : BinaryOp → String
  | add => "Add"
  | sub => "Sub"
  | mul => "Mul"
  | div => "Div"
  | rem => "Rem"
  | shiftLeft => "Shl"
  | shiftRight => "Shr"
  | less => "Less"
  | greater => "Greater"
  | lessEqual => "LessEqual"
  | greaterEqual => "GreaterEqual"
  | equal => "Equal"
  | notEqual => "NotEqual"
  | bitAnd => "BitAnd"
  | bitOr => "BitOr"
  | bitXor => "BitXor"
  | and => "And"
  | or => "Or"

/-- The operator of a token. -/
def ofToken? (kind : TokenKind) : Option BinaryOp := all.find? fun op => op.token == kind

/-- The family of an operator. -/
def family : BinaryOp → OperatorFamily
  | add | sub | mul | div | rem => .arithmetic
  | shiftLeft | shiftRight => .shift
  | less | greater | lessEqual | greaterEqual => .relational
  | equal | notEqual => .equality
  | bitAnd | bitOr | bitXor => .bitwise
  | and | or => .logical

end BinaryOp

/-- Operators before an operand. A plus sign builds nothing and is none of them. -/
inductive UnaryOp where
  | negate
  | not
  | complement
  deriving DecidableEq, Repr

/-- How an operator before an operand is spelled. -/
def UnaryOp.text : UnaryOp → String
  | negate => "-"
  | not => "!"
  | complement => "~"

/-- The name of an operator before an operand in a listing. -/
def UnaryOp.name : UnaryOp → String
  | negate => "Neg"
  | not => "Not"
  | complement => "BitNot"

/-- Tests of the type of a value. -/
inductive TypeTest where
  /-- Whether a value is an instance of a type. -/
  | is
  /-- The value where it is one, and `null` elsewhere. -/
  | as
  deriving DecidableEq, Repr

/-- The name of a test in a listing. -/
def TypeTest.name : TypeTest → String
  | is => "Is"
  | as => "As"

namespace Precedence

/-- Calls and indexing. -/
def primary : Nat := 100
/-- Access to members, and what is spelled like it. -/
def access : Nat := 13
/-- Operators before an operand, and casts. -/
def unary : Nat := 12
/-- `*`, `/` and `%`. -/
def multiplicative : Nat := 11
/-- `+` and `-`. -/
def additive : Nat := 10
/-- `<<` and `>>`. -/
def shift : Nat := 9
/-- Comparisons of order, and tests of types. -/
def relational : Nat := 8
/-- `==` and `!=`. -/
def equality : Nat := 7
/-- `&`, `^` and `|`. -/
def bitwise : Nat := 6
/-- `&&`, `||` and the question mark of a conditional. -/
def logical : Nat := 5
/-- `??` and the assignments. -/
def assignment : Nat := 4

/-- How tightly a token binds where an operand is expected. -/
def beforeOperand? : TokenKind → Option Nat
  | .leftParen => some unary
  | .plus | .minus | .bang | .tilde | .plusPlus | .minusMinus | .sizeOf => some unary
  | .new | .typeOf => some access
  | _ => none

/-- How tightly a token binds after an operand. What separates or closes does not bind at all. -/
def afterOperand? (kind : TokenKind) : Option Nat :=
  match kind with
  | .leftParen | .leftBracket => some primary
  | .dot | .arrow | .plusPlus | .minusMinus => some access
  | .star | .slash | .percent => some multiplicative
  | .plus | .minus => some additive
  | .lessLess | .greaterGreater => some shift
  | .less | .greater | .lessEqual | .greaterEqual | .is | .as => some relational
  | .equalEqual | .bangEqual => some equality
  | .amp | .caret | .pipe => some bitwise
  | .ampAmp | .pipePipe | .question => some logical
  | .questionQuestion => some assignment
  | kind => if kind.isAssignment then some assignment else none

end Precedence
end Formula
