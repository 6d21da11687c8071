import Formula.Failure
import Formula.Operator

/-! Operators on values. The operands of an operator have one kind, except that shifts count by an
`int`. Integer arithmetic wraps; division of integers or decimals by zero and decimals out of range
are failures. -/
namespace Formula.Value

/-- How the operands of an operation fail that does not take them. -/
def misfit {α : Type} (operation : Operation) (left : Value) (right : Option Value) :
    Except RuntimeError α :=
  .error (.operands operation left.ty (right.map ty))

/-- A decimal result in range. -/
def decimalResult (operation : Operation) : Option Decimal → Except RuntimeError Value
  | some d => .ok (decimal d)
  | none => .error (.overflow operation)

/-- How an operation computes on each kind of number. -/
structure Arithmetic where
  operation : Operation
  onWord : (kind : IntKind) → Word kind → Word kind → Word kind
  onFloat : Float32 → Float32 → Float32
  onDouble : Float → Float → Float
  onDecimal : Decimal → Decimal → Option Decimal

namespace Arithmetic

/-- Sum. -/
def add : Arithmetic := ⟨.addition, fun _ => Word.add, (· + ·), (· + ·), Decimal.add?⟩

/-- Difference. -/
def sub : Arithmetic := ⟨.subtraction, fun _ => Word.sub, (· - ·), (· - ·), Decimal.sub?⟩

/-- Product. -/
def mul : Arithmetic := ⟨.multiplication, fun _ => Word.mul, (· * ·), (· * ·), Decimal.mul?⟩

/-- Quotient. -/
def div : Arithmetic := ⟨.division, fun _ => Word.div, (· / ·), (· / ·), Decimal.div?⟩

/-- Remainder. -/
def rem : Arithmetic :=
  ⟨.remainder, fun _ => Word.rem, Floating.remainder32, Floating.remainder, Decimal.rem?⟩

end Arithmetic

/-- Applies an operation to two numbers of one kind. -/
def arithmetic (rule : Arithmetic) : Value → Value → Except RuntimeError Value
  | integer kind a, integer kind' b =>
    if same : kind' = kind then .ok (integer kind (rule.onWord kind a (same ▸ b)))
    else misfit rule.operation (integer kind a) (some (integer kind' b))
  | float a, float b => .ok (float (rule.onFloat a b))
  | double a, double b => .ok (double (rule.onDouble a b))
  | decimal a, decimal b => decimalResult rule.operation (rule.onDecimal a b)
  | left, right => misfit rule.operation left (some right)

/-- Whether a value is the zero of the integers or decimals, by which nothing is divided. -/
def isExactZero : Value → Bool
  | integer _ n => n.val == 0
  | decimal d => d.isZero
  | _ => false

/-- Applies a division to two numbers of one kind. -/
def division (rule : Arithmetic) (left right : Value) : Except RuntimeError Value :=
  if left.kind? = right.kind? ∧ right.isExactZero then .error .divisionByZero
  else arithmetic rule left right

/-- Shifts an integer by an `int`. -/
def shift (operation : Operation) (move : (kind : IntKind) → Word kind → Word .int → Word kind)
    (left right : Value) : Except RuntimeError Value :=
  match right with
  | integer .int count =>
    match left with
    | integer kind a => .ok (integer kind (move kind a count))
    | _ => misfit operation left none
  | _ => misfit operation left (some right)

/-- Compares two primitives of one kind; values without an order compare false. -/
def comparison (holds : Ordering → Bool) (left right : Value) : Except RuntimeError Value :=
  if left.kind?.isSome ∧ left.kind? = right.kind? then .ok (bool ((left.order? right).any holds))
  else misfit .comparison left (some right)

/-- Applies a bitwise operation to integers of one kind or to truth values. -/
def bitwise (operation : Operation) (onBool : Bool → Bool → Bool)
    (onWord : (kind : IntKind) → Word kind → Word kind → Word kind) :
    Value → Value → Except RuntimeError Value
  | bool a, bool b => .ok (bool (onBool a b))
  | integer kind a, integer kind' b =>
    if same : kind' = kind then .ok (integer kind (onWord kind a (same ▸ b)))
    else misfit operation (integer kind a) (some (integer kind' b))
  | left, right => misfit operation left (some right)

/-- What an operator computes from both operands; `&&` and `||` do not need both. -/
def operate? : BinaryOp → Option (Value → Value → Except RuntimeError Value)
  | .add => some (arithmetic .add)
  | .sub => some (arithmetic .sub)
  | .mul => some (arithmetic .mul)
  | .div => some (division .div)
  | .rem => some (division .rem)
  | .shiftLeft => some (shift .leftShift fun _ => Word.shiftLeft)
  | .shiftRight => some (shift .rightShift fun _ => Word.shiftRight)
  | .less => some (comparison (· == .lt))
  | .greater => some (comparison (· == .gt))
  | .lessEqual => some (comparison (· != .gt))
  | .greaterEqual => some (comparison (· != .lt))
  | .equal => some fun left right => .ok (bool (left.equals right))
  | .notEqual => some fun left right => .ok (bool (!left.equals right))
  | .bitAnd => some (bitwise .bitwiseAnd (· && ·) fun _ => Word.and)
  | .bitOr => some (bitwise .bitwiseOr (· || ·) fun _ => Word.or)
  | .bitXor => some (bitwise .bitwiseXor (· != ·) fun _ => Word.xor)
  | .and | .or => none

/-- The negative of a number of a signed kind. -/
def negate : Value → Except RuntimeError Value
  | integer kind n =>
    if kind.isSigned then .ok (integer kind n.neg) else misfit .negation (integer kind n) none
  | float x => .ok (float (-x))
  | double x => .ok (double (-x))
  | decimal d => .ok (decimal d.neg)
  | operand => misfit .negation operand none

/-- The opposite of a truth value. -/
def invert : Value → Except RuntimeError Value
  | bool b => .ok (bool !b)
  | operand => misfit .logicalNot operand none

/-- The bitwise complement of an integer. -/
def complement : Value → Except RuntimeError Value
  | integer kind n => .ok (integer kind n.complement)
  | operand => misfit .complement operand none

/-- What an operator before an operand computes. -/
def operateUnary : UnaryOp → Value → Except RuntimeError Value
  | .negate => negate
  | .not => invert
  | .complement => complement

/-- A condition. -/
def truth : Value → Except RuntimeError Bool
  | bool b => .ok b
  | found => .error (.notCondition found.ty)

end Formula.Value
