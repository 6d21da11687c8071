import Formula.Registry.Universe

/-! Conversions between types that a formula makes or may ask for. Of two operands on the ladder of
ranks the lower is widened to the higher; kinds without a rank combine only with themselves. -/
namespace Formula

/-- The type at which arithmetic computes over two operands. -/
def promote (left right : Ty) : Option Ty :=
  if left = right ∧ left.isNumeric then some left
  else match left.rank?, right.rank? with
    | some l, some r => some (if r ≤ l then left else right)
    | _, _ => none

/-- Whether a type widens to another along the ladder. -/
def widens (source target : Ty) : Bool :=
  match source.rank?, target.rank? with
  | some s, some t => s ≤ t
  | _, _ => false

namespace Universe

/-- Whether an expression of one type may stand where another is expected: the same type, a wider
one, a nullable form, or a type that the universe lets it stand for. -/
def implicitlyConverts (world : Universe) : Ty → Ty → Bool
  | source, .nullable inner =>
    source == .nullable inner || source == .null
      || world.implicitlyConverts source.stripped inner
  | source, target =>
    source == target || widens source target
      || (!source.isVoid && world.assignable source target)
termination_by structural _ target => target

/-- The common type of two branches. -/
def unify (world : Universe) (a b : Ty) : Option Ty :=
  if a = b then some a
  else if a = .null then some (if b.acceptsNull then b else b.toNullable)
  else if b = .null then some (if a.acceptsNull then a else a.toNullable)
  else if a.rank?.isSome ∧ b.rank?.isSome then promote a b
  else if world.implicitlyConverts b a then some a
  else if world.implicitlyConverts a b then some b
  else none

/-- Numbers and characters, which all convert into each other. -/
def isNumberLike (ty : Ty) : Bool := ty.isNumeric || ty == .char

/-- Whether a cast between types that are not nullable may be written. -/
def castAllowedPlain (world : Universe) (source target : Ty) : Bool :=
  if source = target ∨ source = .object ∨ target = .object then true
  else if source = .null then target.acceptsNull
  else if isNumberLike source && isNumberLike target then true
  else if source.isValueType || target.isValueType then false
  else world.assignable source target || world.assignable target source

/-- Whether a cast may be written of an operand that is not nullable; a nullable target is cast to by
what it wraps. -/
def castAllowedTo (world : Universe) (source : Ty) : Ty → Bool
  | .nullable target => source == .object || source == .null || world.castAllowedTo source target
  | target => world.castAllowedPlain source target
termination_by structural target => target

/-- Whether a cast may be written; nullable types are cast by what they wrap, wrapper by wrapper. -/
def castAllowed (world : Universe) : Ty → Ty → Bool
  | .nullable source, target =>
    target == .nullable source || target == .object || world.castAllowed source target.stripped
  | source, target => world.castAllowedTo source target
termination_by structural source => source

end Universe

/-- The type at which two operands are tested for equality. -/
def equalityOperand (left right : Ty) : Option Ty :=
  if left = right then some left
  else if left = .null then if right.acceptsNull then some right else none
  else if right = .null then if left.acceptsNull then some left else none
  else if left = .nullable right then some right.toNullable
  else if right = .nullable left then some left.toNullable
  else if !left.isValueType && !right.isValueType && !left.isVoid && !right.isVoid then some .object
  else none

end Formula
