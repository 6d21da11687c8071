import Formula.Failure

/-! Conversions between primitive values, and the casts that formulas perform. Integers wrap when
they are narrowed, floating numbers are cut toward zero and held at the ends of the target's range,
and conversions out of a decimal are checked. -/
namespace Formula.Value

/-- The character with a code point. -/
def ofCode (code : Nat) : Except RuntimeError Value :=
  if code.isValidChar then .ok (char (Char.ofNat code)) else .error (.invalidCharacter code)

/-- A decimal in range, or an overflow. -/
def ofDecimal? (result : Option Decimal) : Except RuntimeError Value :=
  match result with
  | some d => .ok (decimal d)
  | none => .error (.overflow .conversion)

/-- Converts an integer. -/
def ofInteger (n : Int) : Kind → Except RuntimeError Value
  | .bool => .error (.overflow .conversion)
  | .char => ofCode (Word.ofInt .ushort n).residue
  | .integer kind => .ok (integer kind (Word.ofInt kind n))
  | .float => .ok (float (Floating.singleOfInt n))
  | .double => .ok (double (Floating.doubleOfInt n))
  | .decimal => ofDecimal? (Decimal.ofInt? n)

/-- Converts a floating number. -/
def ofFloating (x : Float) : Kind → Except RuntimeError Value
  | .bool => .error (.overflow .conversion)
  | .char => ofCode (Floating.toWord .ushort x).residue
  | .integer kind => .ok (integer kind (Floating.toWord kind x))
  | .float => .ok (float x.toFloat32)
  | .double => .ok (double x)
  | .decimal => ofDecimal? (Decimal.ofDouble? x)

/-- Converts a decimal; an integer target takes the integer part if it is in range. -/
def ofDecimal (d : Decimal) : Kind → Except RuntimeError Value
  | .bool => .error (.overflow .conversion)
  | .char =>
    match Word.ofInt? .uint d.truncate with
    | some code => ofCode code.residue
    | none => .error (.overflow .conversion)
  | .integer kind =>
    match Word.ofInt? kind d.truncate with
    | some n => .ok (integer kind n)
    | none => .error (.overflow .conversion)
  | .float => .ok (float d.toDouble.toFloat32)
  | .double => .ok (double d.toDouble)
  | .decimal => .ok (decimal d)

/-- Converts a value to a primitive kind. Truth values convert to nothing but themselves, and so does
everything that is neither a number nor a character. -/
def toKind (value : Value) (target : Kind) : Except RuntimeError Value :=
  if value.kind? = some target then .ok value
  else if target = .bool then .error (.invalidCast value.ty (.primitive target))
  else match value with
    | char c => ofInteger c.toNat target
    | integer _ n => ofInteger n.val target
    | float x => ofFloating (Floating.widen x) target
    | double x => ofFloating x target
    | decimal d => ofDecimal d target
    | _ => .error (.invalidCast value.ty (.primitive target))

/-- Converts a value of static type `source` to `target`. Between primitives this is a numeric
conversion; anything else must already be a value of the target. -/
def cast (value : Value) (source target : Ty) : Except RuntimeError Value :=
  if value.isNull then
    if target.acceptsNull then .ok null
    else if source.inner?.isSome then .error .nullValue
    else .error (.nullConversion target)
  else
    match target.stripped with
    | .object => .ok value
    | .primitive kind =>
      if source.stripped.kind?.isSome then value.toKind kind
      else if value.conforms (.primitive kind) then .ok value
      else .error (.invalidCast value.ty target)
    | inner => if value.conforms inner then .ok value else .error (.invalidCast value.ty target)

/-- Whether a value is an instance of a type; `null` is an instance of none. -/
def isInstance (value : Value) (target : Ty) : Bool := !value.isNull && value.conforms target

/-- The value itself where it is an instance of a type, and `null` elsewhere. -/
def asInstance (value : Value) (target : Ty) : Value :=
  if value.isInstance target then value else null

end Formula.Value
