import Formula.Store

/-! Host types: the shapes in which a host hands values to formulas and takes them back. A shape has a
type of its own for the values it carries, a static type that formulas see, a way into values and a
way back. -/
namespace Formula

/-- The shape of a host value. -/
inductive HostType where
  | primitive (kind : Kind)
  | string
  /-- No value at all. -/
  | unit
  /-- Any value, as it is. -/
  | any
  /-- A value or nothing. -/
  | optional (inner : HostType)
  | list (element : HostType)
  /-- A handle to an object of a class of the host. -/
  | handle (host : HostClass)

/-- The values of a primitive kind. -/
abbrev Kind.Carrier : Kind → Type
  | .bool => Bool
  | .char => Char
  | .integer kind => Word kind
  | .float => Float32
  | .double => Float
  | .decimal => Decimal

namespace HostType

/-- The shape of 32-bit integers. -/
abbrev int : HostType := primitive (.integer .int)
/-- The shape of 64-bit integers. -/
abbrev long : HostType := primitive (.integer .long)
/-- The shape of double-precision numbers. -/
abbrev double : HostType := primitive .double
/-- The shape of single-precision numbers. -/
abbrev float : HostType := primitive .float
/-- The shape of truth values. -/
abbrev bool : HostType := primitive .bool
/-- The shape of characters. -/
abbrev char : HostType := primitive .char
/-- The shape of decimals. -/
abbrev decimal : HostType := primitive .decimal

/-- The host values of a shape; a handle is the cell of its object. -/
abbrev Carrier : HostType → Type
  | primitive kind => kind.Carrier
  | string => String
  | unit => Unit
  | any => Value
  | optional inner => Option inner.Carrier
  | list element => List element.Carrier
  | handle _ => Nat

/-- The static type of a shape. An optional shape has the nullable type only where the type inside
does not admit `null` already. -/
def ty : HostType → Ty
  | primitive kind => .primitive kind
  | string => .string
  | unit => .void
  | any => .object
  | optional inner => if inner.ty.acceptsNull then inner.ty else inner.ty.toNullable
  | list element => .array element.ty
  | handle host => .named host.name

/-- A value of a primitive kind. -/
def ofPrimitive : (kind : Kind) → kind.Carrier → Value
  | .bool, b => .bool b
  | .char, c => .char c
  | .integer kind, n => .integer kind n
  | .float, x => .float x
  | .double, x => .double x
  | .decimal, d => .decimal d

/-- The value inside a primitive of a kind. -/
def toPrimitive? : (kind : Kind) → Value → Option kind.Carrier
  | .bool, .bool b => some b
  | .char, .char c => some c
  | .integer kind, .integer kind' n => if same : kind' = kind then some (same ▸ n) else none
  | .float, .float x => some x
  | .double, .double x => some x
  | .decimal, .decimal d => some d
  | _, _ => none

/-- A host value as a formula sees it. Lists become new arrays, and a handle is stamped with its own
class. -/
def toValue {ε : Type} : (shape : HostType) → shape.Carrier → Action ε Value
  | primitive kind, x => pure (ofPrimitive kind x)
  | string, s => pure (.string s)
  | unit, _ => pure .null
  | any, value => pure value
  | optional _, none => pure .null
  | optional inner, some x => toValue inner x
  | list element, xs => do
    let items ← xs.mapM (toValue element)
    Action.newArray element.ty items
  | handle host, cell => pure (.object ⟨.named host.name, host, cell⟩)

/-- The host value behind a value, if it has the shape. -/
def ofValue : (shape : HostType) → Value → Except Mismatch shape.Carrier
  | primitive kind, value =>
    match toPrimitive? kind value with
    | some x => .ok x
    | none => .error ⟨(Ty.primitive kind).text, value.ty⟩
  | string, value =>
    match value with
    | .string s => .ok s
    | _ => .error ⟨"string", value.ty⟩
  | unit, _ => .ok ()
  | any, value => .ok value
  | optional inner, value =>
    if value.isNull then .ok none else (ofValue inner value).map some
  | list element, value =>
    match value with
    | .array _ _ items => items.mapM (ofValue element)
    | _ => .error ⟨(list element).ty.text, value.ty⟩
  | handle host, value =>
    match value with
    | .object object =>
      if object.host = host then .ok object.cell else .error ⟨host.name, object.ty⟩
    | _ => .error ⟨host.name, value.ty⟩

/-- One host value for each shape of a list. -/
abbrev Carriers : List HostType → Type
  | [] => Unit
  | shape :: rest => shape.Carrier × Carriers rest

/-- The host values behind a list of values; the first value without its shape fails. -/
def ofValues : (shapes : List HostType) → List Value → Except Mismatch (Carriers shapes)
  | [], _ => .ok ()
  | shape :: rest, values => do
    let first ← ofValue shape (values.headD .null)
    let others ← ofValues rest values.tail
    return (first, others)

/-- Host values as formulas see them, in order. -/
def toValues {ε : Type} : (shapes : List HostType) → Carriers shapes → Action ε (List Value)
  | [], _ => pure []
  | shape :: rest, xs => do
    let first ← toValue shape xs.1
    let others ← toValues rest xs.2
    return first :: others

end HostType
end Formula
