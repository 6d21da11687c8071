import Formula.Power

/-! The primitive kinds of value. Eight of them are integers of a fixed width, which are told apart by
width and sign; the rest are truth values, characters, the two binary floating kinds and the decimal
kind. Ten kinds stand on one ladder of ranks, along which arithmetic operands are widened. -/
namespace Formula

/-- The integer kinds, by their keywords. -/
inductive IntKind where
  | sbyte | byte | short | ushort | int | uint | long | ulong
  deriving DecidableEq, Repr

namespace IntKind

/-- The width in bits. -/
def bits : IntKind → Nat
  | sbyte | byte => 8
  | short | ushort => 16
  | int | uint => 32
  | long | ulong => 64

/-- Whether the kind has negative values. -/
def isSigned : IntKind → Bool
  | sbyte | short | int | long => true
  | byte | ushort | uint | ulong => false

/-- The number of values of the kind. -/
def modulus (kind : IntKind) : Int := pow2 kind.bits

/-- The least value of the kind. -/
def least (kind : IntKind) : Int := if kind.isSigned then -(pow2 (kind.bits - 1)) else 0

/-- The greatest value of the kind. -/
def greatest (kind : IntKind) : Int :=
  if kind.isSigned then pow2 (kind.bits - 1) - 1 else pow2 kind.bits - 1

theorem modulus_pos (kind : IntKind) : 0 < kind.modulus := by cases kind <;> decide

theorem greatest_nonneg (kind : IntKind) : 0 ≤ kind.greatest := by cases kind <;> decide

/-- The values of a kind are as many consecutive integers as its modulus says. -/
theorem greatest_eq (kind : IntKind) : kind.greatest = kind.least + kind.modulus - 1 := by
  cases kind <;> decide

theorem least_nonpos (kind : IntKind) : kind.least ≤ 0 := by cases kind <;> decide

end IntKind

/-- The primitive kinds. -/
inductive Kind where
  | bool
  | char
  | integer (kind : IntKind)
  | float
  | double
  | decimal
  deriving DecidableEq, Repr

namespace Kind

/-- Every kind, once. -/
def all : List Kind :=
  [bool, char, integer .sbyte, integer .byte, integer .short, integer .ushort, integer .int,
    integer .uint, integer .long, integer .ulong, float, double, decimal]

/-- The keyword that names the kind in a formula. -/
def keyword : Kind → String
  | bool => "bool"
  | char => "char"
  | integer .sbyte => "sbyte"
  | integer .byte => "byte"
  | integer .short => "short"
  | integer .ushort => "ushort"
  | integer .int => "int"
  | integer .uint => "uint"
  | integer .long => "long"
  | integer .ulong => "ulong"
  | float => "float"
  | double => "double"
  | decimal => "decimal"

/-- The name of the kind in a listing. -/
def name : Kind → String
  | bool => "Bool"
  | char => "Char"
  | integer .sbyte => "SByte"
  | integer .byte => "Byte"
  | integer .short => "Short"
  | integer .ushort => "UShort"
  | integer .int => "Int"
  | integer .uint => "UInt"
  | integer .long => "Long"
  | integer .ulong => "ULong"
  | float => "Float"
  | double => "Double"
  | decimal => "Decimal"

/-- The qualified name under which the kind's members are registered. -/
def qualifiedName : Kind → String
  | bool => "System.Boolean"
  | char => "System.Char"
  | integer .sbyte => "System.SByte"
  | integer .byte => "System.Byte"
  | integer .short => "System.Int16"
  | integer .ushort => "System.UInt16"
  | integer .int => "System.Int32"
  | integer .uint => "System.UInt32"
  | integer .long => "System.Int64"
  | integer .ulong => "System.UInt64"
  | float => "System.Single"
  | double => "System.Double"
  | decimal => "System.Decimal"

/-- The storage size in bytes, which `sizeof` reports. -/
def size : Kind → Nat
  | bool => 1
  | char => 2
  | integer kind => kind.bits / 8
  | float => 4
  | double => 8
  | decimal => 16

/-- Whether the kind is one of the integers. -/
def isIntegral : Kind → Bool
  | integer _ => true
  | _ => false

/-- Whether the kind is binary floating point. -/
def isFloating : Kind → Bool
  | float | double => true
  | _ => false

/-- Integers, floating kinds and decimals; truth values and characters are not numeric. -/
def isNumeric : Kind → Bool
  | bool | char => false
  | _ => true

/-- Whether the kind has negative values. -/
def isSigned : Kind → Bool
  | integer kind => kind.isSigned
  | float | double | decimal => true
  | bool | char => false

/-- The place on the ladder of implicit widening. `sbyte`, `char` and `bool` have none, and `ulong`
stands above `long`. -/
def rank? : Kind → Option Nat
  | integer .byte => some 1
  | integer .short => some 2
  | integer .ushort => some 3
  | integer .int => some 4
  | integer .uint => some 5
  | integer .long => some 6
  | integer .ulong => some 7
  | float => some 8
  | double => some 9
  | decimal => some 10
  | bool | char | integer .sbyte => none

/-- The kind at a place of the ladder. -/
def ofRank? (rank : Nat) : Option Kind := all.find? fun kind => kind.rank? == some rank

/-- The kind with this keyword. -/
def ofKeyword? (word : String) : Option Kind := all.find? fun kind => kind.keyword == word

/-- The kind with this qualified name. -/
def ofQualifiedName? (name : String) : Option Kind :=
  all.find? fun kind => kind.qualifiedName == name

end Kind
end Formula
