import Formula.Power

/-! Decimal numbers of 96 bits. A decimal is a sign, an integer below `2 ^ 96` and a scale of at most
28 decimal places. Numbers that differ only in their scale are equal in value and differ in text. -/
namespace Formula

/-- A decimal number: `mantissa / 10 ^ scale` with a sign. -/
structure Decimal where
  negative : Bool
  mantissa : Nat
  scale : Nat
  mantissa_lt : mantissa < pow2 96
  scale_le : scale ≤ 28

namespace Decimal

/-- The greatest scale. -/
def maxScale : Nat := 28

/-- The first integer that no mantissa reaches. -/
def bound : Nat := pow2 96

/-- The decimal with these parts, if the mantissa and the scale are in range. -/
def ofParts? (negative : Bool) (mantissa scale : Nat) : Option Decimal :=
  if fits : mantissa < pow2 96 ∧ scale ≤ 28 then some ⟨negative, mantissa, scale, fits.1, fits.2⟩
  else none

/-- The decimal with these parts; a zero has no sign. -/
def ofUnsignedZero? (negative : Bool) (mantissa scale : Nat) : Option Decimal :=
  ofParts? (negative && mantissa != 0) mantissa scale

/-- Zero, with no decimal places. -/
def zero : Decimal := ⟨false, 0, 0, by decide, by decide⟩

instance : Inhabited Decimal := ⟨zero⟩

/-- The greatest decimal. -/
def greatest : Decimal := ⟨false, pow2 96 - 1, 0, by decide, by decide⟩

/-- The least decimal. -/
def least : Decimal := ⟨true, pow2 96 - 1, 0, by decide, by decide⟩

/-- Whether the value is zero. -/
def isZero (d : Decimal) : Bool := d.mantissa == 0

/-- The value in units of `10 ^ -28`, which are whole for every decimal. -/
def units (d : Decimal) : Int :=
  let magnitude : Int := d.mantissa * pow10 (28 - d.scale)
  if d.negative then -magnitude else magnitude

/-- Equality of values. -/
def equals (a b : Decimal) : Bool := a.units == b.units

/-- The order of values. -/
def order (a b : Decimal) : Ordering := compare a.units b.units

/-- The negative, also of zero. -/
def neg (d : Decimal) : Decimal := { d with negative := !d.negative }

/-- The absolute value. -/
def abs (d : Decimal) : Decimal := { d with negative := false }

/-- The decimal with the value of an integer, if there is one. -/
def ofInt? (n : Int) : Option Decimal := ofParts? (n < 0) n.natAbs 0

/-- The integer between zero and the value that is nearest to the value. -/
def truncate (d : Decimal) : Int :=
  let whole : Int := (d.mantissa / pow10 d.scale : Nat)
  if d.negative then -whole else whole

/-- The digits of a number around a decimal point with exactly `scale` places. -/
def placed (scale mantissa : Nat) : List Char :=
  let digits := Nat.toDigits 10 mantissa
  let padded := List.replicate (scale + 1 - digits.length) '0' ++ digits
  if scale = 0 then digits
  else padded.take (padded.length - scale) ++ '.' :: padded.drop (padded.length - scale)

/-- The text: all the decimal places of the scale, and a minus sign wherever the sign is set. -/
def text (d : Decimal) : String :=
  String.ofList (if d.negative then '-' :: placed d.scale d.mantissa else placed d.scale d.mantissa)

end Decimal
end Formula
