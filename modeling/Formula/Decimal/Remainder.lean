import Formula.Decimal.Basic

/-! The remainder of decimals, by long division in digits of 32 bits. A divisor of at most 64 bits
leaves the exact remainder. For a longer one, the trial digit of a step is the quotient of what the
dividend and the divisor begin with, and it is kept to 32 bits: where the rest of the step before
begins with the same digit as the divisor, the trial digit loses its top bit and the result is not
the exact remainder. -/
namespace Formula.Decimal

/-- A step of long division by a divisor of three digits that uses the first bit of the first: what
is left of `rest` followed by one more digit. Where the trial digit is too great, the divisor is
added back. -/
def divideDigit (divisor rest digit : Nat) : Nat :=
  let dividend := rest * pow2 32 + digit
  let first := divisor / pow2 64
  let trial := dividend / pow2 64 / first % pow2 32
  let kept := dividend / pow2 64 % first * pow2 64 + dividend % pow2 64
  let taken := trial * (divisor % pow2 64)
  if taken ≤ kept then kept - taken else (((kept : Int) - taken) % divisor).toNat

/-- What long division leaves of a number with `digits` digits. -/
def longRemainder (divisor : Nat) : Nat → Nat → Nat
  | 0, _ => 0
  | digits + 1, number =>
    divideDigit divisor (longRemainder divisor digits (number / pow2 32)) (number % pow2 32)

/-- The remainder of two mantissas of one scale. A long divisor is shifted up to 96 bits, and the
dividend along with it; seven digits have room for every dividend. -/
def remainder (dividend divisor : Nat) : Nat :=
  if divisor < pow2 64 then dividend % divisor
  else
    let shift := pow2 (95 - divisor.log2)
    longRemainder (divisor * shift) 7 (dividend * shift) / shift

/-- Remainder of the quotient cut toward zero, at the larger scale and with the sign of the dividend;
the divisor is not zero. -/
def rem? (a b : Decimal) : Option Decimal :=
  if a.isZero || a.abs.equals b.abs then some zero
  else if a.abs.units < b.abs.units then some a
  else
    let scale := max a.scale b.scale
    let rest := remainder (a.mantissa * pow10 (scale - a.scale)) (b.mantissa * pow10 (scale - b.scale))
    ofUnsignedZero? a.negative rest scale

end Formula.Decimal
