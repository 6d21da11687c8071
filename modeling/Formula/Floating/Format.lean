import Formula.Power

/-! Binary floating point as exact numbers. A finite number is an integer times a power of two; the
bits of a number are taken apart into that form, and the number nearest to a fraction is put together
from it, ties going to the even significand. -/
namespace Formula.Floating

/-- A binary interchange format, by the widths of its fraction and exponent fields. -/
structure Format where
  fraction : Nat
  exponent : Nat

/-- Single precision. -/
def single : Format := ⟨23, 8⟩

/-- Double precision. -/
def double : Format := ⟨52, 11⟩

namespace Format

/-- The bits of positive infinity: the exponent field is all ones. -/
def infinityBits (format : Format) : Nat := (pow2 format.exponent - 1) * pow2 format.fraction

/-- The weight of the last place of the smallest numbers, as a power of two. -/
def leastPower (format : Format) : Int := 2 - pow2 (format.exponent - 1) - format.fraction

end Format

/-- What the bits of a number stand for; a finite number is `significand * 2 ^ power` with a sign. -/
inductive Parts where
  | nan
  | infinite (negative : Bool)
  | finite (negative : Bool) (significand : Nat) (power : Int)

/-- Takes the bits of a number apart. -/
def parts (format : Format) (bits : Nat) : Parts :=
  let fraction := bits % pow2 format.fraction
  let biased := bits / pow2 format.fraction % pow2 format.exponent
  let negative := bits / pow2 (format.fraction + format.exponent) % 2 == 1
  if biased = pow2 format.exponent - 1 then
    if fraction = 0 then .infinite negative else .nan
  else if biased = 0 then .finite negative fraction format.leastPower
  else .finite negative (fraction + pow2 format.fraction) (format.leastPower + biased - 1)

/-- The integer nearest to a fraction; a tie goes to the even one. -/
def roundHalfEven (num den : Nat) : Nat :=
  let quotient := num / den
  let twice := 2 * (num % den)
  if den < twice ∨ (den = twice ∧ quotient % 2 = 1) then quotient + 1 else quotient

/-- A fraction times a power of two, as a fraction. -/
def scaled (num den : Nat) (power : Int) : Nat × Nat :=
  if 0 ≤ power then (num * pow2 power.toNat, den) else (num, den * pow2 (-power).toNat)

/-- The weight of the last place of the numbers around a positive fraction. -/
def lastPlace (format : Format) (num den : Nat) : Int :=
  let estimate : Int := (num.log2 : Int) - den.log2 - format.fraction
  let (high, low) := scaled num den (-estimate)
  let power := if high < low * pow2 format.fraction then estimate - 1 else estimate
  max power format.leastPower

/-- The bits of the positive number nearest to a fraction. -/
def nearestBits (format : Format) (num den : Nat) : Nat :=
  if num = 0 then 0
  else
    let power := lastPlace format num den
    let (high, low) := scaled num den (-power)
    let bits := (power - format.leastPower).toNat * pow2 format.fraction + roundHalfEven high low
    min bits format.infinityBits

/-- The bits of a sign followed by the bits of a positive number. -/
def signed (format : Format) (negative : Bool) (bits : Nat) : Nat :=
  if negative then bits + pow2 (format.fraction + format.exponent) else bits

/-- The double nearest to a fraction with a sign. -/
def doubleOfRatio (negative : Bool) (num den : Nat) : Float :=
  Float.ofBits (signed double negative (nearestBits double num den)).toUInt64

/-- The single nearest to a fraction with a sign. -/
def singleOfRatio (negative : Bool) (num den : Nat) : Float32 :=
  Float32.ofBits (signed single negative (nearestBits single num den)).toUInt32

/-- The double nearest to an integer. -/
def doubleOfInt (n : Int) : Float := doubleOfRatio (n < 0) n.natAbs 1

/-- The single nearest to an integer. -/
def singleOfInt (n : Int) : Float32 := singleOfRatio (n < 0) n.natAbs 1

/-- The parts of a double. -/
def doubleParts (x : Float) : Parts := parts double x.toBits.toNat

end Formula.Floating
