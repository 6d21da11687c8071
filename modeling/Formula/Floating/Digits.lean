import Formula.Floating.Format

/-! The fewest decimal digits that read back as a given double. For one digit, two digits and so on
the two neighbours of the number on the decimal grid are tried; the first grid with a neighbour
inside the rounding interval wins, and of two such neighbours the nearer. -/
namespace Formula.Floating

/-- Digits `d₁ d₂ … dₙ` with `0.d₁d₂…dₙ * 10 ^ point`. -/
structure Digits where
  digits : List Char
  point : Int

/-- The real numbers that round to a positive finite double, in quarters of its last place: the
number itself and the two ends of the interval over a common denominator. -/
structure Interval where
  low : Nat
  value : Nat
  high : Nat
  den : Nat
  closed : Bool

/-- The rounding interval of `significand * 2 ^ power`. The lower end is nearer where the significand
is the least of its binade. -/
def interval (significand : Nat) (power : Int) : Interval :=
  let below := if significand = pow2 52 ∧ double.leastPower < power then 1 else 2
  let (unit, den) := scaled 1 4 power
  { low := (4 * significand - below) * unit, value := 4 * significand * unit,
    high := (4 * significand + 2) * unit, den, closed := significand % 2 == 0 }

/-- Whether the number `num / den` on the interval's scale lies inside it. -/
def Interval.holds (range : Interval) (num : Nat) (den : Nat) : Bool :=
  let scaledNum := num * range.den
  if range.closed then range.low * den ≤ scaledNum && scaledNum ≤ range.high * den
  else range.low * den < scaledNum && scaledNum < range.high * den

/-- The number of decimal digits before the point, found by trial from an estimate: the least `n`
with `num / den < 10 ^ n`. -/
def pointOf (num den : Nat) : Int :=
  let below (n : Int) : Bool :=
    if 0 ≤ n then num < den * pow10 n.toNat else num * pow10 (-n).toNat < den
  let estimate : Int := ((num.log2 : Int) - den.log2) * 30103 / 100000
  if below (estimate - 1) then estimate - 1
  else if below estimate then estimate
  else if below (estimate + 1) then estimate + 1
  else estimate + 2

/-- The grid point chosen among those with `count` digits, if one lies in the interval, and the
weight of its last digit. -/
def gridPoint (range : Interval) (point : Int) (count : Nat) : Option Nat :=
  let weight : Int := point - count
  let (num, den) :=
    if 0 ≤ weight then (range.value, range.den * pow10 weight.toNat)
    else (range.value * pow10 (-weight).toNat, range.den)
  let floor := num / den
  let up := 2 * (num % den)
  let inside (n : Nat) : Bool :=
    if 0 ≤ weight then range.holds (n * pow10 weight.toNat) 1
    else range.holds n (pow10 (-weight).toNat)
  match inside floor, inside (floor + 1) with
  | true, true => some (if up < den then floor else floor + 1)
  | true, false => some floor
  | false, true => some (floor + 1)
  | false, false => none

/-- A decimal number without its trailing zeros, and how many were taken. -/
def stripZeros : Nat → Nat → Nat
  | 0, n => n
  | steps + 1, n => if n % 10 = 0 ∧ n ≠ 0 then stripZeros steps (n / 10) else n

/-- The first grid with a hit, from `count` digits on. -/
def searchDigits (range : Interval) (point : Int) : Nat → Nat → Digits
  | 0, _ => ⟨['0'], 0⟩
  | steps + 1, count =>
    match gridPoint range point count with
    | some n =>
      let written := Nat.toDigits 10 n
      ⟨Nat.toDigits 10 (stripZeros 20 n), point + (written.length - count : Int)⟩
    | none => searchDigits range point steps (count + 1)

/-- The fewest digits of a positive finite double. -/
def shortest (significand : Nat) (power : Int) : Digits :=
  let range := interval significand power
  searchDigits range (pointOf range.value range.den) 20 1

end Formula.Floating
