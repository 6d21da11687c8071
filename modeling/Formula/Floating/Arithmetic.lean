import Formula.Floating.Format
import Formula.Floating.Widening
import Formula.Word

/-! Operations on doubles beyond the four basic ones: rounding to integers, the exact remainder,
integer powers, and the comparisons that pass over a number that is not one. -/
namespace Formula.Floating

/-- The integer between zero and a number that is nearest to the number. -/
def truncate (x : Float) : Float := if x < 0 then x.ceil else x.floor

/-- The nearest integer; a tie goes to the even one. -/
def roundHalfToEven (x : Float) : Float :=
  if (x - truncate x).abs == 0.5 then 2 * (x / 2).round else x.round

/-- The integer part of a finite number given by its parts. -/
def integerPart (negative : Bool) (significand : Nat) (power : Int) : Int :=
  let (high, low) := scaled significand 1 power
  if negative then -(high / low : Nat) else (high / low : Nat)

/-- The word nearest to the integer part of a number; what is not a number becomes zero. -/
def toWord (kind : IntKind) (x : Float) : Word kind :=
  match doubleParts x with
  | .nan => Word.ofInt kind 0
  | .infinite true => Word.ofInt kind kind.least
  | .infinite false => Word.ofInt kind kind.greatest
  | .finite negative significand power => Word.clamp kind (integerPart negative significand power)

/-- The remainder of the division whose quotient is cut toward zero. It is exact and has the sign of
the dividend. -/
def remainder (x y : Float) : Float :=
  match doubleParts x, doubleParts y with
  | .finite negative a p, .finite _ b q =>
    if b = 0 then 0.0 / 0.0
    else
      let base := min p q
      let rest := (a * pow2 (p - base).toNat) % (b * pow2 (q - base).toNat)
      let (high, low) := scaled rest 1 base
      doubleOfRatio negative high low
  | .finite .., .infinite _ => x
  | _, _ => 0.0 / 0.0

/-- The remainder on singles: the double result is exact and is a single. -/
def remainder32 (x y : Float32) : Float32 := (remainder (widen x) (widen y)).toFloat32

/-- Power by repeated squaring; `steps` bounds the number of binary digits of the exponent. -/
def powerLoop : Nat → Float → Float → Nat → Float
  | 0, result, _, _ => result
  | steps + 1, result, base, exponent =>
    let result := if exponent % 2 = 1 then result * base else result
    if exponent / 2 = 0 then result else powerLoop steps result (base * base) (exponent / 2)

/-- An integer power; a negative exponent gives the reciprocal. -/
def power (base : Float) (exponent : Int) : Float :=
  let result := powerLoop 64 1.0 base exponent.natAbs
  if exponent < 0 then 1.0 / result else result

/-- The lesser of two numbers, and the second of two that are equal, which tells zeros of different
sign apart; what is not a number is passed over. -/
def least (x y : Float) : Float := if y.isNaN then x else if x < y then x else y

/-- The greater of two numbers, and the second of two that are equal; what is not a number is passed
over. -/
def greatest (x y : Float) : Float := if y.isNaN then x else if y < x then x else y

/-- The sign of a number as an integer; zero for what is not a number. -/
def sign (x : Float) : Int := if x > 0 then 1 else if x < 0 then -1 else 0

/-- The order of two numbers, if they have one. -/
def order? (x y : Float) : Option Ordering :=
  if x < y then some .lt else if y < x then some .gt else if x == y then some .eq else none

/-- The order of two singles, if they have one. -/
def order32? (x y : Float32) : Option Ordering :=
  if x < y then some .lt else if y < x then some .gt else if x == y then some .eq else none

end Formula.Floating
