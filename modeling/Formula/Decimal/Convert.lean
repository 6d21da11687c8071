import Formula.Decimal.Basic
import Formula.Floating.Arithmetic

/-! Decimals and doubles. A double becomes the decimal with about sixteen significant digits that is
nearest to it, and a decimal becomes a double by way of its whole and fractional parts. -/
namespace Formula.Decimal

/-- The double of a decimal. -/
def toDouble (d : Decimal) : Float :=
  if d.scale = 0 then
    Floating.doubleOfInt (if d.negative then -(d.mantissa : Int) else d.mantissa)
  else
    let unit := pow10 d.scale
    let whole := Floating.doubleOfInt (d.mantissa / unit : Nat)
    let fraction := Floating.doubleOfInt (d.mantissa % unit : Nat) / Floating.doubleOfInt unit
    let magnitude :=
      if fraction == 0 then whole
      else
        let places := Floating.power 10.0 d.scale
        ((whole + fraction) * places).round / places
    if d.negative then -magnitude else magnitude

/-- Multiplies by two's powers below one: a factor of two that the mantissa has is taken out, any
other is traded for a factor of five and a decimal place; a mantissa without room loses its last
bit. The exponent of ten goes along. -/
def byHalves : Nat → Nat → Int → Nat × Int
  | 0, mantissa, exponent => (mantissa, exponent)
  | count + 1, mantissa, exponent =>
    if mantissa % 2 = 0 then byHalves count (mantissa / 2) (exponent + 1)
    else if mantissa * 5 < bound then byHalves count (mantissa * 5) exponent
    else byHalves count (mantissa / 2) (exponent + 1)

/-- A tenth, half up. -/
def tenth (mantissa : Nat) : Nat :=
  if 5 ≤ mantissa % 10 then mantissa / 10 + 1 else mantissa / 10

/-- Gives up decimal places until at most 28 remain; a mantissa that vanishes leaves a zero without
places. -/
def toMaxScale : Nat → Nat → Nat → Nat × Nat
  | 0, mantissa, scale => (mantissa, scale)
  | steps + 1, mantissa, scale =>
    if scale ≤ maxScale then (mantissa, scale)
    else if mantissa / 10 = 0 then (0, 0)
    else toMaxScale steps (tenth mantissa) (scale - 1)

/-- Gives up decimal places until the mantissa has at most 52 bits. -/
def toPrecision : Nat → Nat → Nat × Nat
  | mantissa, 0 => (mantissa, 0)
  | mantissa, scale + 1 =>
    if mantissa < pow2 52 then (mantissa, scale + 1) else toPrecision (tenth mantissa) scale

/-- Takes trailing zeros off the decimal places. -/
def stripPlaces : Nat → Nat → Nat × Nat
  | mantissa, 0 => (mantissa, 0)
  | mantissa, scale + 1 =>
    if mantissa % 10 = 0 then stripPlaces (mantissa / 10) scale else (mantissa, scale + 1)

/-- The decimal of a finite double given by its parts, if it is in range. A power of two that is not
below one gives a whole number, which keeps all its digits. -/
def ofFinite? (negative : Bool) (significand : Nat) (power : Int) : Option Decimal :=
  if 0 ≤ power then ofParts? negative (significand * pow2 power.toNat) 0
  else if significand = 0 then ofParts? negative 0 0
  else
    let (mantissa, exponent) := byHalves (-power).toNat significand power
    let (mantissa, scale) := toMaxScale 1200 mantissa (-exponent).toNat
    let (mantissa, scale) := toPrecision mantissa scale
    let (mantissa, scale) := stripPlaces mantissa scale
    ofParts? negative mantissa scale

/-- The decimal of a double, if there is one. -/
def ofDouble? (x : Float) : Option Decimal :=
  match Floating.doubleParts x with
  | .finite negative significand power => ofFinite? negative significand power
  | _ => none

end Formula.Decimal
