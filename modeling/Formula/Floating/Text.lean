import Formula.Floating.Digits

/-! The text of doubles and singles. Values are written with the fewest digits that read back and
never with an exponent; listings keep a decimal place and use an exponent for very large and very
small numbers. Reading takes an optional sign, digits with at most one point and an optional
exponent, or one of the names of the numbers that have no digits, and gives the nearest number. -/
namespace Formula.Floating

/-- Digits written out around the decimal point. -/
def positional (number : Digits) : List Char :=
  let count : Int := number.digits.length
  if number.point ≤ 0 then
    ['0', '.'] ++ List.replicate (-number.point).toNat '0' ++ number.digits
  else if count ≤ number.point then
    number.digits ++ List.replicate (number.point - count).toNat '0'
  else
    number.digits.take number.point.toNat ++ ['.'] ++ number.digits.drop number.point.toNat

/-- Digits written as one digit, a fraction if there is one, and a power of ten. -/
def scientific (number : Digits) : List Char :=
  let fraction := match number.digits.drop 1 with
    | [] => []
    | rest => '.' :: rest
  number.digits.take 1 ++ fraction ++ 'e' :: (toString (number.point - 1)).toList

/-- A text behind a minus sign, if there is one. -/
def withSign (negative : Bool) (text : List Char) : String :=
  String.ofList (if negative then '-' :: text else text)

/-- The text of a double as a value. -/
def text (x : Float) : String :=
  match doubleParts x with
  | .nan => "NaN"
  | .infinite negative => if negative then "-Infinity" else "Infinity"
  | .finite negative significand power =>
    if significand = 0 then withSign negative ['0']
    else withSign negative (positional (shortest significand power))

/-- The text of a double in a listing: positional from 10⁻⁴ up to 10¹⁶, always with a decimal place. -/
def listing (x : Float) : String :=
  match doubleParts x with
  | .nan => "NaN"
  | .infinite negative => if negative then "-inf" else "inf"
  | .finite negative significand power =>
    if significand = 0 then withSign negative ['0', '.', '0']
    else
      let number := shortest significand power
      if -3 ≤ number.point ∧ number.point ≤ 16 then
        let written := positional number
        withSign negative (if written.contains '.' then written else written ++ ['.', '0'])
      else withSign negative (scientific number)

/-- A decimal number as read: `significand * 10 ^ exponent`, with the number of its digits. -/
structure Numeral where
  negative : Bool
  significand : Nat
  exponent : Int
  digitCount : Nat

/-- A number as read, or one of those that have no digits. -/
inductive Reading where
  | numeral (number : Numeral)
  | infinite (negative : Bool)
  | nan

private def digitValue (digits : List Char) : Nat :=
  digits.foldl (fun total c => total * 10 + (c.toNat - '0'.toNat)) 0

/-- The exponent after its mark: an optional sign and at least one digit, up to the end. -/
def exponent? (text : List Char) : Option Int :=
  let (negative, digits) := match text with
    | '-' :: rest => (true, rest)
    | '+' :: rest => (false, rest)
    | rest => (false, rest)
  if digits.isEmpty || !digits.all Char.isDigit then none
  else some (if negative then -(digitValue digits : Int) else digitValue digits)

/-- Digits with at most one point and an optional exponent, up to the end. -/
def numeral? (negative : Bool) (text : List Char) : Option Numeral :=
  let whole := text.takeWhile Char.isDigit
  let rest := text.dropWhile Char.isDigit
  let (fraction, rest) := match rest with
    | '.' :: rest => (rest.takeWhile Char.isDigit, rest.dropWhile Char.isDigit)
    | rest => ([], rest)
  let digits := whole ++ fraction
  if digits.isEmpty then none
  else
    let number (exponent : Int) : Numeral :=
      ⟨negative, digitValue digits, exponent - fraction.length,
        (digits.dropWhile (· == '0')).length⟩
    match rest with
    | [] => some (number 0)
    | mark :: rest => if mark = 'e' ∨ mark = 'E' then (exponent? rest).map number else none

/-- Reads the text of a number. -/
def read? (text : List Char) : Option Reading :=
  let (negative, body) := match text with
    | '-' :: rest => (true, rest)
    | '+' :: rest => (false, rest)
    | rest => (false, rest)
  let word := String.ofList (body.map Char.toLower)
  if word = "inf" ∨ word = "infinity" then some (.infinite negative)
  else if word = "nan" then some .nan
  else (numeral? negative body).map .numeral

/-- The bits of the number nearest to a numeral. Numerals far beyond the range of the format are
settled by their size alone. -/
def numeralBits (format : Format) (number : Numeral) : Nat :=
  let magnitude : Int := number.exponent + number.digitCount
  let bits :=
    if number.significand = 0 ∨ magnitude < -400 then 0
    else if 400 < magnitude then format.infinityBits
    else if 0 ≤ number.exponent then
      nearestBits format (number.significand * pow10 number.exponent.toNat) 1
    else nearestBits format number.significand (pow10 (-number.exponent).toNat)
  signed format number.negative bits

/-- The bits of what was read; what is not a number has the leading fraction bit set. -/
def readingBits (format : Format) : Reading → Nat
  | .numeral number => numeralBits format number
  | .infinite negative => signed format negative format.infinityBits
  | .nan => format.infinityBits + pow2 (format.fraction - 1)

/-- Reads a double. -/
def readDouble? (text : List Char) : Option Float :=
  (read? text).map fun reading => Float.ofBits (readingBits double reading).toUInt64

/-- Reads a single. -/
def readSingle? (text : List Char) : Option Float32 :=
  (read? text).map fun reading => Float32.ofBits (readingBits single reading).toUInt32

end Formula.Floating
