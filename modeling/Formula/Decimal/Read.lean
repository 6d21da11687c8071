import Formula.Decimal.Basic

/-! Reading decimals. Digits are taken while the mantissa and the scale have room; the first digit
that has none rounds the number, half away from zero, and those after it only have to be digits. An
underscore may stand after a digit. -/
namespace Formula.Decimal

/-- What has been read of a number so far. -/
structure Progress where
  mantissa : Nat
  scale : Nat
  point : Bool
  digits : Bool

private def digit? (c : Char) : Option Nat :=
  if c.isDigit then some (c.toNat - '0'.toNat) else none

/-- Rounds by the first digit that has no room; `rest` is the text after it. -/
def roundBy (negative : Bool) (read : Progress) (digit : Nat) (rest : List Char) : Option Decimal :=
  if rest.any fun c => !c.isDigit && c != '_' then none
  else if digit < 5 then ofUnsignedZero? negative read.mantissa read.scale
  else if read.mantissa + 1 < bound then ofUnsignedZero? negative (read.mantissa + 1) read.scale
  else if read.scale = 0 then none
  else ofUnsignedZero? negative ((read.mantissa + 1 + 4) / 10) (read.scale - 1)

/-- Whether the scale has no room for another place. -/
def Progress.isFull (read : Progress) : Bool := read.point && maxScale ≤ read.scale

/-- Whether the digits before the last one are sure to leave room for another in 64 bits. -/
def Progress.isNarrow (read : Progress) : Bool := read.mantissa / 10 < (pow2 64 - 1) / 10 - 255

/-- Reads the rest of a number. An underscore after the last place of a narrow number stands for the
digit that rounds it, a zero; any other underscore is passed over. -/
def readFrom (negative : Bool) (read : Progress) : List Char → Option Decimal
  | [] => if read.digits then ofUnsignedZero? negative read.mantissa read.scale else none
  | c :: rest =>
    match digit? c with
    | some digit =>
      let mantissa := read.mantissa * 10 + digit
      if read.isFull then roundBy negative read digit rest
      else if mantissa < bound then
        let scale := if read.point then read.scale + 1 else 0
        readFrom negative { read with mantissa, scale, digits := true } rest
      else if read.point then roundBy negative read digit rest
      else none
    | none =>
      if c = '.' && !read.point then readFrom negative { read with point := true } rest
      else if c = '_' && read.digits then
        if read.isFull && read.isNarrow then roundBy negative read 0 rest
        else readFrom negative read rest
      else none

/-- Reads a decimal with an optional sign. -/
def read? (text : List Char) : Option Decimal :=
  match text with
  | [] => none
  | '-' :: rest => readFrom true ⟨0, 0, false, false⟩ rest
  | '+' :: rest => readFrom false ⟨0, 0, false, false⟩ rest
  | rest => readFrom false ⟨0, 0, false, false⟩ rest

private def natural? (text : List Char) : Option Nat :=
  if text.isEmpty then none
  else text.foldlM (fun total c => (digit? c).map (total * 10 + ·)) 0

/-- Moves the decimal point to the left by `places`. -/
def shiftLeft? (d : Decimal) (places : Nat) : Option Decimal :=
  if maxScale < places then none else ofParts? d.negative d.mantissa (d.scale + places)

/-- Moves the decimal point to the left by `places` and gives up the places that have no room, half
away from zero; the sign stays also on a zero. -/
def shiftLeftRounding? (d : Decimal) (places : Nat) : Option Decimal :=
  let excess := d.scale + places - maxScale
  let unit := pow10 excess
  if maxScale < places then none
  else ofParts? d.negative ((d.mantissa + unit / 2) / unit) (d.scale + places - excess)

/-- Moves the decimal point to the right by `places`, filling up with zeros. -/
def shiftRight? (d : Decimal) (places : Nat) : Option Decimal :=
  if places ≤ d.scale then ofParts? d.negative d.mantissa (d.scale - places)
  else if maxScale < places then none
  else ofParts? d.negative (d.mantissa * pow10 (places - d.scale)) 0

/-- Whether a character introduces a power of ten. -/
def isPowerMark (c : Char) : Bool := c == 'e' || c == 'E'

/-- Reads a decimal followed by a power of ten of at most 28 places either way; `lower` moves the
decimal point to the left. -/
def readPower? (lower : Decimal → Nat → Option Decimal) (text : List Char) : Option Decimal :=
  let base := text.takeWhile (!isPowerMark ·)
  match text.dropWhile (!isPowerMark ·) with
  | [] => none
  | _ :: exponent =>
    (read? base).bind fun d =>
      match exponent with
      | '-' :: '+' :: places | '-' :: places => (natural? places).bind (lower d)
      | '+' :: places | places => (natural? places).bind (shiftRight? d)

/-- Reads a decimal followed by a power of ten, where every place of it has room. -/
def readScientific? : List Char → Option Decimal := readPower? shiftLeft?

/-- Reads a decimal in either form; places that a power of ten leaves no room for round it. -/
def readEither? (text : List Char) : Option Decimal :=
  if text.any isPowerMark then readPower? shiftLeftRounding? text else read? text

end Formula.Decimal
