import Formula.Decimal.Basic
import Formula.Floating.Format

/-! Arithmetic on decimals. Sums and products are computed exactly and then lose as few decimal
places as bring the mantissa and the scale into range, rounding half to even; a quotient is extended
digit by digit as far as there is room. An operation whose value has no room at scale zero has no
result. -/
namespace Formula.Decimal

/-- The mantissa and the scale after dropping the fewest decimal places that bring both into range;
`dropped` places are tried first and `steps` bounds the search. -/
def fit (mantissa scale : Nat) : Nat → Nat → Option (Nat × Nat)
  | 0, _ => none
  | steps + 1, dropped =>
    if scale < dropped then none
    else
      let rounded := Floating.roundHalfEven mantissa (pow10 dropped)
      if rounded < bound ∧ scale - dropped ≤ maxScale then some (rounded, scale - dropped)
      else fit mantissa scale steps (dropped + 1)

/-- The mantissa of a decimal at a scale not below its own. -/
def aligned (d : Decimal) (scale : Nat) : Int :=
  let magnitude : Int := d.mantissa * pow10 (scale - d.scale)
  if d.negative then -magnitude else magnitude

/-- The decimal of an exact mantissa with a sign, at a scale. -/
def ofAligned? (mantissa : Int) (scale : Nat) : Option Decimal :=
  (fit mantissa.natAbs scale 32 0).bind fun (digits, places) =>
    ofUnsignedZero? (mantissa < 0) digits places

/-- Sum. Adding a zero keeps the other operand as it is. -/
def add? (a b : Decimal) : Option Decimal :=
  if a.isZero then some b
  else if b.isZero then some a
  else
    let scale := max a.scale b.scale
    ofAligned? (aligned a scale + aligned b scale) scale

/-- Difference. Taking from a zero or taking a zero away keeps the scale of the other operand. -/
def sub? (a b : Decimal) : Option Decimal :=
  if a.isZero then some (if b.isZero then b else b.neg)
  else if b.isZero then some a
  else
    let scale := max a.scale b.scale
    ofAligned? (aligned a scale - aligned b scale) scale

/-- Whether the mantissa has at most 32 bits. -/
def isShort (d : Decimal) : Bool := d.mantissa < pow2 32

/-- Product. A zero operand gives zero without decimal places, and so do two short mantissas with
more than 47 places together. A product too small for its last place is a zero; it has no sign where
both mantissas are short and the sign of the product otherwise. -/
def mul? (a b : Decimal) : Option Decimal :=
  let short := a.isShort && b.isShort
  if a.isZero || b.isZero then some zero
  else if short && 47 < a.scale + b.scale then some zero
  else
    (fit (a.mantissa * b.mantissa) (a.scale + b.scale) 64 0).bind fun (mantissa, scale) =>
      let negative := a.negative != b.negative
      if short then ofUnsignedZero? negative mantissa scale else ofParts? negative mantissa scale

/-- A quotient in the making: what has been divided so far, what remains, and the scale, which may
still be negative. -/
structure Division where
  quotient : Nat
  remainder : Nat
  scale : Int
  inexact : Bool

/-- The greatest power of ten, up to nine places, for which a quotient and its scale have room. -/
def room (quotient : Nat) (scale : Int) : Nat → Nat
  | 0 => 0
  | places + 1 =>
    if scale + (places + 1 : Nat) ≤ maxScale ∧ quotient * pow10 (places + 1) < bound then places + 1
    else room quotient scale places

/-- Takes the last place off a quotient that grew out of range, rounding half to even; `sticky` says
that a last place of five counts as more than half. -/
def retreat (state : Division) (sticky : Bool) : Option Division :=
  if state.scale - 1 < 0 then none
  else
    let quotient := state.quotient / 10
    let last := state.quotient % 10
    let up := 5 < last ∨ (last = 5 ∧ (sticky = true ∨ quotient % 2 = 1))
    some { state with quotient := if up then quotient + 1 else quotient, scale := state.scale - 1 }

/-- Rounds a quotient that can be extended no further by its remainder, half to even. -/
def settle (divisor : Nat) (state : Division) : Option Division :=
  let twice := 2 * state.remainder
  if divisor < twice ∨ (divisor = twice ∧ state.quotient % 2 = 1) then
    let rounded := { state with quotient := state.quotient + 1 }
    if rounded.quotient < bound then some rounded else retreat rounded true
  else some state

/-- Extends a quotient by `places` digits. -/
def extend (divisor : Nat) (state : Division) (places : Nat) : Division :=
  let remainder := state.remainder * pow10 places
  { state with
    quotient := state.quotient * pow10 places + remainder / divisor
    remainder := remainder % divisor
    scale := state.scale + places }

/-- Whether a last place of five is more than half of a place: something remains below it, or the
divisor has more than 64 bits, where a half goes up. -/
def isSticky (divisor : Nat) (state : Division) : Bool :=
  state.remainder != 0 || decide (pow2 64 ≤ divisor)

/-- Extends a quotient until nothing remains and its scale is not negative, or until there is no
room. Where the room runs out before the scale has become positive, the quotient is out of range.
`steps` bounds the number of extensions. -/
def divideLoop (divisor : Nat) : Nat → Division → Option Division
  | 0, _ => none
  | steps + 1, state =>
    if state.remainder = 0 then
      if 0 ≤ state.scale then some state
      else
        let next := extend divisor state (min 9 (-state.scale).toNat)
        if next.quotient < bound then divideLoop divisor steps next else none
    else
      let state := { state with inexact := true }
      let places := room state.quotient state.scale 9
      if places < 9 ∧ state.scale + (places : Int) < 0 then none
      else if places = 0 then settle divisor state
      else
        let next := extend divisor state places
        if next.quotient < bound then divideLoop divisor steps next
        else retreat next (isSticky divisor next)

/-- Divides by `10 ^ places` if that leaves no remainder and the scale allows it. -/
def strip (places : Nat) (parts : Nat × Nat) : Nat × Nat :=
  if places ≤ parts.2 ∧ parts.1 % pow10 places = 0 then (parts.1 / pow10 places, parts.2 - places)
  else parts

/-- Divides by `10 ^ 8` as long as the low 32 bits of the mantissa are zero. -/
def stripEights : Nat → Nat × Nat → Nat × Nat
  | 0, parts => parts
  | steps + 1, parts =>
    if parts.1 % pow2 32 = 0 ∧ 8 ≤ parts.2 ∧ parts.1 % pow10 8 = 0 then
      stripEights steps (parts.1 / pow10 8, parts.2 - 8)
    else parts

/-- Takes trailing zeros off a quotient: eights first, then four, two and one. -/
def stripQuotient (mantissa scale : Nat) : Nat × Nat :=
  strip 1 (strip 2 (strip 4 (stripEights 4 (mantissa, scale))))

/-- Quotient; the divisor is not zero. Trailing zeros go only if some step left a remainder. -/
def div? (a b : Decimal) : Option Decimal :=
  if a.isZero then some zero
  else
    let start : Division :=
      ⟨a.mantissa / b.mantissa, a.mantissa % b.mantissa, (a.scale : Int) - b.scale, false⟩
    (divideLoop b.mantissa 64 start).bind fun state =>
      let (mantissa, scale) :=
        if state.inexact then stripQuotient state.quotient state.scale.toNat
        else (state.quotient, state.scale.toNat)
      ofUnsignedZero? (a.negative != b.negative) mantissa scale

/-- The nearest integer, half to even. A zero keeps its sign, and what becomes zero loses it. -/
def round (d : Decimal) : Decimal :=
  if d.isZero then { zero with negative := d.negative }
  else if d.scale = 0 then d
  else (ofUnsignedZero? d.negative (Floating.roundHalfEven d.mantissa (pow10 d.scale)) 0).getD d

end Formula.Decimal
