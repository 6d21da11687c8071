import Formula.Decimal.Read
import Formula.Token.Basic
import Formula.Token.Fault

/-! Literals: texts and characters with their escapes, verbatim texts, and numbers with their
suffixes. Each reader is given the text from the first character of the literal on and answers with
what the literal denotes and how many characters it takes; where a literal is at fault, the answer
says which of those characters are. -/
namespace Formula

/-- What was read of a token: its kind, its lexeme, its value if it is a number, and the number of
characters it takes. -/
structure Scan where
  kind : TokenKind
  lexeme : List Char
  number : Option Value
  length : Nat

/-- A fault inside a token: how many characters stand before it and how many it covers. -/
structure ScanFault where
  fault : LexFault
  start : Nat
  length : Nat
  deriving DecidableEq

namespace Literal

/-- A hexadecimal digit. -/
def isHexDigit (c : Char) : Bool :=
  c.isDigit || ('a' ≤ c && c ≤ 'f') || ('A' ≤ c && c ≤ 'F')

/-- What a hexadecimal digit stands for. -/
def hexValue (c : Char) : Nat :=
  if c.isDigit then c.toNat - '0'.toNat
  else if c ≤ 'F' then c.toNat - 'A'.toNat + 10
  else c.toNat - 'a'.toNat + 10

/-- The number that hexadecimal digits denote. -/
def hexNumber (digits : List Char) : Nat := digits.foldl (fun n c => n * 16 + hexValue c) 0

/-- The character that a one-letter escape denotes. -/
def letterEscape? : Char → Option Char
  | '\'' => some '\''
  | '"' => some '"'
  | '\\' => some '\\'
  | '0' => some '\x00'
  | 'a' => some '\x07'
  | 'b' => some '\x08'
  | 'f' => some '\x0c'
  | 'n' => some '\n'
  | 'r' => some '\r'
  | 't' => some '\t'
  | 'v' => some '\x0b'
  | _ => none

/-- The least and the greatest number of digits behind the letter of a numeric escape. -/
def escapeWidth? : Char → Option (Nat × Nat)
  | 'u' => some (4, 4)
  | 'x' => some (1, 4)
  | 'U' => some (8, 8)
  | _ => none

/-- Reads what follows a backslash: the character denoted and how many characters denote it. A fault
comes with the number of characters it covers. -/
def escape : List Char → Except (LexFault × Nat) (Char × Nat)
  | [] => .error (.unterminatedString, 0)
  | c :: rest =>
    match letterEscape? c, escapeWidth? c with
    | some decoded, _ => .ok (decoded, 1)
    | none, some (least, greatest) =>
      let digits := (rest.take greatest).takeWhile isHexDigit
      let code := hexNumber digits
      if least ≤ digits.length ∧ code.isValidChar then .ok (Char.ofNat code, 1 + digits.length)
      else .error (.invalidEscape (c :: digits), 1 + digits.length)
    | none, none => .error (.invalidEscape [c], 1)

/-- Reads up to the closing quote of a literal: what stands inside, and how many characters have been
read then. So far `read` have been, and the next `skip` belong to an escape. -/
def body (quote : Char) (unclosed : LexFault) :
    Nat → Nat → List Char → Except ScanFault (List Char × Nat)
  | read, _, [] => .error ⟨unclosed, 0, read⟩
  | read, skip + 1, _ :: rest => body quote unclosed (read + 1) skip rest
  | read, 0, c :: rest =>
    if c = quote then .ok ([], read + 1)
    else if c = '\n' ∨ c = '\r' then .error ⟨unclosed, 0, read⟩
    else if c = '\\' then
      match escape rest with
      | .error (fault, length) => .error ⟨fault, read, 1 + length⟩
      | .ok (decoded, length) =>
        (body quote unclosed (read + 1) length rest).map fun inside =>
          (decoded :: inside.1, inside.2)
    else (body quote unclosed (read + 1) 0 rest).map fun inside => (c :: inside.1, inside.2)

/-- Reads a text; `rest` follows the opening quote. -/
def text (rest : List Char) : Except ScanFault Scan :=
  (body '"' .unterminatedString 1 0 rest).map fun inside => ⟨.string, inside.1, none, inside.2⟩

/-- Reads a character; `rest` follows the opening quote. -/
def character (rest : List Char) : Except ScanFault Scan :=
  match body '\'' .unterminatedChar 1 0 rest with
  | .error fault => .error fault
  | .ok (inside, length) =>
    if inside.length = 1 then .ok ⟨.char, inside, none, length⟩
    else .error ⟨.invalidChar, 0, length⟩

/-- Reads up to the closing quote of a verbatim text, in which a quote is written twice; `read`
characters have been read. -/
def verbatim : Nat → List Char → Except ScanFault (List Char × Nat)
  | read, [] => .error ⟨.unterminatedString, 0, read⟩
  | read, '"' :: '"' :: rest =>
    (verbatim (read + 2) rest).map fun inside => ('"' :: inside.1, inside.2)
  | read, c :: rest =>
    if c = '"' then .ok ([], read + 1)
    else (verbatim (read + 1) rest).map fun inside => (c :: inside.1, inside.2)

/-- A digit, or the underscore that may stand between digits. -/
def isDigitMark (c : Char) : Bool := c.isDigit || c == '_'

/-- The same for hexadecimal digits. -/
def isHexMark (c : Char) : Bool := isHexDigit c || c == '_'

/-- The fraction that a number goes on with: a point, a digit and whatever digits follow. -/
def fraction : List Char → List Char
  | '.' :: c :: rest => if c.isDigit then '.' :: (c :: rest).takeWhile isDigitMark else []
  | _ => []

/-- The letter of an exponent and its sign. -/
def exponentMark : List Char → List Char
  | c :: rest =>
    if c = 'e' ∨ c = 'E' then
      match rest with
      | sign :: _ => if sign = '+' ∨ sign = '-' then [c, sign] else [c]
      | [] => [c]
    else []
  | [] => []

/-- The characters of a number before its suffix, and what they say about it. -/
structure Numeral where
  written : List Char
  isReal : Bool
  hasExponent : Bool

/-- Reads a number up to its suffix. A fault is an exponent without digits; it comes with the
characters that have been read. -/
def numeral (text : List Char) : Except (List Char) Numeral :=
  let whole := text.takeWhile isDigitMark
  let part := fraction (text.drop whole.length)
  let mantissa := whole ++ part
  let rest := text.drop mantissa.length
  let mark := exponentMark rest
  if mark.isEmpty then .ok ⟨mantissa, !part.isEmpty, false⟩
  else
    let exponent := (rest.drop mark.length).takeWhile isDigitMark
    match exponent with
    | c :: _ =>
      if c.isDigit then .ok ⟨mantissa ++ mark ++ exponent, true, true⟩
      else .error (mantissa ++ mark)
    | [] => .error (mantissa ++ mark)

/-- Digits without the underscores between them. -/
def dense (written : List Char) : List Char := written.filter (· != '_')

/-- The value of a number in the first of some kinds that holds it. -/
def firstFitting (kinds : List IntKind) (n : Nat) : Option Value :=
  kinds.findSome? fun kind => (Word.ofInt? kind n).map (Value.integer kind)

/-- The kinds that an integer suffix allows, in the order in which they are tried. -/
def suffixKinds? (suffix : List Char) : Option (List IntKind) :=
  match suffix.map Char.toLower with
  | ['l'] => some [.long]
  | ['u'] => some [.uint, .ulong]
  | ['u', 'l'] | ['l', 'u'] => some [.ulong]
  | _ => none

/-- The value of a number in range, or a fault. -/
def inRange : Option Value → Except NumberFault Value
  | some value => .ok value
  | none => .error .outOfRange

/-- The value of a decimal numeral with its suffix. Without one, a real numeral is a double and an
integer is the first of `int` and `long` that holds it. -/
def decimalValue (number : Numeral) (suffix : List Char) : Except NumberFault Value :=
  let digits := dense number.written
  match suffix with
  | [] =>
    if number.isReal then inRange ((Floating.readDouble? digits).map .double)
    else match (Word.digits? digits).bind (firstFitting [.int, .long]) with
      | some value => .ok value
      | none => .error .integerTooLarge
  | ['d'] | ['D'] => inRange ((Floating.readDouble? digits).map .double)
  | ['f'] | ['F'] => inRange ((Floating.readSingle? digits).map .float)
  | ['m'] | ['M'] =>
    inRange ((if number.hasExponent then Decimal.readScientific? digits
      else Decimal.read? digits).map .decimal)
  | _ =>
    if number.isReal then .error .realWithIntegerSuffix
    else match suffixKinds? suffix with
      | some kinds => inRange ((Word.digits? digits).bind (firstFitting kinds))
      | none => .error .unknownSuffix

/-- The value of hexadecimal digits with their suffix. Under the suffix for `long` the digits are the
bits of the value. -/
def hexValueOf (digits suffix : List Char) : Except NumberFault Value :=
  let n := hexNumber digits
  if digits.isEmpty then .error .noHexDigits
  else if pow2 64 ≤ n then .error .outOfRange
  else match suffix with
    | [] => inRange (firstFitting [.int, .uint, .long, .ulong] n)
    | _ =>
      match suffixKinds? suffix with
      | some [.long] => .ok (.integer .long (Word.ofInt .long n))
      | some kinds => inRange (firstFitting kinds n)
      | none => .error .unknownSuffix

/-- A number made of the characters that were read, or the fault that they have. -/
def numberScan (written : List Char) : Except NumberFault Value → Except ScanFault Scan
  | .ok value => .ok ⟨.number, written, some value, written.length⟩
  | .error fault => .error ⟨.invalidNumber written fault, 0, written.length⟩

/-- Whether a number is written in hexadecimal digits. -/
def isHex : List Char → Bool
  | '0' :: 'x' :: _ | '0' :: 'X' :: _ => true
  | _ => false

/-- Reads a number; the characters of its suffix are those that could go on a name. -/
def number (isSuffix : Char → Bool) (text : List Char) : Except ScanFault Scan :=
  if isHex text then
    let written := text.take 2 ++ (text.drop 2).takeWhile isHexMark
    let suffix := (text.drop written.length).takeWhile isSuffix
    numberScan (written ++ suffix) (hexValueOf (dense (written.drop 2)) suffix)
  else match numeral text with
    | .error written => numberScan written (.error .exponentWithoutDigits)
    | .ok found =>
      let suffix := (text.drop found.written.length).takeWhile isSuffix
      numberScan (found.written ++ suffix) (decimalValue found suffix)

end Literal
end Formula
