import Formula.Span

/-! What can be wrong with the characters of a formula, and how it reads. -/
namespace Formula

/-- What can be wrong with a number. -/
inductive NumberFault where
  | exponentWithoutDigits
  | integerTooLarge
  | realWithIntegerSuffix
  | unknownSuffix
  | noHexDigits
  | outOfRange
  deriving DecidableEq

/-- How a fault of a number reads. -/
def NumberFault.text : NumberFault → String
  | exponentWithoutDigits => "exponent has no digits"
  | integerTooLarge => "integer literal is too large"
  | realWithIntegerSuffix => "real literal cannot take an integer suffix"
  | unknownSuffix => "unknown suffix"
  | noHexDigits => "expected hex digits"
  | outOfRange => "value out of range"

/-- What can be wrong with the characters of a formula. -/
inductive LexFault where
  | unexpectedChar (c : Char)
  | unterminatedString
  | unterminatedChar
  /-- A character literal that does not hold exactly one character. -/
  | invalidChar
  | unterminatedComment
  | invalidEscape (escape : List Char)
  | invalidNumber (text : List Char) (fault : NumberFault)
  deriving DecidableEq

/-- The name of a fault. -/
def LexFault.name : LexFault → String
  | unexpectedChar _ => "UnexpectedChar"
  | unterminatedString => "UnterminatedString"
  | unterminatedChar => "UnterminatedChar"
  | invalidChar => "InvalidChar"
  | unterminatedComment => "UnterminatedComment"
  | invalidEscape _ => "InvalidEscape"
  | invalidNumber _ _ => "InvalidNumber"

/-- A fault in the characters of a formula, and where it is. -/
structure LexError where
  fault : LexFault
  span : Span
  deriving DecidableEq

/-- How an error reads. -/
def LexError.message (error : LexError) : String :=
  let place := error.span.text
  match error.fault with
  | .unexpectedChar c => s!"unexpected character '{c}' at {place}"
  | .unterminatedString => s!"unterminated string literal at {place}"
  | .unterminatedChar => s!"unterminated character literal at {place}"
  | .invalidChar => s!"character literal must contain exactly one character at {place}"
  | .unterminatedComment => s!"unterminated comment at {place}"
  | .invalidEscape escape =>
    let escape := String.ofList escape
    s!"invalid escape sequence '\\{escape}' at {place}"
  | .invalidNumber text fault =>
    let text := String.ofList text
    s!"invalid number '{text}' at {place}: {fault.text}"

end Formula
