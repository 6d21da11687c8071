import Formula.Span
import Formula.Text.Quoted
import Formula.Value.Basic

/-! Tokens: the words of a formula. A token knows its kind, its lexeme and where it stands; the
lexeme of a text or character literal is what the literal denotes, and a number carries its value.
Operators that formulas do not have are tokens too, so that they can be named in errors. -/
namespace Formula

/-- The kinds of token. -/
inductive TokenKind where
  -- literals and names
  | number | string | char | identifier
  -- keywords
  | trueWord | falseWord | null | new | typeOf | sizeOf | is | as
  -- punctuation
  | leftParen | rightParen | leftBracket | rightBracket | leftBrace | rightBrace | comma | dot
  | colon | semicolon | fatArrow | arrow
  -- operators
  | plus | minus | star | slash | percent | amp | pipe | caret | tilde | bang | ampAmp | pipePipe
  | less | greater | lessEqual | greaterEqual | lessLess | greaterGreater | equalEqual | bangEqual
  | question | questionQuestion | plusPlus | minusMinus
  -- assignments
  | equal | plusEqual | minusEqual | starEqual | slashEqual | percentEqual | ampEqual | pipeEqual
  | caretEqual | lessLessEqual | greaterGreaterEqual | questionQuestionEqual
  | endOfInput
  deriving DecidableEq, Repr

namespace TokenKind

/-- Every kind, once. -/
def all : List TokenKind := [
  .number, .string, .char, .identifier, .trueWord, .falseWord, .null, .new, .typeOf, .sizeOf, .is,
  .as, .leftParen, .rightParen, .leftBracket, .rightBracket, .leftBrace, .rightBrace, .comma,
  .dot, .colon, .semicolon, .fatArrow, .arrow, .plus, .minus, .star, .slash, .percent, .amp,
  .pipe, .caret, .tilde, .bang, .ampAmp, .pipePipe, .less, .greater, .lessEqual, .greaterEqual,
  .lessLess, .greaterGreater, .equalEqual, .bangEqual, .question, .questionQuestion, .plusPlus,
  .minusMinus, .equal, .plusEqual, .minusEqual, .starEqual, .slashEqual, .percentEqual, .ampEqual,
  .pipeEqual, .caretEqual, .lessLessEqual, .greaterGreaterEqual, .questionQuestionEqual,
  .endOfInput]

/-- The name of a kind in a listing. -/
def name : TokenKind → String
  | number => "Number"
  | string => "String"
  | char => "Char"
  | identifier => "Identifier"
  | trueWord => "True"
  | falseWord => "False"
  | null => "Null"
  | new => "New"
  | typeOf => "TypeOf"
  | sizeOf => "SizeOf"
  | is => "Is"
  | as => "As"
  | leftParen => "LeftParen"
  | rightParen => "RightParen"
  | leftBracket => "LeftBracket"
  | rightBracket => "RightBracket"
  | leftBrace => "LeftBrace"
  | rightBrace => "RightBrace"
  | comma => "Comma"
  | dot => "Dot"
  | colon => "Colon"
  | semicolon => "Semicolon"
  | fatArrow => "FatArrow"
  | arrow => "Arrow"
  | plus => "Plus"
  | minus => "Minus"
  | star => "Star"
  | slash => "Slash"
  | percent => "Percent"
  | amp => "Amp"
  | pipe => "Pipe"
  | caret => "Caret"
  | tilde => "Tilde"
  | bang => "Bang"
  | ampAmp => "AmpAmp"
  | pipePipe => "PipePipe"
  | less => "Less"
  | greater => "Greater"
  | lessEqual => "LessEqual"
  | greaterEqual => "GreaterEqual"
  | lessLess => "LessLess"
  | greaterGreater => "GreaterGreater"
  | equalEqual => "EqualEqual"
  | bangEqual => "BangEqual"
  | question => "Question"
  | questionQuestion => "QuestionQuestion"
  | plusPlus => "PlusPlus"
  | minusMinus => "MinusMinus"
  | equal => "Equal"
  | plusEqual => "PlusEqual"
  | minusEqual => "MinusEqual"
  | starEqual => "StarEqual"
  | slashEqual => "SlashEqual"
  | percentEqual => "PercentEqual"
  | ampEqual => "AmpEqual"
  | pipeEqual => "PipeEqual"
  | caretEqual => "CaretEqual"
  | lessLessEqual => "LessLessEqual"
  | greaterGreaterEqual => "GreaterGreaterEqual"
  | questionQuestionEqual => "QuestionQuestionEqual"
  | endOfInput => "Eof"

/-- How a kind is spelled; kinds with many spellings go by a description. -/
def text : TokenKind → String
  | number => "number"
  | string => "string literal"
  | char => "character literal"
  | identifier => "identifier"
  | trueWord => "true"
  | falseWord => "false"
  | null => "null"
  | new => "new"
  | typeOf => "typeof"
  | sizeOf => "sizeof"
  | is => "is"
  | as => "as"
  | leftParen => "("
  | rightParen => ")"
  | leftBracket => "["
  | rightBracket => "]"
  | leftBrace => "\x7b"
  | rightBrace => "\x7d"
  | comma => ","
  | dot => "."
  | colon => ":"
  | semicolon => ";"
  | fatArrow => "=>"
  | arrow => "->"
  | plus => "+"
  | minus => "-"
  | star => "*"
  | slash => "/"
  | percent => "%"
  | amp => "&"
  | pipe => "|"
  | caret => "^"
  | tilde => "~"
  | bang => "!"
  | ampAmp => "&&"
  | pipePipe => "||"
  | less => "<"
  | greater => ">"
  | lessEqual => "<="
  | greaterEqual => ">="
  | lessLess => "<<"
  | greaterGreater => ">>"
  | equalEqual => "=="
  | bangEqual => "!="
  | question => "?"
  | questionQuestion => "??"
  | plusPlus => "++"
  | minusMinus => "--"
  | equal => "="
  | plusEqual => "+="
  | minusEqual => "-="
  | starEqual => "*="
  | slashEqual => "/="
  | percentEqual => "%="
  | ampEqual => "&="
  | pipeEqual => "|="
  | caretEqual => "^="
  | lessLessEqual => "<<="
  | greaterGreaterEqual => ">>="
  | questionQuestionEqual => "??="
  | endOfInput => "end of input"

/-- The keywords. The names of primitive types are not among them. -/
def keywords : List TokenKind := [trueWord, falseWord, null, new, typeOf, sizeOf, is, as]

/-- The keyword with a spelling. -/
def ofKeyword? (word : String) : Option TokenKind := keywords.find? fun kind => kind.text == word

/-- Punctuation and operators, the longer spellings first. -/
def symbols : List TokenKind := [
  .lessLessEqual, .greaterGreaterEqual, .questionQuestionEqual, .fatArrow, .arrow, .ampAmp,
  .pipePipe, .lessEqual, .greaterEqual, .lessLess, .greaterGreater, .equalEqual, .bangEqual,
  .questionQuestion, .plusPlus, .minusMinus, .plusEqual, .minusEqual, .starEqual, .slashEqual,
  .percentEqual, .ampEqual, .pipeEqual, .caretEqual, .leftParen, .rightParen, .leftBracket,
  .rightBracket, .leftBrace, .rightBrace, .comma, .dot, .colon, .semicolon, .plus, .minus, .star,
  .slash, .percent, .amp, .pipe, .caret, .tilde, .bang, .less, .greater, .question, .equal]

/-- Whether a kind assigns. -/
def isAssignment : TokenKind → Bool
  | equal | plusEqual | minusEqual | starEqual | slashEqual | percentEqual | ampEqual | pipeEqual
  | caretEqual | lessLessEqual | greaterGreaterEqual | questionQuestionEqual => true
  | _ => false

/-- Whether a kind closes a bracket. -/
def isClosing : TokenKind → Bool
  | rightParen | rightBracket | rightBrace => true
  | _ => false

end TokenKind

/-- A token. -/
structure Token where
  kind : TokenKind
  lexeme : String
  span : Span
  /-- What a number denotes. -/
  number : Option Value

namespace Token

/-- A token that is not a number. -/
def word (kind : TokenKind) (lexeme : String) (span : Span) : Token := ⟨kind, lexeme, span, none⟩

/-- How a token reads in an error. -/
def description (token : Token) : String :=
  match token.kind with
  | .endOfInput => TokenKind.endOfInput.text
  | .string => "\"" ++ token.lexeme ++ "\""
  | .char => "'" ++ token.lexeme ++ "'"
  | _ => token.lexeme

/-- How a token reads in a listing. -/
def listing (token : Token) : String :=
  token.kind.name ++ "(" ++ Text.quoted token.lexeme ++ " @ " ++ token.span.detail ++ ")"

end Token
end Formula
