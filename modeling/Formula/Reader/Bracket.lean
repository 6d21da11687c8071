import Formula.Reader.Basic

/-! Brackets around expressions. Which bracket is open decides what a closing bracket, a comma or the
end of input means after an operand. -/
namespace Formula

/-- A bracket. -/
inductive Bracket where
  | paren | square | brace
  deriving DecidableEq

/-- The token that opens a bracket. -/
def Bracket.opener : Bracket → TokenKind
  | paren => .leftParen
  | square => .leftBracket
  | brace => .leftBrace

/-- The token that closes a bracket. -/
def Bracket.closer : Bracket → TokenKind
  | paren => .rightParen
  | square => .rightBracket
  | brace => .rightBrace

namespace Reader

/-- Whether an expression inside the innermost open bracket ends before a token. -/
def endsBefore (token : Token) (inside : Option Bracket) : Except CompileError Bool :=
  if token.kind = .endOfInput then
    match inside with
    | none => .ok true
    | some bracket => .error ⟨.bracket (.unclosed bracket.closer.text), token.span⟩
  else if token.kind.isClosing then
    match inside with
    | none => .error ⟨.bracket (.unopened token.kind.text), token.span⟩
    | some bracket =>
      if token.kind = bracket.closer then .ok true
      else .error ⟨.bracket (.wrongCloser token.kind.text bracket.closer.text), token.span⟩
  else match token.kind with
    | .comma => if inside.isNone then .error ⟨.grammar .strayComma, token.span⟩ else .ok true
    | .colon | .semicolon => .ok true
    | _ => .ok false

/-- Why no expression starts with a token. -/
def noExpression (token : Token) (inside : Option Bracket) : CompileError :=
  let fault : CompileFault :=
    if token.kind = .endOfInput then
      match inside with
      | some bracket => .bracket (.unclosed bracket.closer.text)
      | none => .grammar .expressionMissing
    else if token.kind.isClosing then
      if inside.any fun bracket => token.kind == bracket.closer then
        .grammar (.expressionMissingBefore token.kind.text)
      else .bracket (.unopened token.kind.text)
    else .unsupported token.description
  ⟨fault, token.span⟩

end Reader
end Formula
