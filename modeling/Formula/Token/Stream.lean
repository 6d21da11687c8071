import Formula.Token.Basic

/-! A stream of tokens, read from the front. The end of input is never consumed. Nested type
arguments close with two angle brackets that were read as one shift; such a token can be consumed by
halves. -/
namespace Formula

/-- The tokens that are left, whether the first half of the next one has been consumed, and the span
of what was consumed last. -/
structure Stream where
  rest : List Token
  split : Bool
  previous : Span

namespace Stream

/-- The stream of some tokens, nothing of which has been consumed. -/
def ofTokens (tokens : List Token) : Stream := ⟨tokens, false, Span.nowhere⟩

/-- What stands for the end of input in a stream without tokens. -/
def endToken : Token := .word .endOfInput "" Span.nowhere

/-- The token some places ahead; beyond the last token it is the last. -/
def tokenAt (tokens : List Token) (places : Nat) : Token :=
  match tokens[places]? with
  | some token => token
  | none => tokens.getLast?.getD endToken

/-- The second half of a shift. -/
def secondHalf (token : Token) : Token :=
  .word .greater ">"
    { token.span with offset := token.span.offset + 1, col := token.span.col + 1, length := 1 }

/-- The next token. -/
def peek (stream : Stream) : Token :=
  let token := tokenAt stream.rest 0
  if stream.split then secondHalf token else token

/-- The token some places ahead; the next one is at place zero. -/
def peekAt (stream : Stream) (places : Nat) : Token :=
  if places = 0 then stream.peek else tokenAt stream.rest places

/-- The kind of the next token. -/
def kind (stream : Stream) : TokenKind := stream.peek.kind

/-- The kind of the token some places ahead. -/
def kindAt (stream : Stream) (places : Nat) : TokenKind := (stream.peekAt places).kind

/-- Whether nothing but the end is left. -/
def atEnd (stream : Stream) : Bool := stream.kind == .endOfInput

/-- The tokens after the next one; the last one stays. -/
def tokensAfter : List Token → List Token
  | _ :: next :: rest => next :: rest
  | tokens => tokens

/-- The stream after the next token. -/
def next (stream : Stream) : Stream :=
  ⟨tokensAfter stream.rest, false, stream.peek.span⟩

/-- The stream after a token of a kind, if that is next. -/
def eat? (stream : Stream) (kind : TokenKind) : Option Stream :=
  if stream.kind = kind then some stream.next else none

/-- Consumes the first half of a shift, if that is next. -/
def splitShift? (stream : Stream) : Option Stream :=
  if !stream.split && stream.kind == .greaterGreater then
    some { stream with split := true, previous := { stream.peek.span with length := 1 } }
  else none

/-- The span from the start of one to the end of what was consumed last. -/
def spanFrom (stream : Stream) (start : Span) : Span := start.join stream.previous

end Stream
end Formula
