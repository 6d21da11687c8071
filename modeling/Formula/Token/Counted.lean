import Formula.Token.Lexer

/-! Reading with counters of 32 bits. A counter that would overflow stops the program: then nothing is
answered, neither tokens nor an error. Otherwise places are moved over the same characters as without
a bound, and a span is what lies between two of them. -/
namespace Formula

namespace Position

/-- A counter of 32 bits after adding to it, unless it overflows. -/
def count? (counter more : Nat) : Option Nat :=
  if counter + more < pow2 32 then some (counter + more) else none

/-- The place after one more character. -/
def step? (place : Position) (c : Char) : Option Position := do
  let offset ← count? place.offset c.utf8Size
  if c = '\n' then return ⟨offset, ← count? place.line 1, 1⟩
  else return ⟨offset, place.line, ← count? place.col 1⟩

/-- The place after a text. -/
def after? (place : Position) (text : List Char) : Option Position := text.foldlM step? place

end Position

namespace Cursor

/-- The point a number of characters on. -/
def advance? (cursor : Cursor) (count : Nat) : Option Cursor := do
  return ⟨← cursor.place.after? (cursor.text.take count), cursor.text.drop count⟩

/-- The span from a point up to another. -/
def spanTo (start stop : Cursor) : Span :=
  ⟨start.place.offset, start.place.line, start.place.col, stop.place.offset - start.place.offset⟩

end Cursor

namespace Token

/-- The tokens from a point on, at most `fuel` of them, and the error that ended the reading if one
did. -/
def readFrom? : Nat → Cursor → Option (List Token × Option LexError)
  | 0, _ => some ([], none)
  | fuel + 1, cursor =>
    match gap cursor.text with
    | .error start => do
      let comment ← cursor.advance? start
      let stop ← comment.advance? comment.text.length
      return ([], some ⟨.unterminatedComment, comment.spanTo stop⟩)
    | .ok skipped => do
      let cursor ← cursor.advance? skipped
      match cursor.text with
      | [] => return ([.word .endOfInput "" (cursor.spanTo cursor)], none)
      | c :: rest =>
        match scan c rest with
        | .error fault => do
          let start ← cursor.advance? fault.start
          let stop ← start.advance? fault.length
          return ([], some ⟨fault.fault, start.spanTo stop⟩)
        | .ok found => do
          let next ← cursor.advance? found.length
          let others ← readFrom? fuel next
          let token := ⟨found.kind, String.ofList found.lexeme, cursor.spanTo next, found.number⟩
          return (token :: others.1, others.2)

/-- The tokens of a formula up to its end or the first error. -/
def readAll? (source : String) : Option (List Token × Option LexError) :=
  readFrom? (source.toList.length + 1) (Cursor.ofSource source)

/-- The tokens of a formula, the last of which stands for its end. -/
def tokenize? (source : String) : Option (Except LexError (List Token)) :=
  (readAll? source).map fun
    | (_, some error) => .error error
    | (tokens, none) => .ok tokens

end Token
end Formula
