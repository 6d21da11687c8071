import Formula.Token.Literal
import Formula.Unicode.Blank
import Formula.Unicode.Letter
import Formula.Unicode.Number

/-! From the characters of a formula to its tokens. What stands between tokens is blanks and
comments; of the symbols, the longest that fits is taken. -/
namespace Formula

/-- A point of reading: a place, and the text from there on. -/
structure Cursor where
  place : Position
  text : List Char

namespace Cursor

/-- The point before the first character. -/
def ofSource (source : String) : Cursor := ⟨Position.start, source.toList⟩

/-- The point a number of characters on. -/
def advance (cursor : Cursor) (count : Nat) : Cursor :=
  ⟨cursor.place.after (cursor.text.take count), cursor.text.drop count⟩

/-- The span of a number of characters from here. -/
def span (cursor : Cursor) (count : Nat) : Span := cursor.place.spanning (cursor.text.take count)

end Cursor

namespace Token

/-- What the next character between tokens belongs to. -/
inductive Gap where
  | blanks
  /-- A comment to the end of the line. -/
  | line
  /-- A comment that began after `start` characters. -/
  | block (start : Nat)

/-- The number of characters up to the next token, of which `read` have been read. A comment that is
not closed fails with the number of characters before it. -/
def gapFrom : Gap → Nat → List Char → Except Nat Nat
  | .blanks, read, [] => .ok read
  | .blanks, read, '/' :: '/' :: rest => gapFrom .line (read + 2) rest
  | .blanks, read, '/' :: '*' :: rest => gapFrom (.block read) (read + 2) rest
  | .blanks, read, c :: rest =>
    if Unicode.isBlank c then gapFrom .blanks (read + 1) rest else .ok read
  | .line, read, [] => .ok read
  | .line, read, c :: rest => gapFrom (if c = '\n' then .blanks else .line) (read + 1) rest
  | .block start, _, [] => .error start
  | .block _, read, '*' :: '/' :: rest => gapFrom .blanks (read + 2) rest
  | .block start, read, _ :: rest => gapFrom (.block start) (read + 1) rest

/-- The number of characters up to the next token. -/
def gap (text : List Char) : Except Nat Nat := gapFrom .blanks 0 text

/-- Whether a name may start with a character. -/
def startsName (c : Char) : Bool := Unicode.isLetter c || c == '_' || c == '$'

/-- Whether a name may go on with a character. -/
def continuesName (c : Char) : Bool :=
  Unicode.isLetter c || Unicode.isNumeric c || c == '_' || c == '$'

/-- Reads a name or keyword. -/
def scanName (text : List Char) : Scan :=
  let lexeme := text.takeWhile continuesName
  let kind := (TokenKind.ofKeyword? (String.ofList lexeme)).getD .identifier
  ⟨kind, lexeme, none, lexeme.length⟩

/-- Reads what an `@` introduces: a verbatim text, or a name that may also be a keyword. -/
def scanVerbatim : List Char → Except ScanFault Scan
  | [] => .error ⟨.unexpectedChar '@', 0, 1⟩
  | c :: rest =>
    if startsName c then
      let lexeme := (c :: rest).takeWhile continuesName
      .ok ⟨.identifier, lexeme, none, 1 + lexeme.length⟩
    else if c = '"' then
      (Literal.verbatim 2 rest).map fun inside => ⟨.string, inside.1, none, inside.2⟩
    else .error ⟨.unexpectedChar '@', 0, 1⟩

/-- Reads the longest symbol at the start of a text. -/
def scanSymbol (c : Char) (rest : List Char) : Except ScanFault Scan :=
  match TokenKind.symbols.find? fun kind => kind.text.toList.isPrefixOf (c :: rest) with
  | some kind => .ok ⟨kind, kind.text.toList, none, kind.text.toList.length⟩
  | none => .error ⟨.unexpectedChar c, 0, 1⟩

/-- Whether a number starts here: at a digit, or at a point before one. -/
def startsNumber (c : Char) (rest : List Char) : Bool :=
  c.isDigit || (c == '.' && match rest with
    | next :: _ => next.isDigit
    | [] => false)

/-- Reads the token at the start of a text. -/
def scan (c : Char) (rest : List Char) : Except ScanFault Scan :=
  if c = '"' then Literal.text rest
  else if c = '\'' then Literal.character rest
  else if c = '@' then scanVerbatim rest
  else if startsNumber c rest then Literal.number continuesName (c :: rest)
  else if startsName c then .ok (scanName (c :: rest))
  else scanSymbol c rest

/-- The token at a point, of which something was read. -/
def ofScan (cursor : Cursor) (found : Scan) : Token :=
  ⟨found.kind, String.ofList found.lexeme, cursor.span found.length, found.number⟩

/-- The tokens from a point on, at most `fuel` of them, and the error that ended the reading if one
did. -/
def readFrom : Nat → Cursor → List Token × Option LexError
  | 0, _ => ([], none)
  | fuel + 1, cursor =>
    match gap cursor.text with
    | .error start =>
      let comment := cursor.advance start
      ([], some ⟨.unterminatedComment, comment.span comment.text.length⟩)
    | .ok skipped =>
      let cursor := cursor.advance skipped
      match cursor.text with
      | [] => ([.word .endOfInput "" (cursor.span 0)], none)
      | c :: rest =>
        match scan c rest with
        | .error fault =>
          ([], some ⟨fault.fault, (cursor.advance fault.start).span fault.length⟩)
        | .ok found =>
          let others := readFrom fuel (cursor.advance found.length)
          (ofScan cursor found :: others.1, others.2)

/-- The tokens of a formula up to its end or the first error. A token takes at least one character,
so one step more than there are characters is enough. -/
def readAll (source : String) : List Token × Option LexError :=
  readFrom (source.toList.length + 1) (Cursor.ofSource source)

/-- The tokens of a formula, the last of which stands for its end. -/
def tokenize (source : String) : Except LexError (List Token) :=
  match readAll source with
  | (_, some error) => .error error
  | (tokens, none) => .ok tokens

end Token
end Formula
