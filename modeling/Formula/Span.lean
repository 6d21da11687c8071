/-! Where a piece of formula text stands: positions that count bytes, lines and characters, and the
spans that tokens, tree nodes and errors carry. A position only ever moves over text that was read,
so a span is a position together with the text it covers. -/
namespace Formula

/-- A region of a formula: the byte offset of its first character, the line and column of that
character (both counted from one, columns in characters) and the length in bytes. The span of
nothing has every field zero. -/
structure Span where
  offset : Nat
  line : Nat
  col : Nat
  length : Nat
  deriving DecidableEq, Repr

instance : Inhabited Span := ⟨0, 0, 0, 0⟩

namespace Span

/-- The span that no text has; it stands for "before the first token". -/
def nowhere : Span := ⟨0, 0, 0, 0⟩

/-- One past the last byte covered. -/
def stop (span : Span) : Nat := span.offset + span.length

/-- A span that covers no byte. -/
def isEmpty (span : Span) : Bool := span.length == 0

/-- The smallest span that covers both, at the line and column of the one that starts first. -/
def join (a b : Span) : Span :=
  let (first, last) := if b.offset < a.offset then (b, a) else (a, b)
  { offset := first.offset, line := first.line, col := first.col,
    length := max last.stop first.stop - first.offset }

/-- How a span reads in an error message. -/
def text (span : Span) : String := s!"{span.line}:{span.col}"

/-- How a span reads in a token listing. -/
def detail (span : Span) : String := s!"{span.line}:{span.col}+{span.length}"

/-- The text after exactly `count` bytes, if a character starts there. -/
def dropBytes : Nat → List Char → Option (List Char)
  | 0, text => some text
  | _ + 1, [] => none
  | count + 1, c :: rest =>
    if c.utf8Size ≤ count + 1 then dropBytes (count + 1 - c.utf8Size) rest else none
termination_by structural _ text => text

/-- The first `count` bytes of a text, if a character ends there. -/
def takeBytes : Nat → List Char → Option (List Char)
  | 0, _ => some []
  | _ + 1, [] => none
  | count + 1, c :: rest =>
    if c.utf8Size ≤ count + 1 then (takeBytes (count + 1 - c.utf8Size) rest).map (c :: ·) else none
termination_by structural _ text => text

/-- The text that a span covers, if the span lies in the source and cuts no character. -/
def slice? (span : Span) (source : String) : Option String :=
  (dropBytes span.offset source.toList).bind fun rest =>
    (takeBytes span.length rest).map String.ofList

end Span

/-- A place between two characters of a formula. Its numbers have no bound here; `Position.after?`
counts them in 32 bits. -/
structure Position where
  offset : Nat
  line : Nat
  col : Nat
  deriving DecidableEq, Repr

namespace Position

/-- The place before the first character. -/
def start : Position := ⟨0, 1, 1⟩

/-- The place after one more character: a line feed opens a line, any other character a column. -/
def step (place : Position) (c : Char) : Position :=
  if c = '\n' then ⟨place.offset + c.utf8Size, place.line + 1, 1⟩
  else ⟨place.offset + c.utf8Size, place.line, place.col + 1⟩

/-- The place after a text. -/
def after (place : Position) (text : List Char) : Position := text.foldl step place

/-- The number of bytes of a text. -/
def bytes (text : List Char) : Nat := text.foldl (fun total c => total + c.utf8Size) 0

/-- The span of a text that begins here. -/
def spanning (place : Position) (text : List Char) : Span :=
  ⟨place.offset, place.line, place.col, bytes text⟩

end Position
end Formula
