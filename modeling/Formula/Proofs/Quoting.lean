import Formula.Proofs.Printing
import Formula.Proofs.Safety
import Mathlib.Data.List.TakeWhile
import Mathlib.Data.Nat.Digits.Defs

/-! Texts and characters as literals. Between quotes, a character is written as itself or as an
escape: a letter, or the hexadecimal digits of its code. In a verbatim text only the quote is written
in a way of its own, twice. However a text is written, the function that its literal compiles to
returns that text. -/
namespace Formula

namespace Literal

/-- The letters behind a backslash that stand for a character. -/
def letters : List (Char × Char) :=
  [('\'', '\''), ('"', '"'), ('\\', '\\'), ('0', '\x00'), ('a', '\x07'), ('b', '\x08'),
    ('f', '\x0c'), ('n', '\n'), ('r', '\r'), ('t', '\t'), ('v', '\x0b')]

/-- A hexadecimal digit, of either case, and its value. -/
def IsDigit (digit : Char) (value : Nat) : Prop :=
  "0123456789abcdef".toList[value]? = some digit ∨ "0123456789ABCDEF".toList[value]? = some digit

/-- Hexadecimal digits denote a number. -/
def Denote (digits : List Char) (number : Nat) : Prop :=
  ∃ values, List.Forall₂ IsDigit digits values ∧ Nat.ofDigits 16 values.reverse = number

/-- A character may be written so between quotes. -/
inductive Written (quote : Char) : Char → List Char → Prop
  | itself (noQuote : c ≠ quote) (noBackslash : c ≠ '\\') (noFeed : c ≠ '\n') (noReturn : c ≠ '\r') :
      Written quote c [c]
  | letter (listed : (letter, c) ∈ letters) : Written quote c ['\\', letter]
  | short (denote : Denote digits c.toNat) (four : digits.length = 4) :
      Written quote c ('\\' :: 'u' :: digits)
  | long (denote : Denote digits c.toNat) (eight : digits.length = 8) :
      Written quote c ('\\' :: 'U' :: digits)

/-- How the inside of a verbatim text is written. -/
def doubled (text : List Char) : List Char :=
  text.flatMap fun c => if c = '"' then ['"', '"'] else [c]

variable {quote c : Char} {unclosed : LexFault} {rest : List Char}

theorem IsDigit.hex {digit : Char} {value : Nat} (isDigit : IsDigit digit value) :
    isHexDigit digit ∧ hexValue digit = value := by
  have read : ∀ row : List Char,
      (∀ entry ∈ row.zipIdx, isHexDigit entry.1 ∧ hexValue entry.1 = entry.2) →
        row[value]? = some digit → isHexDigit digit ∧ hexValue digit = value := by
    intro row all stands
    exact all (digit, value) (List.mem_zipIdx_iff_getElem?.mpr stands)
  rcases isDigit with lower | upper
  · exact read _ (by decide) lower
  · exact read _ (by decide) upper

theorem hexNumber_of_digits {digits : List Char} {values : List Nat}
    (spelled : List.Forall₂ IsDigit digits values) :
    hexNumber digits = Nat.ofDigits 16 values.reverse := by
  have fold : ∀ total, digits.foldl (fun n d => n * 16 + hexValue d) total
      = values.foldl (fun n value => value + 16 * n) total := by
    induction spelled with
    | nil => exact fun total => rfl
    | cons isDigit _ ih =>
      intro total
      rw [List.foldl_cons, List.foldl_cons, isDigit.hex.2, ih]
      congr 1
      omega
  rw [hexNumber, fold, Nat.ofDigits_eq_foldr, List.foldr_reverse]
  rfl

/-- Digits in front of anything are the digits of an escape, if there are as many as it takes. -/
theorem Denote.taken {digits : List Char} {number : Nat} (denote : Denote digits number)
    (rest : List Char) :
    ((digits ++ rest).take digits.length).takeWhile isHexDigit = digits ∧
      hexNumber digits = number := by
  obtain ⟨values, spelled, total⟩ := denote
  constructor
  · rw [List.take_left, List.takeWhile_eq_self_iff]
    clear total
    induction spelled with
    | nil => exact List.forall_mem_nil _
    | cons isDigit _ ih => exact List.forall_mem_cons.mpr ⟨isDigit.hex.1, ih⟩
  · rw [hexNumber_of_digits spelled, total]

/-- A numeric escape of a fixed width denotes the character that has its number. -/
theorem escape_digits {letter : Char} {digits : List Char} {width : Nat}
    (noLetter : letterEscape? letter = none) (fixed : escapeWidth? letter = some (width, width))
    (denote : Denote digits c.toNat) (enough : digits.length = width) (rest : List Char) :
    escape (letter :: (digits ++ rest)) = .ok (c, 1 + digits.length) := by
  obtain ⟨taken, number⟩ := denote.taken rest
  subst enough
  have fits : digits.length ≤ digits.length ∧ c.toNat.isValidChar := ⟨Nat.le_refl _, c.valid⟩
  simp only [escape, noLetter, fixed, taken, number]
  rw [if_pos fits, Char.ofNat_toNat]

theorem body_skipped (skipped rest : List Char) (read : Nat) :
    body quote unclosed read skipped.length (skipped ++ rest)
      = body quote unclosed (read + skipped.length) 0 rest := by
  induction skipped generalizing read with
  | nil => rfl
  | cons d skipped ih =>
    rw [List.length_cons, List.cons_append, body, ih]
    congr 1
    omega

theorem body_escape {piece : List Char} (noQuote : quote ≠ '\\')
    (denotes : escape (piece ++ rest) = .ok (c, piece.length)) (read : Nat) :
    body quote unclosed read 0 ('\\' :: (piece ++ rest))
      = (body quote unclosed (read + (piece.length + 1)) 0 rest).map fun inside =>
          (c :: inside.1, inside.2) := by
  have count : read + 1 + piece.length = read + (piece.length + 1) := by omega
  rw [body, if_neg (Ne.symm noQuote), if_neg (by decide), if_pos rfl, denotes]
  simp only
  rw [body_skipped, count]

/-- What a character is written as is read as that character. -/
theorem Written.body {piece : List Char} (written : Written quote c piece) (noQuote : quote ≠ '\\')
    (rest : List Char) (read : Nat) :
    Literal.body quote unclosed read 0 (piece ++ rest)
      = (Literal.body quote unclosed (read + piece.length) 0 rest).map fun inside =>
          (c :: inside.1, inside.2) := by
  cases written with
  | itself noQuote noBackslash noFeed noReturn =>
    have noBreak : ¬ (c = '\n' ∨ c = '\r') := by
      rintro (feed | ret)
      · exact noFeed feed
      · exact noReturn ret
    rw [List.singleton_append, Literal.body, if_neg noQuote, if_neg noBreak, if_neg noBackslash]
    rfl
  | @letter letter _ listed =>
    have known : ∀ entry ∈ letters, letterEscape? entry.1 = some entry.2 := by decide
    have stands := known _ listed
    exact @body_escape _ _ _ _ [letter] noQuote (by simp [escape, stands]) read
  | @short digits _ denote four =>
    refine @body_escape _ _ _ _ ('u' :: digits) noQuote ?_ read
    rw [List.cons_append, escape_digits rfl rfl denote four, List.length_cons, Nat.add_comm]
  | @long digits _ denote eight =>
    refine @body_escape _ _ _ _ ('U' :: digits) noQuote ?_ read
    rw [List.cons_append, escape_digits rfl rfl denote eight, List.length_cons, Nat.add_comm]

/-- What a text is written as, up to the closing quote, is read as that text. -/
theorem body_written {text : List Char} {pieces : List (List Char)}
    (written : List.Forall₂ (Written quote) text pieces) (noQuote : quote ≠ '\\') (read : Nat) :
    body quote unclosed read 0 (pieces.flatten ++ quote :: rest)
      = .ok (text, read + pieces.flatten.length + 1) := by
  induction written generalizing read with
  | nil =>
    rw [List.flatten_nil, List.nil_append, body, if_pos rfl]
    rfl
  | @cons c piece text pieces first _ ih =>
    have count : read + piece.length + pieces.flatten.length + 1
        = read + (piece :: pieces).flatten.length + 1 := by
      rw [List.flatten_cons, List.length_append]
      omega
    rw [List.flatten_cons, List.append_assoc, first.body noQuote, ih, ← List.flatten_cons, count]
    rfl

theorem verbatim_doubled (text : List Char) (read : Nat) :
    verbatim read (doubled text ++ ['"']) = .ok (text, read + (doubled text).length + 1) := by
  induction text generalizing read with
  | nil => rfl
  | cons c text ih =>
    by_cases quoted : c = '"'
    · have spelled : doubled (c :: text) = '"' :: '"' :: doubled text := by
        simp [doubled, quoted]
      rw [spelled, List.cons_append, List.cons_append, verbatim, ih, quoted]
      simp [Except.map]
      omega
    · have spelled : doubled (c :: text) = c :: doubled text := by
        simp [doubled, quoted]
      rw [spelled, List.cons_append, verbatim, if_neg quoted, ih]
      · simp [Except.map]
        omega
      · intro rest same
        exact absurd same quoted

end Literal

namespace Literal

variable {text : List Char} {pieces : List (List Char)}

theorem text_written (written : List.Forall₂ (Written '"') text pieces) :
    Token.scan '"' (pieces.flatten ++ ['"'])
      = .ok ⟨.string, text, none, 1 + pieces.flatten.length + 1⟩ := by
  rw [Token.scan, if_pos rfl, Literal.text, body_written written (by decide)]
  rfl

theorem verbatim_written (text : List Char) :
    Token.scan '@' ('"' :: doubled text ++ ['"'])
      = .ok ⟨.string, text, none, 2 + (doubled text).length + 1⟩ := by
  have noName : Token.startsName '"' = false := by decide
  rw [Token.scan, if_neg (by decide), if_neg (by decide), if_pos rfl, List.cons_append,
    Token.scanVerbatim, noName, if_neg (by decide), if_pos rfl, verbatim_doubled]
  rfl

theorem character_written {piece : List Char} (written : Written '\'' c piece) :
    Token.scan '\'' (piece ++ ['\'']) = .ok ⟨.char, [c], none, 1 + piece.length + 1⟩ := by
  have inside := @body_written '\'' .unterminatedChar [] [c] [piece] (.cons written .nil) (by decide) 1
  rw [List.flatten_singleton] at inside
  rw [Token.scan, if_neg (by decide), if_pos rfl, character, inside]
  rfl

end Literal

namespace Function

/-- A source without parameters compiles, whatever is registered, and the function returns a value
and changes nothing. -/
def Returns (source : String) (value : Value) : Prop :=
  ∀ world namespaces declared, declared.getD [] = [] →
    ∃ function, compile world ⟨declared, none⟩ ⟨namespaces, none, false⟩ source = .ok function ∧
      ∀ store, function.invoke [] store = (.ok value, store)

/-- A literal that begins with a quote or an `@` and takes the whole source is all that is read. -/
theorem lexed_whole {c : Char} {rest : List Char} {found : Scan} (opens : c ∈ ['"', '\'', '@'])
    (scans : Token.scan c rest = .ok found) (whole : found.length = rest.length + 1) :
    Token.Lexed (c :: rest) [found] := by
  have ⟨visible, noSlash⟩ : Unicode.isBlank c = false ∧ c ≠ '/' := by
    simp only [List.mem_cons, List.not_mem_nil, or_false] at opens
    rcases opens with rfl | rfl | rfl <;> decide
  refine .token 0 (fun read => Lexeme.gap_of_visible visible noSlash read rest) scans (by omega) ?_
  rw [whole, List.drop_of_length_le (Nat.le_of_eq (List.length_cons ..))]
  exact .nil 0

/-- A source that is one literal returns what its token stands for. -/
theorem returns_literal {c : Char} {rest : List Char} {found : Scan} {value : Value} {ty : Ty}
    (opens : c ∈ ['"', '\'', '@']) (scans : Token.scan c rest = .ok found)
    (whole : found.length = rest.length + 1)
    (kind : found.kind = .string ∧ ty = .string ∨ found.kind = .char ∧ ty = .char)
    (constant : ∀ token, found.Matches token → Reader.constant? token = some (value, ty)) :
    Returns (String.ofList (c :: rest)) value := by
  intro world namespaces declared noParams
  have lexed : Token.Lexed (String.ofList (c :: rest)).toList [found] := by
    rw [String.toList_ofList]
    exact lexed_whole opens scans whole
  obtain ⟨tokens, ending, read, matched, isEnd⟩ := Token.tokenize_lexed lexed
  obtain ⟨token, others, first, more, rfl⟩ := List.forall₂_cons_left_iff.mp matched
  obtain rfl := List.forall₂_nil_left_iff.mp more
  have plain : token.kind ≠ .identifier ∧ token.kind ≠ .leftParen ∧ token.kind ≠ .endOfInput ∧
      ty.isVoid = false := by
    rw [first.1]
    obtain ⟨isText, rfl⟩ | ⟨isChar, rfl⟩ := kind
    · rw [isText]
      decide
    · rw [isChar]
      decide
  obtain ⟨noName, noParen, noEnd, noVoid⟩ := plain
  have closed : (Stream.ofTokens [token, ending]).Closed :=
    ⟨.cons noEnd (.last isEnd), by simp [Stream.ofTokens]⟩
  have inForce : Reader.bindDeclared (.ofInstance none) declared = ⟨[], false⟩ := by
    rw [Reader.bindDeclared, noParams]
    rfl
  have parsed : Lambda.parse world namespaces declared none (String.ofList (c :: rest))
      = .ok ⟨⟨[], false⟩, .literal ⟨ty, token.span⟩ value⟩ := by
    rw [← inForce]
    exact Lambda.parse_operand (by rw [tokensOf, read]; rfl) closed noName noParen
      (.literal (constant token first)) isEnd
  refine ⟨⟨String.ofList (c :: rest), ⟨[], false⟩, .literal ⟨ty, token.span⟩ value, ty⟩, ?_, ?_⟩
  · refine except_then.mpr ⟨_, except_then.mpr ⟨(none, declared), rfl, ?_⟩, rfl⟩
    exact except_then.mpr ⟨_, parsed, except_then.mpr ⟨_, rfl, rfl⟩⟩
  · intro store
    rw [invoke_run rfl rfl]
    simp only [Function.result, noVoid]
    rfl

/-- The text that is written in a literal is what the compiled literal returns: written between
quotes in whatever way each of its characters may be, or behind an `@` with its quotes doubled. So is
the character that is written between single quotes. -/
theorem returns_quoted :
    (∀ (text : String) (pieces : List (List Char)),
      List.Forall₂ (Literal.Written '"') text.toList pieces →
        Returns (String.ofList ('"' :: (pieces.flatten ++ ['"']))) (.string text)) ∧
    (∀ text : String,
      Returns (String.ofList ('@' :: '"' :: Literal.doubled text.toList ++ ['"'])) (.string text)) ∧
    ∀ (c : Char) (piece : List Char), Literal.Written '\'' c piece →
      Returns (String.ofList ('\'' :: (piece ++ ['\'']))) (.char c) := by
  refine ⟨?text, ?verbatim, ?character⟩
  case text =>
    intro text pieces written
    apply returns_literal (by simp) (Literal.text_written written) (by simp; omega) (.inl ⟨rfl, rfl⟩)
    rintro token ⟨kind, lexeme, -⟩
    simp [Reader.constant?, kind, lexeme]
  case verbatim =>
    intro text
    apply returns_literal (by simp) (Literal.verbatim_written text.toList) (by simp; omega)
      (.inl ⟨rfl, rfl⟩)
    rintro token ⟨kind, lexeme, -⟩
    simp [Reader.constant?, kind, lexeme]
  case character =>
    intro c piece written
    apply returns_literal (by simp) (Literal.character_written written) (by simp; omega)
      (.inr ⟨rfl, rfl⟩)
    rintro token ⟨kind, lexeme, -⟩
    simp [Reader.constant?, kind, lexeme]

/-- A letter, a quote, an accented letter and a symbol beyond the first 65536 characters, each written
in another way; and a single quote between single quotes. -/
theorem returns_quoted_mixed :
    let pieces := [['a'], ['\\', '"'], '\\' :: 'u' :: "00E9".toList, '\\' :: 'U' :: "0001f600".toList]
    (List.Forall₂ (Literal.Written '"') "a\"é😀".toList pieces ∧
      Returns "\"a\\\"\\u00E9\\U0001f600\"" (.string "a\"é😀")) ∧
    Literal.Written '\'' '\'' ['\\', '\''] ∧ Returns "'\\''" (.char '\'') := by
  intro pieces
  have accented : Literal.Denote "00E9".toList 'é'.toNat := by
    refine ⟨[0, 0, 14, 9], ?_, by simp [Nat.ofDigits_cons]⟩
    exact .cons (.inl rfl) (.cons (.inl rfl) (.cons (.inr rfl) (.cons (.inl rfl) .nil)))
  have smiling : Literal.Denote "0001f600".toList '😀'.toNat := by
    refine ⟨[0, 0, 0, 1, 15, 6, 0, 0], ?_, by simp [Nat.ofDigits_cons]⟩
    exact .cons (.inl rfl) (.cons (.inl rfl) (.cons (.inl rfl) (.cons (.inl rfl) (.cons (.inl rfl)
      (.cons (.inl rfl) (.cons (.inl rfl) (.cons (.inl rfl) .nil)))))))
  have spelled : "a\"é😀".toList = ['a', '"', 'é', '😀'] := by decide
  have written : List.Forall₂ (Literal.Written '"') "a\"é😀".toList pieces := by
    rw [spelled]
    exact .cons (.itself (by decide) (by decide) (by decide) (by decide)) (.cons (.letter (by decide))
      (.cons (.short accented rfl) (.cons (.long smiling rfl) .nil)))
  have quote : Literal.Written '\'' '\'' ['\\', '\''] := .letter (by decide)
  have quoted : "'\\''" = String.ofList ('\'' :: (['\\', '\''] ++ ['\''])) := by decide
  have source : "\"a\\\"\\u00E9\\U0001f600\"" = String.ofList ('"' :: (pieces.flatten ++ ['"'])) := by
    decide
  rw [source, quoted]
  exact ⟨⟨written, returns_quoted.1 _ _ written⟩, quote, returns_quoted.2.2 _ _ quote⟩

end Function
end Formula
