import Formula.Proofs.ReaderPlaces
import Mathlib.Data.List.TakeWhile

/-! How an error is shown. The line of a place is the one with as many line feeds before it as stand
before the place, so it begins with what is behind the last of them. Under the line there is a mark
for the place: it is indented by the characters before the place, and it is as wide as the place has
bytes. That is what the place takes on the line where it has characters of one byte only and ends on
that line; everywhere else the mark goes on beyond the place. -/
namespace Formula

namespace CompileError

section Lines

variable {before head rest line : List Char}

/-- The characters of a text that stand on its last line. -/
def lastLine (before : List Char) : List Char := (before.reverse.takeWhile (· != '\n')).reverse

/-- A line that begins with `head`, as it is shown: without what ends it. -/
def lineBehind (head rest : List Char) : List Char :=
  if '\n' ∈ rest then withoutReturn (head ++ rest.takeWhile (· != '\n')) else head ++ rest

/-- The line that begins with `head`, if something stands on it. -/
def lineBehind? : List Char → List Char → Option (List Char)
  | [], [] => none
  | head, rest => some (lineBehind head rest)

theorem lineBehind?_none_iff : lineBehind? head rest = none ↔ head = [] ∧ rest = [] := by
  cases head <;> cases rest <;> simp [lineBehind?]

theorem lineBehind?_some (something : ¬ (head = [] ∧ rest = [])) :
    lineBehind? head rest = some (lineBehind head rest) := by
  unfold lineBehind?
  split
  case h_1 => exact absurd ⟨rfl, rfl⟩ something
  case h_2 => rfl

theorem lastLine_feed : lastLine (line ++ '\n' :: before) = lastLine before := by
  have feed : ('\n' :: line.reverse).takeWhile (· != '\n') = [] := rfl
  rw [lastLine, List.reverse_append, List.reverse_cons, List.append_assoc, List.singleton_append,
    List.takeWhile_append]
  split
  case isTrue whole =>
    rw [feed, List.append_nil, lastLine, (List.takeWhile_prefix _).eq_of_length whole]
  case isFalse => rfl

/-- Where no line ends, all stands on the last line. -/
theorem lastLine_of_noFeed (noFeed : '\n' ∉ line) : lastLine line = line := by
  have all : line.reverse.takeWhile (· != '\n') = line.reverse := by
    rw [List.takeWhile_eq_self_iff]
    intro c member
    have other : c ≠ '\n' := fun feed => noFeed (feed ▸ List.mem_reverse.mp member)
    simpa using other
  rw [lastLine, all, List.reverse_reverse]

/-- The first line of what is left goes on behind what was read of it. -/
theorem linesFrom_first : (linesFrom line rest)[0]? = lineBehind? line.reverse rest := by
  induction rest generalizing line with
  | nil =>
    cases line with
    | nil => rfl
    | cons c line =>
      rw [lineBehind?_some (by simp)]
      simp [linesFrom, lineBehind]
  | cons c rest ih =>
    rw [linesFrom, lineBehind?_some (by simp)]
    by_cases feed : c = '\n'
    · simp [feed, lineBehind]
    · have other : (c != '\n') = true := by simpa using feed
      rw [if_neg feed, ih, lineBehind?_some (by simp)]
      simp [lineBehind, other, Ne.symm feed]

/-- Behind so many line feeds comes the line that begins where the last of them ended one. -/
theorem linesFrom_at (noFeed : '\n' ∉ line) :
    (linesFrom line (before ++ rest))[before.count '\n']? =
      lineBehind? (lastLine (line.reverse ++ before)) rest := by
  induction before generalizing line with
  | nil =>
    have own : lastLine line.reverse = line.reverse :=
      lastLine_of_noFeed fun feed => noFeed (List.mem_reverse.mp feed)
    rw [List.nil_append, List.count_nil, List.append_nil, own, linesFrom_first]
  | cons c before ih =>
    rw [List.cons_append, linesFrom]
    by_cases feed : c = '\n'
    · subst feed
      rw [if_pos rfl, List.count_cons_self, List.getElem?_cons_succ, lastLine_feed]
      exact ih List.not_mem_nil
    · have none : '\n' ∉ c :: line := by simp [noFeed, Ne.symm feed]
      rw [if_neg feed, List.count_cons_of_ne feed, ih none, List.reverse_cons, List.append_assoc,
        List.singleton_append]

theorem withoutReturn_concat {c : Char} :
    withoutReturn (line ++ [c]) = if c = '\r' then line else line ++ [c] := by
  unfold withoutReturn
  rw [List.reverse_append, List.reverse_singleton, List.singleton_append]
  split
  case h_1 others same =>
    cases same
    simp
  case h_2 other =>
    have back : c ≠ '\r' := fun back => other line.reverse (by rw [back])
    rw [if_neg back]

/-- Only the end of a line is not shown of it. -/
theorem withoutReturn_append (some : rest ≠ []) :
    withoutReturn (head ++ rest) = head ++ withoutReturn rest := by
  obtain rfl | ⟨front, last, rfl⟩ := rest.eq_nil_or_concat'
  · cases some rfl
  rw [← List.append_assoc, withoutReturn_concat, withoutReturn_concat]
  split
  case isTrue => rfl
  case isFalse => rw [List.append_assoc]

/-- A line begins with what was read of it, where that does not go into the end of the line. -/
theorem lineBehind_begins : head <+: lineBehind head rest ∨
    head.getLast? = some '\r' ∧ rest.head? = some '\n' := by
  unfold lineBehind
  split
  case isFalse => exact .inl (List.prefix_append head rest)
  case isTrue ends =>
    cases rest with
    | nil => cases ends
    | cons c rest =>
      by_cases feed : c = '\n'
      · subst feed
        rw [List.takeWhile_cons_of_neg (by simp), List.append_nil]
        obtain rfl | ⟨front, last, rfl⟩ := head.eq_nil_or_concat'
        · exact .inl List.nil_prefix
        rw [withoutReturn_concat]
        by_cases back : last = '\r'
        · exact .inr ⟨by simp [back], rfl⟩
        · rw [if_neg back]
          exact .inl (List.prefix_refl _)
      · left
        rw [withoutReturn_append (by simp [feed])]
        exact List.prefix_append _ _

end Lines

/-- An error, and below it a line with a mark of some width behind an indent. -/
def withMark (error : CompileError) (line : String) (indent width : Nat) : String :=
  let number := padded 4 (toString error.span.line)
  let blanks := String.ofList (List.replicate indent ' ')
  let mark := String.ofList (List.replicate width '^')
  "error: " ++ error.message ++ "\n" ++ s!"{number} | {line}\n     | {blanks}{mark}\n"

/-- What a place that covers `text` takes on the line that begins with `head`: its characters there,
and at least the width of one. -/
def widthOn (line : String) (head text : List Char) : Nat :=
  max (min text.length (line.length - head.length)) 1

section Marks

variable {error : CompileError} {source line : String} {before text behind head : List Char}
  {indent m n : Nat}

theorem withMark_inj (same : withMark error line indent m = withMark error line indent n) :
    m = n := by
  have written (text : String) : toString text = text := rfl
  have lengths := congrArg String.length same
  simp only [withMark, written, String.length_append, String.length_ofList,
    List.length_replicate] at lengths
  omega

/-- The line of a place in the source. -/
theorem lines_at (whole : source.toList = before ++ text ++ behind)
    (covers : error.span.Covers before text) :
    (lines source)[error.span.line - 1]? =
      (lineBehind? (lastLine before) (text ++ behind)).map String.ofList := by
  have feeds : error.span.line - 1 = before.count '\n' := by
    rw [covers.line]
    omega
  rw [lines, List.getElem?_map, feeds, whole, List.append_assoc, linesFrom_at List.not_mem_nil]
  rfl

theorem indent_eq (covers : error.span.Covers before text) :
    error.span.col - 1 = (lastLine before).length := by
  rw [covers.col, lastLine, List.length_reverse]
  omega

theorem length_le_bytes (text : List Char) : text.length ≤ Position.bytes text := by
  induction text with
  | nil => exact Nat.le_refl 0
  | cons c text ih =>
    have some := c.utf8Size_pos
    rw [List.length_cons, Position.bytes_cons]
    omega

theorem bytes_eq_length_iff :
    Position.bytes text = text.length ↔ ∀ c ∈ text, c.utf8Size = 1 := by
  induction text with
  | nil => simp [Position.bytes]
  | cons c text ih =>
    have some := c.utf8Size_pos
    have least := length_le_bytes text
    rw [List.forall_mem_cons, ← ih, List.length_cons, Position.bytes_cons]
    omega

/-- A mark as wide as a place has bytes is as wide as the place is on its line just if the place has
at most one byte, or it has characters of one byte only and ends on that line. -/
theorem bytes_fit_iff : max (Position.bytes text) 1 = widthOn line head text ↔
    Position.bytes text ≤ 1 ∨
      (∀ c ∈ text, c.utf8Size = 1) ∧ head.length + text.length ≤ line.length := by
  have least := length_le_bytes text
  rw [← bytes_eq_length_iff, widthOn]
  omega

theorem widthOn_le : widthOn line head text ≤ max (Position.bytes text) 1 := by
  have least := length_le_bytes text
  rw [widthOn]
  omega

end Marks

/-- How an error is shown whose place covers `text`, behind `before` and in front of `behind`. -/
structure Shown (error : CompileError) (source : String) (before text behind : List Char) : Prop where
  /-- A line is shown unless the place is at the end, where no line begins. -/
  alone : (lines source)[error.span.line - 1]? = none ↔ lastLine before = [] ∧ text ++ behind = []
  headline : (lines source)[error.span.line - 1]? = none →
    error.rendered source = "error: " ++ error.message ++ "\n"
  /-- It is the line of the place, and it begins with what stands before the place there, as long as
  the place does not begin inside a line break. -/
  line_eq : ∀ line, (lines source)[error.span.line - 1]? = some line →
    line.toList = lineBehind (lastLine before) (text ++ behind) ∧
      (lastLine before <+: line.toList ∨
        (lastLine before).getLast? = some '\r' ∧ (text ++ behind).head? = some '\n')
  /-- So many characters indent the mark, which is as wide as the place has bytes. -/
  marked : ∀ line, (lines source)[error.span.line - 1]? = some line → error.rendered source =
    error.withMark line (lastLine before).length (max (Position.bytes text) 1)
  /-- The mark reaches at least as far as the place does on the line, -/
  reaches : ∀ line, (lines source)[error.span.line - 1]? = some line →
    widthOn line (lastLine before) text ≤ max (Position.bytes text) 1
  /-- and it is as wide just if no byte of the place is more than a character of the line. -/
  exact_iff : ∀ line, (lines source)[error.span.line - 1]? = some line →
    (error.rendered source =
        error.withMark line (lastLine before).length (widthOn line (lastLine before) text) ↔
      Position.bytes text ≤ 1 ∨
        (∀ c ∈ text, c.utf8Size = 1) ∧ (lastLine before).length + text.length ≤ line.length)

/-- An error is shown by where its place is. -/
theorem shown_of_covers {error : CompileError} {source : String} {before text behind : List Char}
    (whole : source.toList = before ++ text ++ behind) (covers : error.span.Covers before text) :
    error.Shown source before text behind := by
  have place := lines_at whole covers
  have drawn : ∀ line, (lines source)[error.span.line - 1]? = some line → error.rendered source =
      error.withMark line (lastLine before).length (max (Position.bytes text) 1) := by
    intro line there
    simp only [rendered, there, indent_eq covers, covers.length]
    rfl
  constructor
  · rw [place, Option.map_eq_none_iff, lineBehind?_none_iff]
  · intro missing
    simp only [rendered, missing]
  · intro line there
    rw [place] at there
    obtain ⟨chars, found, rfl⟩ := Option.map_eq_some_iff.mp there
    have something : ¬ (lastLine before = [] ∧ text ++ behind = []) := by
      intro nothing
      rw [lineBehind?_none_iff.mpr nothing] at found
      cases found
    rw [lineBehind?_some something] at found
    rw [String.toList_ofList, ← Option.some.inj found]
    exact ⟨rfl, lineBehind_begins⟩
  · exact drawn
  · exact fun _ _ => widthOn_le
  · intro line there
    rw [drawn line there, ← bytes_fit_iff]
    exact ⟨withMark_inj, congrArg _⟩

end CompileError

/-- What fails with an error that can be compared is known to fail with it. -/
theorem refused_of_check {α : Type} {result : Except CompileError α} {error : CompileError}
    (checks : (result.map fun _ => ()) = .error error) : result = .error error := by
  cases result with
  | ok a => cases checks
  | error e => exact congrArg _ (Except.error.inj checks)

namespace Lambda

/-- An error of reading a formula is shown below the line of its place, with a mark that begins there
and is as wide as the place has bytes. -/
theorem parse_shown {world : Universe} {namespaces : List String}
    {declared : Option (List ParamSpec)} {receiver : Option Ty} {source : String}
    {error : CompileError}
    (refused : Lambda.parse world namespaces declared receiver source = .error error) :
    ∃ before text behind, source.toList = before ++ text ++ behind ∧
      error.span.Covers before text ∧ error.Shown source before text behind := by
  obtain ⟨before, text, behind, whole, covers⟩ := parse_error_lies refused
  exact ⟨before, text, behind, whole, covers, CompileError.shown_of_covers whole covers⟩

/-- A place with a letter of two bytes, behind a line and two blanks. -/
theorem parse_shown_accent :
    let world := Registry.empty.toUniverse
    let source := "1 +\r\n  é"
    ∃ error, Lambda.parse world [] none none source = .error error ∧
      ∃ before text behind, source.toList = before ++ text ++ behind ∧
        error.span.Covers before text ∧ error.Shown source before text behind := by
  intro world source
  have refused : Lambda.parse world [] none none source =
      .error ⟨.typeNotFound "é", ⟨7, 2, 3, 2⟩⟩ := refused_of_check (by decide +kernel)
  exact ⟨_, refused, parse_shown refused⟩

/-- Under one letter of two bytes there is a mark of two, and under the two characters that a comment
of two lines has on the first there is a mark of four. -/
theorem parse_shown_beyond :
    let world := Registry.empty.toUniverse
    (∃ error, Lambda.parse world [] none none "é" = .error error ∧
      error.span.Covers [] ['é'] ∧ (CompileError.lines "é")[error.span.line - 1]? = some "é" ∧
      CompileError.widthOn "é" [] ['é'] = 1 ∧ error.rendered "é" = error.withMark "é" 0 2 ∧
      error.rendered "é" ≠ error.withMark "é" 0 1) ∧
    ∃ error, Lambda.parse world [] none none "/*\n*" = .error error ∧
      error.span.Covers [] ['/', '*', '\n', '*'] ∧
      (CompileError.lines "/*\n*")[error.span.line - 1]? = some "/*" ∧
      CompileError.widthOn "/*" [] ['/', '*', '\n', '*'] = 2 ∧
      error.rendered "/*\n*" = error.withMark "/*" 0 4 ∧
      error.rendered "/*\n*" ≠ error.withMark "/*" 0 2 := by
  intro world
  have letter : Lambda.parse world [] none none "é" =
      .error ⟨.typeNotFound "é", ⟨0, 1, 1, 2⟩⟩ := refused_of_check (by decide +kernel)
  have comment : Lambda.parse world [] none none "/*\n*" =
      .error ⟨.lexical .unterminatedComment, ⟨0, 1, 1, 4⟩⟩ := refused_of_check (by decide +kernel)
  constructor
  · exact ⟨_, letter, ⟨rfl, rfl, rfl, rfl⟩, by decide +kernel, by decide, by decide +kernel,
      by decide +kernel⟩
  · exact ⟨_, comment, ⟨rfl, rfl, rfl, rfl⟩, by decide +kernel, by decide, by decide +kernel,
      by decide +kernel⟩

end Lambda
end Formula
