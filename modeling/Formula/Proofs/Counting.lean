import Formula.Proofs.ReaderPlaces

/-! Counters of 32 bits. Reading with them either stops, or finds what is found without a bound, with
every number in its counter. It stops only on a text that is too long: one byte less than there are
numbers in a counter is enough for a line or a column that is counted from one, so on every shorter
text nothing overflows, and a program that does not look out for it reads the same. -/
namespace Formula

namespace Position

/-- The numbers of a place are in their counters. -/
structure Fits (place : Position) : Prop where
  offset : place.offset < pow2 32
  line : place.line < pow2 32
  col : place.col < pow2 32

/-- A text can be counted from its start: no counter overflows on the way. -/
def Counted (text : List Char) : Prop := ∀ front, front <+: text → (start.after front).Fits

variable {place next : Position} {before text more : List Char} {c : Char} {n m total : Nat}

theorem count?_some : count? n m = some total ↔ total = n + m ∧ n + m < pow2 32 := by
  rw [count?, eq_comm (a := total), and_comm]
  split <;> simp_all

/-- One character moves a place as it does without a bound, if its numbers fit behind it. -/
theorem step?_some (fits : place.Fits) :
    place.step? c = some next ↔ next = place.step c ∧ next.Fits := by
  have line := fits.line
  unfold step? step
  by_cases feed : c = '\n'
  · simp only [feed, ↓reduceIte, Option.bind_eq_bind, Option.bind_eq_some_iff, count?_some]
    constructor
    · rintro ⟨_, ⟨rfl, offset⟩, _, ⟨rfl, line⟩, same⟩
      cases same
      have one : 1 < pow2 32 := by decide
      exact ⟨rfl, offset, line, one⟩
    · rintro ⟨rfl, fits⟩
      exact ⟨_, ⟨rfl, fits.offset⟩, _, ⟨rfl, fits.line⟩, rfl⟩
  · simp only [feed, ↓reduceIte, Option.bind_eq_bind, Option.bind_eq_some_iff, count?_some]
    constructor
    · rintro ⟨_, ⟨rfl, offset⟩, _, ⟨rfl, col⟩, same⟩
      cases same
      exact ⟨rfl, offset, line, col⟩
    · rintro ⟨rfl, fits⟩
      exact ⟨_, ⟨rfl, fits.offset⟩, _, ⟨rfl, fits.col⟩, rfl⟩

theorem Counted.fits (counted : Counted text) : (start.after text).Fits :=
  counted text List.prefix_rfl

theorem Counted.front (counted : Counted (text ++ more)) : Counted text :=
  fun front begins => counted front (begins.trans (List.prefix_append text more))

theorem counted_nil : Counted [] := by
  intro front begins
  rw [List.prefix_nil.mp begins]
  have one : 1 < pow2 32 := by decide
  exact ⟨Nat.two_pow_pos 32, one, one⟩

theorem counted_append_singleton :
    Counted (text ++ [c]) ↔ Counted text ∧ (start.after (text ++ [c])).Fits := by
  constructor
  · exact fun counted => ⟨counted.front, counted.fits⟩
  · rintro ⟨counted, fits⟩ front begins
    rcases List.prefix_concat_iff.mp begins with rfl | inside
    · exact fits
    · exact counted front inside

/-- Counters get over a text just if it can be counted, and then to where they get without a bound. -/
theorem after?_start : start.after? text = some place ↔ place = start.after text ∧ Counted text := by
  induction text using List.reverseRecOn generalizing place with
  | nil => simp [after?, after, counted_nil, eq_comm]
  | append_singleton text c ih =>
    have last (q : Position) : q.after? [c] = q.step? c := by simp [after?]
    rw [after?, List.foldlM_append, Option.bind_eq_bind, Option.bind_eq_some_iff,
      counted_append_singleton, after_append]
    constructor
    · rintro ⟨middle, reached, stepped⟩
      obtain ⟨rfl, counted⟩ := ih.mp reached
      obtain ⟨rfl, fits⟩ := (step?_some counted.fits).mp ((last _).symm.trans stepped)
      exact ⟨rfl, counted, fits⟩
    · rintro ⟨rfl, counted, fits⟩
      exact ⟨_, ih.mpr ⟨rfl, counted⟩, (last _).trans ((step?_some counted.fits).mpr ⟨rfl, fits⟩)⟩

theorem after?_append (counted : Counted before) : (start.after before).after? text = some place ↔
    place = start.after (before ++ text) ∧ Counted (before ++ text) := by
  rw [← after?_start, after?, after?, List.foldlM_append]
  have reached : before.foldlM step? start = some (start.after before) :=
    after?_start.mpr ⟨rfl, counted⟩
  rw [reached, Option.bind_eq_bind, Option.bind_some]

theorem length_le_bytes (text : List Char) : text.length ≤ bytes text := by
  induction text with
  | nil => exact Nat.zero_le _
  | cons c text ih =>
    have some := c.utf8Size_pos
    rw [bytes_cons, List.length_cons]
    omega

/-- A text of less than 2³² - 1 bytes can be counted. -/
theorem counted_of_short (short : bytes text + 1 < pow2 32) : Counted text := by
  rintro front ⟨behind, rfl⟩
  have size := length_le_bytes front
  have feeds := front.count_le_length (a := '\n')
  have column := (front.reverse.takeWhile_prefix (· != '\n')).length_le
  rw [bytes_append] at short
  rw [List.length_reverse] at column
  rw [after_start]
  exact ⟨by simp only; omega, by simp only; omega, by simp only; omega⟩

end Position

namespace Span

/-- The numbers of a span are in their counters. -/
structure Fits (span : Span) : Prop where
  offset : span.offset < pow2 32
  line : span.line < pow2 32
  col : span.col < pow2 32
  length : span.length < pow2 32

/-- What lies in a source that can be counted has its numbers in their counters. -/
theorem Lies.fits {span : Span} {source : String} (lies : span.Lies source)
    (counted : Position.Counted source.toList) : span.Fits := by
  obtain ⟨before, text, behind, whole, covers⟩ := lies
  rw [whole] at counted
  have first := counted.front.front.fits
  have last := counted.front.fits.offset
  rw [Position.after_start] at first last
  have stop := covers.stop
  rw [Span.stop] at stop
  refine ⟨?_, ?_, ?_, by simp only at last; omega⟩
  · rw [covers.offset]
    exact first.offset
  · rw [covers.line]
    exact first.line
  · rw [covers.col]
    exact first.col

end Span

namespace Cursor

open Position

variable {cursor next stop : Cursor} {before : List Char} {count length : Nat}

/-- A point behind `before` that was reached with its numbers in their counters. -/
structure Reached (cursor : Cursor) (before : List Char) : Prop where
  counted : Counted before
  place : cursor.place = start.after before

theorem ofSource_reached (source : String) : (ofSource source).Reached [] := ⟨counted_nil, rfl⟩

theorem Reached.fits (reached : cursor.Reached before) : cursor.place.Fits :=
  reached.place ▸ reached.counted.fits

/-- A point is moved over as many characters as without a bound, if they can be counted. -/
theorem advance?_some (reached : cursor.Reached before) : cursor.advance? count = some next ↔
    next = cursor.advance count ∧ Counted (before ++ cursor.text.take count) := by
  simp only [advance?, advance, reached.place, Option.bind_eq_bind, Option.bind_eq_some_iff,
    after?_append reached.counted, ← after_append]
  constructor
  · rintro ⟨_, ⟨rfl, counted⟩, same⟩
    cases same
    exact ⟨rfl, counted⟩
  · rintro ⟨rfl, counted⟩
    exact ⟨_, ⟨rfl, counted⟩, rfl⟩

theorem Reached.move (reached : cursor.Reached before) (moved : cursor.advance? count = some next) :
    next = cursor.advance count ∧
      (cursor.advance count).Reached (before ++ cursor.text.take count) := by
  obtain ⟨same, counted⟩ := (advance?_some reached).mp moved
  exact ⟨same, counted, by rw [after_append, ← reached.place]; rfl⟩

theorem advance_length : (cursor.advance count).text.length = cursor.text.length - count :=
  List.length_drop

/-- What lies behind a point is what was moved over and what lies behind the next. -/
theorem advance_split (before : List Char) :
    before ++ cursor.text.take count ++ (cursor.advance count).text = before ++ cursor.text := by
  rw [advance, List.append_assoc, List.take_append_drop]

/-- A point is moved over any part of a text that can be counted. -/
theorem Reached.moves (reached : cursor.Reached before) (whole : Counted (before ++ cursor.text))
    (count : Nat) : cursor.advance? count = some (cursor.advance count) ∧
      (cursor.advance count).Reached (before ++ cursor.text.take count) ∧
      Counted (before ++ cursor.text.take count ++ (cursor.advance count).text) := by
  rw [← advance_split before] at whole
  have moved := (advance?_some reached).mpr ⟨rfl, whole.front⟩
  exact ⟨moved, (reached.move moved).2, whole⟩

/-- Between two points lies the text that was moved over. -/
theorem spanTo_advance (reached : cursor.Reached before) :
    cursor.spanTo (cursor.advance count) = cursor.span count := by
  have offset : (start.after (before ++ cursor.text.take count)).offset - (start.after before).offset
      = bytes (cursor.text.take count) := by
    simp only [after_start, bytes_append]
    omega
  rw [after_append] at offset
  simp only [spanTo, Cursor.span, Cursor.advance, spanning, reached.place, offset]

theorem spanTo_fits (first : cursor.place.Fits) (last : next.place.Fits) :
    (cursor.spanTo next).Fits where
  offset := first.offset
  line := first.line
  col := first.col
  length := Nat.lt_of_le_of_lt (Nat.sub_le ..) last.offset

/-- What lies between two points that were reached has its numbers in their counters. -/
theorem Reached.between (reached : cursor.Reached before)
    (moved : cursor.advance? count = some next) (ended : next.advance? length = some stop) :
    next = cursor.advance count ∧ next.spanTo stop = next.span length ∧
      (next.spanTo stop).Fits := by
  obtain ⟨rfl, first⟩ := reached.move moved
  obtain ⟨rfl, last⟩ := first.move ended
  exact ⟨rfl, spanTo_advance first, spanTo_fits first.fits last.fits⟩

end Cursor

namespace Token

open Position Cursor

variable {cursor : Cursor} {before : List Char} {fuel : Nat}
  {read : List Token × Option LexError} {source : String}

/-- What is in its counters when a reading has ended: all of the text, or the span of the error. -/
def Ended (text : List Char) : Option LexError → Prop
  | none => Counted text
  | some error => error.span.Fits

/-- Reading with counters, where it does not stop, reads what is read without a bound. -/
theorem readFrom?_some (reached : cursor.Reached before) (enough : cursor.text.length < fuel)
    (ran : readFrom? fuel cursor = some read) :
    read = readFrom fuel cursor ∧ Ended (before ++ cursor.text) read.2 := by
  induction fuel generalizing cursor before read with
  | zero => cases enough
  | succ fuel ih =>
    rw [readFrom?] at ran
    cases skips : gap cursor.text with
    | error count =>
      simp only [skips, Option.bind_eq_bind, Option.bind_eq_some_iff] at ran
      obtain ⟨comment, moved, stop, ended, same⟩ := ran
      obtain ⟨rfl, span, fits⟩ := reached.between moved ended
      cases same
      exact ⟨by simp only [readFrom, skips, span], fits⟩
    | ok skipped =>
      simp only [skips, Option.bind_eq_bind, Option.bind_eq_some_iff] at ran
      obtain ⟨point, moved, ran⟩ := ran
      obtain ⟨rfl, first⟩ := reached.move moved
      cases behind : (cursor.advance skipped).text with
      | nil =>
        simp only [behind] at ran
        cases ran
        simp only [readFrom, skips, behind]
        refine ⟨by rw [← spanTo_advance first]; rfl, ?_⟩
        rw [← advance_split before, behind, List.append_nil]
        exact first.counted
      | cons c rest =>
        simp only [behind] at ran
        cases scans : scan c rest with
        | error fault =>
          simp only [scans, Option.bind_eq_some_iff] at ran
          obtain ⟨begins, moved, stop, ended, same⟩ := ran
          obtain ⟨rfl, span, fits⟩ := first.between moved ended
          cases same
          exact ⟨by simp only [readFrom, skips, behind, scans, span], fits⟩
        | ok found =>
          simp only [scans, Option.bind_eq_some_iff] at ran
          obtain ⟨next, moved, others, ran, same⟩ := ran
          obtain ⟨rfl, last⟩ := first.move moved
          cases same
          obtain ⟨more, tail, rfl, cut⟩ := scan_cut scans
          have length : found.length = (c :: more).length := cut.length
          have some : 0 < found.length := length ▸ Nat.succ_pos _
          have left := @advance_length cursor skipped
          have shorter : ((cursor.advance skipped).advance found.length).text.length < fuel := by
            rw [behind, List.length_cons] at left
            rw [advance_length, behind, List.length_cons]
            omega
          obtain ⟨rfl, ended⟩ := ih last shorter ran
          simp only [readFrom, skips, behind, scans, spanTo_advance first]
          rw [advance_split, advance_split] at ended
          exact ⟨rfl, ended⟩

/-- Reading with counters does not stop on a text that can be counted. -/
theorem readFrom?_isSome (reached : cursor.Reached before)
    (counted : Counted (before ++ cursor.text)) : (readFrom? fuel cursor).isSome := by
  induction fuel generalizing cursor before with
  | zero => rfl
  | succ fuel ih =>
    rw [readFrom?]
    cases skips : gap cursor.text with
    | error count =>
      obtain ⟨moved, first, counted⟩ := reached.moves counted count
      obtain ⟨ended, -, -⟩ := first.moves counted (cursor.advance count).text.length
      simp [moved, ended]
    | ok skipped =>
      obtain ⟨moved, first, counted⟩ := reached.moves counted skipped
      simp only [moved, Option.bind_eq_bind, Option.bind_some]
      cases behind : (cursor.advance skipped).text with
      | nil => rfl
      | cons c rest =>
        simp only
        cases scans : scan c rest with
        | error fault =>
          obtain ⟨moved, start, counted⟩ := first.moves counted fault.start
          obtain ⟨ended, -, -⟩ := start.moves counted fault.length
          simp [moved, ended]
        | ok found =>
          obtain ⟨moved, last, counted⟩ := first.moves counted found.length
          obtain ⟨others, ran⟩ := Option.isSome_iff_exists.mp (ih last counted)
          simp [moved, ran]

theorem readAll?_some (ran : readAll? source = some read) :
    read = readAll source ∧ Ended source.toList read.2 :=
  readFrom?_some (ofSource_reached source) (Nat.lt_succ_self _) ran

/-- The tokens that are counted are those there are, and all of the source is counted with them. -/
theorem tokenize?_ok {tokens : List Token} (ran : tokenize? source = some (.ok tokens)) :
    tokenize source = .ok tokens ∧ Counted source.toList := by
  obtain ⟨⟨tokens, fault⟩, ran, same⟩ := Option.map_eq_some_iff.mp ran
  obtain ⟨read, ended⟩ := readAll?_some ran
  rw [tokenize, ← read]
  cases fault with
  | none => exact ⟨same, ended⟩
  | some error => cases same

/-- The error that is counted is the one there is. -/
theorem tokenize?_error {error : LexError} (ran : tokenize? source = some (.error error)) :
    tokenize source = .error error ∧ error.span.Fits := by
  obtain ⟨⟨tokens, fault⟩, ran, same⟩ := Option.map_eq_some_iff.mp ran
  obtain ⟨read, ended⟩ := readAll?_some ran
  rw [tokenize, ← read]
  cases fault with
  | none => cases same
  | some error =>
    cases same
    exact ⟨rfl, ended⟩

/-- The lexer stops only on a text that has as many bytes as there are numbers in a counter, or one
less. -/
theorem tokenize?_none (stopped : tokenize? source = none) :
    pow2 32 ≤ source.utf8ByteSize + 1 := by
  apply Nat.le_of_not_lt
  intro short
  rw [← String.ofList_toList (s := source), ← bytes_eq] at short
  have read := @readFrom?_isSome _ _ (source.toList.length + 1) (ofSource_reached source)
    (counted_of_short short)
  rw [tokenize?, Option.map_eq_none_iff, readAll?] at stopped
  rw [stopped] at read
  cases read

/-- The tokens of a formula cover it, and an error lies in it; all their numbers are in their
counters. Only what is as long as there are numbers in a counter, or one byte less, is not read. -/
theorem counted_tiles (source : String) :
    match tokenize? source with
    | some (.ok tokens) => Tiles source tokens ∧ ∀ token ∈ tokens, token.span.Fits
    | some (.error error) => error.span.Lies source ∧ error.span.Fits
    | none => pow2 32 ≤ source.utf8ByteSize + 1 := by
  have tiles := tokenize_tiles source
  cases ran : tokenize? source with
  | none => exact tokenize?_none ran
  | some result =>
    cases result with
    | ok tokens =>
      obtain ⟨read, counted⟩ := tokenize?_ok ran
      simp only [read] at tiles
      exact ⟨tiles, fun token member => (tiles.lies token member).fits counted⟩
    | error error =>
      obtain ⟨read, fits⟩ := tokenize?_error ran
      exact ⟨tokenize_error_lies read, fits⟩

end Token

namespace Lambda

variable {world : Universe} {namespaces : List String} {declared : Option (List ParamSpec)}
  {receiver : Option Ty} {source : String}

theorem parse?_none
    (stopped : Lambda.parse? world namespaces declared receiver source = none) :
    pow2 32 ≤ source.utf8ByteSize + 1 :=
  Token.tokenize?_none (Option.map_eq_none_iff.mp stopped)

/-- A formula that is read with counters is the one there is, and all of the source is counted. -/
theorem parse?_ok {lambda : Lambda}
    (ran : Lambda.parse? world namespaces declared receiver source = some (.ok lambda)) :
    Lambda.parse world namespaces declared receiver source = .ok lambda ∧
      Position.Counted source.toList := by
  obtain ⟨read | tokens, lexed, same⟩ := Option.map_eq_some_iff.mp ran
  · cases same
  · obtain ⟨read, counted⟩ := Token.tokenize?_ok lexed
    rw [Lambda.parse, tokensOf, read]
    exact ⟨same, counted⟩

/-- The error of reading with counters is the one there is. -/
theorem parse?_error {error : CompileError}
    (ran : Lambda.parse? world namespaces declared receiver source = some (.error error)) :
    Lambda.parse world namespaces declared receiver source = .error error ∧ error.span.Fits := by
  obtain ⟨fault | tokens, lexed, same⟩ := Option.map_eq_some_iff.mp ran
  · obtain ⟨read, fits⟩ := Token.tokenize?_error lexed
    cases same
    rw [Lambda.parse, tokensOf, read]
    exact ⟨rfl, fits⟩
  · obtain ⟨read, counted⟩ := Token.tokenize?_ok lexed
    have refused : Lambda.parse world namespaces declared receiver source = .error error := by
      rw [Lambda.parse, tokensOf, read]
      exact same
    exact ⟨refused, (parse_error_lies refused).fits counted⟩

/-- On a source of less than 2³² - 1 bytes, counters make no difference. -/
theorem parse?_of_short (short : source.utf8ByteSize + 1 < pow2 32) :
    Lambda.parse? world namespaces declared receiver source =
      some (Lambda.parse world namespaces declared receiver source) := by
  cases ran : Lambda.parse? world namespaces declared receiver source with
  | none => exact absurd (parse?_none ran) (Nat.not_le_of_lt short)
  | some result =>
    cases result with
    | ok lambda => rw [(parse?_ok ran).1]
    | error error => rw [(parse?_error ran).1]

/-- Where a formula that is read has its nodes, and where one that is not has its error, with all
numbers in their counters. Every node lies in the source, at its line and column, with its children
in it, in order and apart; and so does the error lie there. Only what is as long as there are numbers
in a counter, or one byte less, is not read. -/
theorem counted_places (world : Universe) (namespaces : List String)
    (declared : Option (List ParamSpec)) (receiver : Option Ty) (source : String) :
    match Lambda.parse? world namespaces declared receiver source with
    | some (.ok lambda) => Expr.AllLaid source lambda.body ∧
        Expr.Everywhere (·.span.Fits) lambda.body
    | some (.error error) => error.span.Lies source ∧ error.span.Fits
    | none => pow2 32 ≤ source.utf8ByteSize + 1 := by
  have places := parse_places world namespaces declared receiver source
  cases ran : Lambda.parse? world namespaces declared receiver source with
  | none => exact parse?_none ran
  | some result =>
    cases result with
    | ok lambda =>
      obtain ⟨read, counted⟩ := parse?_ok ran
      simp only [read] at places
      exact ⟨places, fun part inside => (places part inside).lies.fits counted⟩
    | error error =>
      obtain ⟨read, fits⟩ := parse?_error ran
      exact ⟨parse_error_lies read, fits⟩

end Lambda
end Formula
