import Formula.Proofs.Scanning
import Mathlib.Data.List.Chain
import Mathlib.Data.List.Induction

/-! How tokens cover a formula. What the lexer passes over are blanks and comments, and nothing
else; between them stand the tokens, one behind the other, each over the characters it was read
from. Where a token stands is said in bytes, lines and columns, and so is where an error is. -/
namespace Formula

namespace Position

variable {before text rest : List Char} {c : Char}

theorem after_append (place : Position) (before text : List Char) :
    place.after (before ++ text) = (place.after before).after text := List.foldl_append

theorem bytes_eq (text : List Char) : bytes text = (String.ofList text).utf8ByteSize := by
  induction text using List.reverseRecOn with
  | nil => rfl
  | append_singleton text c ih =>
    rw [bytes, List.foldl_append, ← bytes, ih]
    simp [String.ofList_append, String.ofList_cons]

theorem bytes_append (text more : List Char) : bytes (text ++ more) = bytes text + bytes more := by
  rw [bytes_eq, bytes_eq, bytes_eq, String.ofList_append, String.utf8ByteSize_append]

theorem bytes_cons (c : Char) (text : List Char) : bytes (c :: text) = c.utf8Size + bytes text := by
  rw [bytes_eq, bytes_eq, String.ofList_cons, String.utf8ByteSize_append,
    String.utf8ByteSize_singleton]

theorem bytes_pos (c : Char) (text : List Char) : 0 < bytes (c :: text) := by
  have some := c.utf8Size_pos
  rw [bytes_cons]
  omega

/-- A place is found by counting bytes, line feeds, and the characters behind the last line feed. -/
theorem after_start (before : List Char) :
    start.after before = ⟨bytes before, 1 + before.count '\n',
      1 + (before.reverse.takeWhile (· != '\n')).length⟩ := by
  induction before using List.reverseRecOn with
  | nil => rfl
  | append_singleton before c ih =>
    rw [after_append, ih, bytes_append, bytes_cons]
    by_cases feed : c = '\n'
    · subst feed
      simp [after, step, bytes, Nat.add_assoc]
    · simp [after, step, bytes, feed, Nat.add_comm]

end Position

namespace Span

variable {span : Span} {before text behind : List Char} {source : String}

/-- A span as it should be for `text` behind `before`: lines are counted by line feeds, columns by
the characters since the last one. -/
structure Covers (span : Span) (before text : List Char) : Prop where
  offset : span.offset = Position.bytes before
  length : span.length = Position.bytes text
  line : span.line = 1 + before.count '\n'
  col : span.col = 1 + (before.reverse.takeWhile (· != '\n')).length

/-- A span covers some characters of a source, at their line and column. -/
def Lies (span : Span) (source : String) : Prop :=
  ∃ before text behind, source.toList = before ++ text ++ behind ∧ span.Covers before text

theorem Covers.stop (covers : span.Covers before text) :
    span.stop = Position.bytes (before ++ text) := by
  rw [Span.stop, covers.offset, covers.length, Position.bytes_append]

theorem dropBytes_bytes (before rest : List Char) :
    dropBytes (Position.bytes before) (before ++ rest) = some rest := by
  induction before with
  | nil => cases rest <;> rfl
  | cons c before ih =>
    have some := c.utf8Size_pos
    have size := Position.bytes_cons c before
    obtain ⟨count, more⟩ : ∃ count, Position.bytes (c :: before) = count + 1 :=
      Nat.exists_eq_add_one.mpr (Position.bytes_pos c before)
    rw [more, List.cons_append, dropBytes, if_pos (by omega)]
    rw [show count + 1 - c.utf8Size = Position.bytes before by omega]
    exact ih

theorem takeBytes_bytes (text behind : List Char) :
    takeBytes (Position.bytes text) (text ++ behind) = some text := by
  induction text with
  | nil => cases behind <;> rfl
  | cons c text ih =>
    have some := c.utf8Size_pos
    have size := Position.bytes_cons c text
    obtain ⟨count, more⟩ : ∃ count, Position.bytes (c :: text) = count + 1 :=
      Nat.exists_eq_add_one.mpr (Position.bytes_pos c text)
    rw [more, List.cons_append, takeBytes, if_pos (by omega)]
    rw [show count + 1 - c.utf8Size = Position.bytes text by omega, ih]
    rfl

/-- The text that a span was made for is the text it cuts out. -/
theorem Covers.slice (covers : span.Covers before text)
    (whole : source.toList = before ++ text ++ behind) :
    span.slice? source = some (String.ofList text) := by
  rw [slice?, covers.offset, covers.length, whole, List.append_assoc, dropBytes_bytes]
  simp [takeBytes_bytes]

end Span

theorem Position.spanning_covers (before text : List Char) :
    ((Position.start.after before).spanning text).Covers before text := by
  rw [Position.after_start]
  exact ⟨rfl, rfl, rfl, rfl⟩

/-- Blanks and comments, with every comment closed. A comment to the end of the line may lack that
end only where nothing follows it (`final`). -/
inductive Trivia (final : Prop) : List Char → Prop where
  | nil : Trivia final []
  | blank {c : Char} {rest : List Char} (blank : Unicode.isBlank c) (others : Trivia final rest) :
      Trivia final (c :: rest)
  | line {comment rest : List Char} (inside : '\n' ∉ comment) (others : Trivia final rest) :
      Trivia final ('/' :: '/' :: (comment ++ '\n' :: rest))
  | block {comment rest : List Char} (inside : ¬ ['*', '/'] <:+: comment)
      (others : Trivia final rest) : Trivia final ('/' :: '*' :: (comment ++ '*' :: '/' :: rest))
  | lastLine {comment : List Char} (last : final) (inside : '\n' ∉ comment) :
      Trivia final ('/' :: '/' :: comment)

/-- A text that does not begin with a blank or a comment. -/
structure Visible (text : List Char) : Prop where
  noBlank : ∀ c, text.head? = some c → Unicode.isBlank c = false
  noLine : ¬ ['/', '/'] <+: text
  noBlock : ¬ ['/', '*'] <+: text

theorem visible_nil : Visible [] := ⟨nofun, by simp, by simp⟩

namespace Trivia

variable {final other : Prop} {rest : List Char} {c : Char}

theorem weaken (trivia : Trivia final rest) (implies : final → other) : Trivia other rest := by
  induction trivia with
  | nil => exact .nil
  | blank blank _ ih => exact .blank blank ih
  | line inside _ ih => exact .line inside ih
  | block inside _ ih => exact .block inside ih
  | lastLine last inside => exact .lastLine (implies last) inside

/-- One more character in a comment to the end of the line. -/
theorem line_cons (trivia : Trivia final ('/' :: '/' :: rest)) (noFeed : c ≠ '\n') :
    Trivia final ('/' :: '/' :: c :: rest) := by
  cases trivia with
  | blank blank => cases blank
  | line inside others =>
    exact .line (List.not_mem_cons_of_ne_of_not_mem noFeed.symm inside) others
  | lastLine last inside =>
    exact .lastLine last (List.not_mem_cons_of_ne_of_not_mem noFeed.symm inside)

/-- One more character in another comment. -/
theorem block_cons (trivia : Trivia final ('/' :: '*' :: rest))
    (goesOn : ¬ ['*', '/'] <+: c :: rest) : Trivia final ('/' :: '*' :: c :: rest) := by
  cases trivia with
  | blank blank => cases blank
  | @block comment rest inside others =>
    have stillInside : ¬ ['*', '/'] <:+: c :: comment := by
      intro closed
      rcases List.infix_cons_iff.mp closed with here | later
      · exact goesOn (here.trans (List.prefix_append (c :: comment) _))
      · exact inside later
    exact .block stillInside others

end Trivia

namespace Token

variable {final : Prop} {text front behind : List Char} {read count : Nat}

/-- What is passed over from among blanks, or from inside a comment. -/
def Gap.Passes (final : Prop) : Gap → List Char → Prop
  | .blanks, text => Trivia final text
  | .line, text => Trivia final ('/' :: '/' :: text)
  | .block _, text => Trivia final ('/' :: '*' :: text)

/-- What is passed over are blanks and comments, up to where neither goes on. -/
theorem gapFrom_passes {mode : Gap} (ran : gapFrom mode read text = .ok count) :
    ∃ front behind, text = front ++ behind ∧ count = read + front.length ∧
      mode.Passes (behind = []) front ∧ Visible behind := by
  fun_induction gapFrom mode read text with
  | case1 read =>
    cases ran
    exact ⟨[], [], rfl, rfl, .nil, visible_nil⟩
  | case2 read rest ih =>
    obtain ⟨front, behind, rfl, rfl, passes, visible⟩ := ih ran
    refine ⟨'/' :: '/' :: front, behind, rfl, ?_, passes, visible⟩
    simp only [List.length_cons]
    omega
  | case3 read rest ih =>
    obtain ⟨front, behind, rfl, rfl, passes, visible⟩ := ih ran
    refine ⟨'/' :: '*' :: front, behind, rfl, ?_, passes, visible⟩
    simp only [List.length_cons]
    omega
  | case4 read c rest noLine noBlock blank ih =>
    obtain ⟨front, behind, rfl, rfl, passes, visible⟩ := ih ran
    refine ⟨c :: front, behind, rfl, ?_, .blank blank passes, visible⟩
    simp only [List.length_cons]
    omega
  | case5 read c rest noLine noBlock visible =>
    cases ran
    refine ⟨[], c :: rest, rfl, rfl, .nil, ?_, ?_, ?_⟩
    · intro d first
      cases first
      simpa using visible
    · rintro ⟨more, same⟩
      cases same
      exact noLine more rfl rfl
    · rintro ⟨more, same⟩
      cases same
      exact noBlock more rfl rfl
  | case6 read =>
    cases ran
    exact ⟨[], [], rfl, rfl, .lastLine rfl (by simp), visible_nil⟩
  | case7 read c rest ih =>
    obtain ⟨front, behind, rfl, rfl, passes, visible⟩ := ih ran
    refine ⟨c :: front, behind, rfl, ?_, ?_, visible⟩
    · simp only [List.length_cons]
      omega
    by_cases feed : c = '\n'
    · rw [if_pos feed] at passes
      subst feed
      exact .line (List.not_mem_nil) passes
    · rw [if_neg feed] at passes
      exact Trivia.line_cons passes feed
  | case8 start read => cases ran
  | case9 start read rest ih =>
    obtain ⟨front, behind, rfl, rfl, passes, visible⟩ := ih ran
    have closed : Trivia (behind = []) ('/' :: '*' :: ([] ++ '*' :: '/' :: front)) :=
      .block (by simp) passes
    refine ⟨'*' :: '/' :: front, behind, rfl, ?_, closed, visible⟩
    simp only [List.length_cons]
    omega
  | case10 start read c rest goesOn ih =>
    obtain ⟨front, behind, rfl, rfl, passes, visible⟩ := ih ran
    refine ⟨c :: front, behind, rfl, ?_, Trivia.block_cons passes ?_, visible⟩
    · simp only [List.length_cons]
      omega
    · rintro ⟨more, same⟩
      cases same
      exact goesOn _ rfl rfl

/-- The token that was read of a character and `more` behind it, and is read of them wherever they
are set off. -/
structure Stands (token : Token) (c : Char) (more : List Char) : Prop where
  visible : ∀ tail, SetOff tail → Visible (c :: (more ++ tail))
  read : ∃ found, Cut (scan c) c more found ∧
    token = ⟨found.kind, String.ofList found.lexeme, token.span, found.number⟩

/-- Tokens over a text that stands behind `before`: each behind blanks and comments and over the
characters it is read from, and the end of the text last. -/
inductive Tiled : List Char → List Char → List Token → Prop where
  | ending {before lead : List Char} {span : Span} (trivia : Trivia True lead)
      (covers : span.Covers (before ++ lead) []) : Tiled before lead [.word .endOfInput "" span]
  | token {before lead more rest : List Char} {c : Char} {token : Token} {tokens : List Token}
      (trivia : Trivia False lead) (stands : token.Stands c more)
      (covers : token.span.Covers (before ++ lead) (c :: more))
      (others : Tiled (before ++ lead ++ c :: more) rest tokens) :
      Tiled before (lead ++ (c :: more ++ rest)) (token :: tokens)

/-- A token that is set off begins as it did: a blank does not make a comment of it. -/
private theorem visible_setOff {c : Char} {more tail : List Char} (setOff : SetOff tail)
    (visible : Visible (c :: (more ++ behind))) : Visible (c :: (more ++ tail)) := by
  have second : ∀ d, d = '/' ∨ d = '*' → ¬ ['/', d] <+: c :: (more ++ behind) →
      ¬ ['/', d] <+: c :: (more ++ tail) := by
    intro d mark other comment
    obtain ⟨rfl, next⟩ := List.cons_prefix_cons.mp comment
    cases more with
    | nil =>
      obtain ⟨rest, rfl⟩ := next
      have blank := setOff d rfl
      rcases mark with rfl | rfl <;> cases blank
    | cons e more =>
      obtain ⟨rfl, -⟩ := List.cons_prefix_cons.mp next
      exact other (by simp)
  exact ⟨visible.noBlank, second '/' (.inl rfl) visible.noLine,
    second '*' (.inr rfl) visible.noBlock⟩

/-- What reading comes to behind `before`: tokens over all the rest, or an error in it. -/
def Covered (before rest : List Char) : List Token × Option LexError → Prop
  | (tokens, none) => Tiled before rest tokens
  | (_, some error) => ∃ front text behind, rest = front ++ text ++ behind ∧
      error.span.Covers (before ++ front) text

variable {before lead more rest : List Char} {c : Char} {token : Token}

/-- An error at some of the characters that come next. -/
private theorem covered_error (fault : LexFault) (start length : Nat) :
    Covered before (lead ++ rest) ([], some ⟨fault,
      ((⟨Position.start.after (before ++ lead), rest⟩ : Cursor).advance start).span length⟩) := by
  refine ⟨lead ++ rest.take start, (rest.drop start).take length, (rest.drop start).drop length,
    ?_, ?_⟩
  · rw [List.append_assoc, List.append_assoc, List.take_append_drop, List.take_append_drop]
  · rw [Cursor.advance, ← Position.after_append, ← List.append_assoc]
    exact Position.spanning_covers ..

/-- One token, and then what the rest comes to. -/
private theorem Covered.cons {others : List Token × Option LexError} (trivia : Trivia False lead)
    (stands : token.Stands c more) (covers : token.span.Covers (before ++ lead) (c :: more))
    (covered : Covered (before ++ lead ++ c :: more) rest others) :
    Covered before (lead ++ (c :: more ++ rest)) (token :: others.1, others.2) := by
  obtain ⟨tokens, none | error⟩ := others
  · exact .token trivia stands covers covered
  · obtain ⟨front, text, behind, rfl, covers⟩ := covered
    refine ⟨lead ++ c :: more ++ front, text, behind, by simp, ?_⟩
    simpa using covers

/-- A point of reading moves over a front part of its text. -/
private theorem advance_front (place : Position) (behind : List Char) {length : Nat}
    (same : length = front.length) :
    (⟨place, front ++ behind⟩ : Cursor).advance length = ⟨place.after front, behind⟩ ∧
      (⟨place, front ++ behind⟩ : Cursor).span length = place.spanning front := by
  subst same
  simp [Cursor.advance, Cursor.span]

theorem readFrom_covered {fuel : Nat} (enough : rest.length < fuel) :
    Covered before rest (readFrom fuel ⟨Position.start.after before, rest⟩) := by
  induction fuel generalizing before rest with
  | zero => cases enough
  | succ fuel ih =>
    rw [readFrom]
    cases skips : gap rest with
    | error start =>
      have error := @covered_error before [] rest .unterminatedComment start
      rw [List.append_nil] at error
      exact error _
    | ok skipped =>
      obtain ⟨lead, behind, rfl, count, trivia, visible⟩ := gapFrom_passes skips
      rw [Nat.zero_add] at count
      simp only [(advance_front _ behind count).1, ← Position.after_append]
      cases behind with
      | nil =>
        rw [List.append_nil]
        exact .ending (trivia.weaken fun _ => True.intro) (Position.spanning_covers ..)
      | cons c behind =>
        simp only
        cases scans : scan c behind with
        | error fault => exact covered_error ..
        | ok found =>
          obtain ⟨more, rest, rfl, cut⟩ := scan_cut scans
          have length : found.length = (c :: more).length := cut.length
          obtain ⟨next, span⟩ := advance_front (Position.start.after (before ++ lead)) rest length
          rw [List.cons_append] at next span
          simp only [next, ← Position.after_append]
          refine Covered.cons (trivia.weaken fun ends => by cases ends)
            ⟨fun tail setOff => visible_setOff setOff visible, found, cut, rfl⟩ ?_ (ih ?_)
          · rw [ofScan, span]
            exact Position.spanning_covers ..
          · simp only [List.length_append, List.length_cons] at enough
            omega

/-- The characters between two byte offsets of a source. -/
def Between (source : String) (start stop : Nat) (text : List Char) : Prop :=
  ∃ before behind, source.toList = before ++ text ++ behind ∧
    start = Position.bytes before ∧ stop = Position.bytes (before ++ text)

/-- The characters a token is written in: those of its lexeme, except that a text or a character
stands in quotes and a name may stand behind an `@`. -/
def Spells (token : Token) (written : String) : Prop :=
  token.kind = .string ∨ token.kind = .char ∨
    token.kind = .identifier ∧ written = "@" ++ token.lexeme ∨ written = token.lexeme

/-- Tokens cover a source. They come in order and do not overlap, and the last of them stands for
the end and is the only one that covers nothing; each covers the characters it is written in, and
before and between them are only blanks and closed comments. -/
structure Tiles (source : String) (tokens : List Token) : Prop where
  order : tokens.Pairwise fun a b => a.span.offset < b.span.offset ∧ a.span.stop ≤ b.span.offset
  lies : ∀ token ∈ tokens, token.span.Lies source
  written : ∀ token ∈ tokens, ∃ written, token.span.slice? source = some written ∧
    token.Spells written
  ending : ∃ words last, tokens = words ++ [last] ∧
    (∀ word ∈ words, word.kind ≠ .endOfInput ∧ 0 < word.span.length) ∧
    last.kind = .endOfInput ∧ last.span.length = 0 ∧ last.span.offset = source.utf8ByteSize
  lead : ∀ first, tokens.head? = some first → ∃ lead, Between source 0 first.span.offset lead ∧
    Trivia (first.kind = .endOfInput) lead
  gaps : tokens.IsChain fun a b => ∃ gap, Between source a.span.stop b.span.offset gap ∧
    Trivia (b.kind = .endOfInput) gap

theorem Stands.spells (stands : token.Stands c more) :
    token.Spells (String.ofList (c :: more)) := by
  obtain ⟨found, cut, same⟩ := stands.read
  rw [same]
  rcases cut.spells with isText | isChar | ⟨isName, written⟩ | written
  · exact .inl isText
  · exact .inr (.inl isChar)
  · exact .inr (.inr (.inl ⟨isName, by rw [written, String.ofList_cons]; rfl⟩))
  · exact .inr (.inr (.inr (by rw [written])))

theorem Stands.kind (stands : token.Stands c more) : token.kind ≠ .endOfInput := by
  obtain ⟨found, cut, same⟩ := stands.read
  rw [same]
  exact cut.kind

namespace Tiled

variable {source : String} {tokens : List Token}

/-- No token stands before the text that the tokens cover. -/
theorem offset_le (tiled : Tiled before rest tokens) :
    ∀ token ∈ tokens, Position.bytes before ≤ token.span.offset := by
  induction tiled with
  | @ending before lead span trivia covers =>
    intro token member
    obtain rfl := List.mem_singleton.mp member
    have offset : span.offset = _ := covers.offset
    rw [Token.word, offset, Position.bytes_append]
    omega
  | @token before lead more rest c first tokens trivia stands covers others ih =>
    intro token member
    rcases List.mem_cons.mp member with rfl | member
    · rw [covers.offset, Position.bytes_append]
      omega
    · have behind := ih token member
      rw [Position.bytes_append, Position.bytes_append] at behind
      omega

theorem order (tiled : Tiled before rest tokens) : tokens.Pairwise fun a b =>
    a.span.offset < b.span.offset ∧ a.span.stop ≤ b.span.offset := by
  induction tiled with
  | ending => exact List.pairwise_singleton ..
  | @token before lead more rest c first tokens trivia stands covers others ih =>
    refine List.pairwise_cons.mpr ⟨fun token member => ?_, ih⟩
    have behind := others.offset_le token member
    have some := Position.bytes_pos c more
    have offset := covers.offset
    have stop := covers.stop
    rw [Position.bytes_append] at behind stop
    omega

theorem lies (tiled : Tiled before rest tokens) (whole : source.toList = before ++ rest) :
    ∀ token ∈ tokens, token.span.Lies source := by
  induction tiled with
  | ending trivia covers =>
    intro token member
    obtain rfl := List.mem_singleton.mp member
    exact ⟨_, [], [], by simpa using whole, covers⟩
  | @token before lead more rest c first tokens trivia stands covers others ih =>
    intro token member
    rcases List.mem_cons.mp member with rfl | member
    · exact ⟨_, _, rest, by simpa using whole, covers⟩
    · exact ih (by simpa using whole) token member

theorem written (tiled : Tiled before rest tokens) (whole : source.toList = before ++ rest) :
    ∀ token ∈ tokens, ∃ written, token.span.slice? source = some written ∧
      token.Spells written := by
  induction tiled with
  | @ending before lead span trivia covers =>
    intro token member
    obtain rfl := List.mem_singleton.mp member
    have whole : source.toList = before ++ lead ++ [] ++ [] := by simpa using whole
    exact ⟨"", covers.slice whole, .inr (.inr (.inr rfl))⟩
  | @token before lead more rest c first tokens trivia stands covers others ih =>
    intro token member
    rcases List.mem_cons.mp member with rfl | member
    · have whole : source.toList = before ++ lead ++ c :: more ++ rest := by simpa using whole
      exact ⟨_, covers.slice whole, stands.spells⟩
    · exact ih (by simpa using whole) token member

theorem ends (tiled : Tiled before rest tokens) :
    ∃ words last, tokens = words ++ [last] ∧
      (∀ word ∈ words, word.kind ≠ .endOfInput ∧ 0 < word.span.length) ∧
      last.kind = .endOfInput ∧ last.span.length = 0 ∧
      last.span.offset = Position.bytes (before ++ rest) := by
  induction tiled with
  | ending trivia covers => exact ⟨[], _, rfl, nofun, rfl, covers.length, covers.offset⟩
  | @token before lead more rest c first tokens trivia stands covers others ih =>
    obtain ⟨words, last, rfl, proper, isEnd, empty, offset⟩ := ih
    refine ⟨first :: words, last, rfl, fun word member => ?_, isEnd, empty, by simpa using offset⟩
    rcases List.mem_cons.mp member with rfl | member
    · refine ⟨stands.kind, ?_⟩
      rw [covers.length]
      exact Position.bytes_pos c more
    · exact proper word member

theorem leading (tiled : Tiled before rest tokens) (whole : source.toList = before ++ rest) :
    ∀ first, tokens.head? = some first →
      ∃ lead, Between source (Position.bytes before) first.span.offset lead ∧
        Trivia (first.kind = .endOfInput) lead := by
  intro first isFirst
  cases tiled with
  | ending trivia covers =>
    cases isFirst
    exact ⟨_, ⟨before, [], by simpa using whole, rfl, covers.offset⟩, trivia.weaken fun _ => rfl⟩
  | token trivia stands covers others =>
    cases isFirst
    exact ⟨_, ⟨before, _, by simpa using whole, rfl, covers.offset⟩, trivia.weaken nofun⟩

theorem gaps (tiled : Tiled before rest tokens) (whole : source.toList = before ++ rest) :
    tokens.IsChain fun a b => ∃ gap, Between source a.span.stop b.span.offset gap ∧
      Trivia (b.kind = .endOfInput) gap := by
  induction tiled with
  | ending => exact .singleton _
  | @token before lead more rest c first tokens trivia stands covers others ih =>
    have rest : source.toList = before ++ lead ++ c :: more ++ rest := by simpa using whole
    refine List.isChain_cons.mpr ⟨fun next isNext => ?_, ih rest⟩
    rw [covers.stop]
    exact others.leading rest next isNext

end Tiled

theorem readAll_covered (source : String) : Covered [] source.toList (readAll source) :=
  readFrom_covered (Nat.lt_succ_self _)

theorem tokenize_tiled {source : String} {tokens : List Token}
    (read : tokenize source = .ok tokens) : Tiled [] source.toList tokens := by
  have covered := readAll_covered source
  unfold tokenize at read
  split at read
  case h_1 => cases read
  case h_2 all =>
    cases read
    rwa [all] at covered

theorem tokenize_error_lies {source : String} {error : LexError}
    (failed : tokenize source = .error error) : error.span.Lies source := by
  have covered := readAll_covered source
  unfold tokenize at failed
  split at failed
  case h_1 all =>
    cases failed
    rwa [all] at covered
  case h_2 => cases failed

/-- The tokens of a formula cover it, and an error lies in it. -/
theorem tokenize_tiles (source : String) :
    match tokenize source with
    | .ok tokens => Tiles source tokens
    | .error error => error.span.Lies source := by
  cases read : tokenize source with
  | ok tokens =>
    have tiled := tokenize_tiled read
    have whole : source.toList = [] ++ source.toList := rfl
    obtain ⟨words, last, split, proper, isEnd, empty, offset⟩ := tiled.ends
    rw [Position.bytes_eq, List.nil_append, String.ofList_toList] at offset
    exact ⟨tiled.order, tiled.lies whole, tiled.written whole,
      ⟨words, last, split, proper, isEnd, empty, offset⟩, tiled.leading whole, tiled.gaps whole⟩
  | error error => exact tokenize_error_lies read

end Token
end Formula
