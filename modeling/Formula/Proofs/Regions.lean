import Formula.Proofs.Tiling
import Formula.Proofs.TokenWalk

/-! Regions of a source. A span lies in a source just if it begins there at the line and column of
some character and stops where a character ends, so spans that are joined lie in it too, from the
first of them to the end of the last. Every token of a stream lies in the source, and so does either
half of a shift that is consumed by halves; what is consumed stands in front of what is left. -/
namespace Formula

namespace Span

variable {source : String} {span a b : Span} {before text rest : List Char}

/-- A span begins behind some characters. -/
structure Begins (span : Span) (before : List Char) : Prop where
  offset : span.offset = Position.bytes before
  line : span.line = 1 + before.count '\n'
  col : span.col = 1 + (before.reverse.takeWhile (· != '\n')).length

/-- Some characters of a source end at a byte offset. -/
def Boundary (source : String) (offset : Nat) : Prop :=
  ∃ before, before <+: source.toList ∧ offset = Position.bytes before

/-- The bytes of a front part tell which it is. -/
theorem prefix_of_bytes_le {long : List Char} (front : before <+: source.toList)
    (other : long <+: source.toList) (less : Position.bytes before ≤ Position.bytes long) :
    before <+: long := by
  obtain shorter | longer := List.prefix_or_prefix_of_prefix front other
  · exact shorter
  · obtain ⟨more, rfl⟩ := longer
    rw [Position.bytes_append] at less
    cases more with
    | nil => simp
    | cons c more =>
      have some := Position.bytes_pos c more
      omega

/-- A span lies in a source just if it begins and stops at characters. -/
theorem lies_iff : span.Lies source ↔
    (∃ before, before <+: source.toList ∧ span.Begins before) ∧ Boundary source span.stop := by
  constructor
  · rintro ⟨before, text, behind, whole, covers⟩
    refine ⟨⟨before, ?_, covers.offset, covers.line, covers.col⟩, before ++ text, ?_, covers.stop⟩
    · exact ⟨text ++ behind, by rw [whole, List.append_assoc]⟩
    · exact ⟨behind, whole.symm⟩
  · rintro ⟨⟨before, front, begins⟩, long, other, stop⟩
    have less : Position.bytes before ≤ Position.bytes long := by
      rw [← stop, ← begins.offset]
      exact Nat.le_add_right _ _
    obtain ⟨text, rfl⟩ := prefix_of_bytes_le front other less
    obtain ⟨behind, whole⟩ := other
    have length : span.length = Position.bytes text := by
      rw [Span.stop, begins.offset, Position.bytes_append] at stop
      omega
    exact ⟨before, text, behind, whole.symm, begins.offset, length, begins.line, begins.col⟩

theorem offset_le_stop (span : Span) : span.offset ≤ span.stop := Nat.le_add_right _ _

theorem join_of_le (first : a.offset ≤ b.offset) :
    a.join b = ⟨a.offset, a.line, a.col, max b.stop a.stop - a.offset⟩ := by
  unfold join
  rw [if_neg (Nat.not_lt.mpr first)]

theorem join_of_lt (earlier : b.offset < a.offset) :
    a.join b = ⟨b.offset, b.line, b.col, max a.stop b.stop - b.offset⟩ := by
  unfold join
  rw [if_pos earlier]

@[simp] theorem join_offset (a b : Span) : (a.join b).offset = min a.offset b.offset := by
  obtain earlier | first := Nat.lt_or_ge b.offset a.offset
  · rw [join_of_lt earlier, Nat.min_eq_right earlier.le]
  · rw [join_of_le first, Nat.min_eq_left first]

@[simp] theorem join_stop (a b : Span) : (a.join b).stop = max a.stop b.stop := by
  have left := a.offset_le_stop
  have right := b.offset_le_stop
  obtain earlier | first := Nat.lt_or_ge b.offset a.offset
  · rw [join_of_lt earlier]
    change b.offset + (max a.stop b.stop - b.offset) = max a.stop b.stop
    omega
  · rw [join_of_le first]
    change a.offset + (max b.stop a.stop - a.offset) = max a.stop b.stop
    omega

/-- A span begins and stops no later than another. -/
structure Leads (a b : Span) : Prop where
  offset : a.offset ≤ b.offset
  stop : a.stop ≤ b.stop

theorem Leads.refl (span : Span) : span.Leads span := ⟨Nat.le_refl _, Nat.le_refl _⟩

theorem Leads.trans {c : Span} (first : a.Leads b) (second : b.Leads c) : a.Leads c :=
  ⟨first.offset.trans second.offset, first.stop.trans second.stop⟩

/-- A span leads whatever begins behind it. -/
theorem leads_of_le (behind : a.stop ≤ b.offset) : a.Leads b :=
  ⟨a.offset_le_stop.trans behind, behind.trans b.offset_le_stop⟩

theorem Leads.join_offset (leads : a.Leads b) : (a.join b).offset = a.offset := by
  rw [Span.join_offset, Nat.min_eq_left leads.offset]

theorem Leads.join_stop (leads : a.Leads b) : (a.join b).stop = b.stop := by
  rw [Span.join_stop, Nat.max_eq_right leads.stop]

theorem join_self (span : Span) : span.join span = span := by
  rw [join_of_le (Nat.le_refl _), Nat.max_self, Span.stop, Nat.add_sub_cancel_left]

/-- Joined spans lie where both of them do. -/
theorem Lies.join (first : a.Lies source) (second : b.Lies source) : (a.join b).Lies source := by
  obtain ⟨⟨before, front, begins⟩, ends⟩ := lies_iff.mp first
  obtain ⟨⟨before', front', begins'⟩, ends'⟩ := lies_iff.mp second
  refine lies_iff.mpr ⟨?begins, ?stops⟩
  case begins =>
    obtain earlier | inOrder := Nat.lt_or_ge b.offset a.offset
    · rw [join_of_lt earlier]
      exact ⟨before', front', begins'.offset, begins'.line, begins'.col⟩
    · rw [join_of_le inOrder]
      exact ⟨before, front, begins.offset, begins.line, begins.col⟩
  case stops =>
    rw [join_stop]
    obtain less | less := Nat.le_total a.stop b.stop
    · rwa [Nat.max_eq_right less]
    · rwa [Nat.max_eq_left less]

/-- A span over two angle brackets, cut down to the first. -/
theorem Covers.firstHalf (covers : span.Covers before ['>', '>']) :
    ({ span with length := 1 } : Span).Covers before ['>'] :=
  ⟨covers.offset, rfl, covers.line, covers.col⟩

/-- A span over two angle brackets, cut down to the second. -/
theorem Covers.secondHalf (covers : span.Covers before ['>', '>']) :
    ({ span with offset := span.offset + 1, col := span.col + 1, length := 1 } : Span).Covers
      (before ++ ['>']) ['>'] := by
  refine ⟨?_, rfl, ?_, ?_⟩
  · rw [Position.bytes_append, covers.offset]
    rfl
  · simp [covers.line]
  · simp [covers.col, Nat.add_comm]

end Span

namespace Token

variable {source : String} {token : Token} {tokens : List Token} {before lead more rest : List Char}
  {c : Char} {found : Scan}

private theorem map_ok {α β : Type} {first : Except ScanFault α} {f : α → β} {b : β} :
    first.map f = .ok b ↔ ∃ a, first = .ok a ∧ f a = b := by
  cases first <;> simp [Except.map]

/-- A token that lies in a source; so do both halves of a shift. -/
structure InPlace (source : String) (token : Token) : Prop where
  lies : token.span.Lies source
  halves : token.kind = .greaterGreater → token.span.length = 2 ∧
    ({ token.span with length := 1 } : Span).Lies source ∧
      (Stream.secondHalf token).span.Lies source

/-- No keyword is a shift. -/
private theorem word_noShift (word : String) :
    (TokenKind.ofKeyword? word).getD .identifier ≠ .greaterGreater := by
  cases found : TokenKind.ofKeyword? word with
  | none => nofun
  | some kind =>
    rintro rfl
    exact absurd (List.mem_of_find?_eq_some found) (by decide)

private theorem character_noShift (ran : Literal.character rest = .ok found) :
    found.kind ≠ .greaterGreater := by
  unfold Literal.character at ran
  split at ran
  case h_1 => cases ran
  case h_2 =>
    split at ran
    case isTrue =>
      cases ran
      nofun
    case isFalse => cases ran

private theorem verbatim_noShift (ran : scanVerbatim rest = .ok found) :
    found.kind ≠ .greaterGreater := by
  unfold scanVerbatim at ran
  split at ran
  case h_1 => cases ran
  case h_2 =>
    split at ran
    case isTrue =>
      cases ran
      nofun
    case isFalse =>
      split at ran
      case isTrue =>
        obtain ⟨inside, -, rfl⟩ := map_ok.mp ran
        nofun
      case isFalse => cases ran

/-- Of all that is read at the start of a text, only a symbol is a shift, and its lexeme is its
spelling. -/
theorem scan_shift (ran : scan c rest = .ok found) (shift : found.kind = .greaterGreater) :
    found.lexeme = ['>', '>'] := by
  unfold scan at ran
  split at ran
  case isTrue =>
    obtain ⟨inside, -, rfl⟩ := map_ok.mp ran
    cases shift
  split at ran
  case isTrue => exact absurd shift (character_noShift ran)
  split at ran
  case isTrue => exact absurd shift (verbatim_noShift ran)
  split at ran
  case isTrue => cases (Literal.number_front ran).1.symm.trans shift
  split at ran
  case isTrue =>
    cases ran
    exact absurd shift (word_noShift _)
  unfold scanSymbol at ran
  split at ran
  case h_1 kind _ =>
    cases ran
    obtain rfl : kind = .greaterGreater := shift
    rfl
  case h_2 => cases ran

/-- A shift is written as two angle brackets. -/
theorem Stands.shift (stands : token.Stands c more) (shift : token.kind = .greaterGreater) :
    c :: more = ['>', '>'] := by
  obtain ⟨found, cut, same⟩ := stands.read
  have kind : found.kind = .greaterGreater := by
    rw [same] at shift
    exact shift
  have written := scan_shift (cut.again [] setOff_nil) kind
  rcases cut.spells with isText | isChar | ⟨isName, -⟩ | spelled
  · cases kind.symm.trans isText
  · cases kind.symm.trans isChar
  · cases kind.symm.trans isName
  · rw [spelled, written]

theorem Tiled.inPlace (tiled : Tiled before rest tokens)
    (whole : source.toList = before ++ rest) : ∀ token ∈ tokens, token.InPlace source := by
  induction tiled with
  | ending trivia covers =>
    intro token member
    obtain rfl := List.mem_singleton.mp member
    exact ⟨⟨_, [], [], by simpa using whole, covers⟩, nofun⟩
  | @token before lead more rest c first tokens trivia stands covers others ih =>
    intro token member
    rcases List.mem_cons.mp member with rfl | member
    · refine ⟨⟨_, _, rest, by simpa using whole, covers⟩, fun shift => ?_⟩
      have written := stands.shift shift
      rw [written] at whole covers
      refine ⟨covers.length, ⟨_, _, '>' :: rest, ?_, covers.firstHalf⟩,
        ⟨_, _, rest, ?_, covers.secondHalf⟩⟩ <;> simpa using whole
    · exact ih (by simpa using whole) token member

end Token

namespace Stream

variable {source : String} {s t m : Stream}

/-- A stream over tokens of a source, none of which begins before what was consumed last stops. -/
structure Placed (source : String) (s : Stream) : Prop where
  closed : s.Closed
  inPlace : s.All (Token.InPlace source)
  order : s.rest.Pairwise fun a b => a.span.stop ≤ b.span.offset
  behind : s.previous.stop ≤ s.peek.span.offset

/-- The next token is the first that is left, or what remains of a shift. -/
theorem Placed.peek_eq (placed : s.Placed source) : ∃ first others, s.rest = first :: others ∧
    (s.split = false ∧ s.peek = first ∨
      s.split = true ∧ s.peek = secondHalf first ∧ first.kind = .greaterGreater) := by
  obtain ⟨rest, split, previous⟩ := s
  cases rest with
  | nil => exact absurd rfl placed.closed.ended.ne_nil
  | cons first others =>
    refine ⟨first, others, rfl, ?_⟩
    cases split with
    | false => exact .inl ⟨rfl, rfl⟩
    | true => exact .inr ⟨rfl, rfl, placed.closed.halved rfl⟩

/-- The next token lies in the source. -/
theorem Placed.lies (placed : s.Placed source) : s.peek.span.Lies source := by
  obtain ⟨first, others, rest, whole | half⟩ := placed.peek_eq
  all_goals have inPlace := placed.inPlace first (rest ▸ List.mem_cons_self)
  · rw [whole.2]
    exact inPlace.lies
  · rw [half.2.1]
    exact (inPlace.halves half.2.2).2.2

/-- The next token stops before whatever follows the first of those that are left. -/
theorem Placed.peek_stop (placed : s.Placed source) {first : Token} {others : List Token}
    (rest : s.rest = first :: others) : ∀ token ∈ others, s.peek.span.stop ≤ token.span.offset := by
  intro token member
  obtain ⟨_, _, same, next⟩ := placed.peek_eq
  obtain ⟨rfl, rfl⟩ := List.cons.inj (rest.symm.trans same)
  have inPlace := placed.inPlace first (rest ▸ List.mem_cons_self)
  have order := placed.order
  rw [rest] at order
  have behind := (List.pairwise_cons.mp order).1 token member
  obtain whole | half := next
  · rwa [whole.2]
  · obtain ⟨two, -, -⟩ := inPlace.halves half.2.2
    rw [half.2.1]
    rw [Span.stop, two] at behind
    exact behind

theorem Placed.next (placed : s.Placed source) (more : s.kind ≠ .endOfInput) :
    s.next.Placed source := by
  have closed := placed.closed.next more
  obtain ⟨first, rest, -, -⟩ := placed.closed.rest_eq more
  have order := placed.order
  rw [rest] at order
  refine ⟨closed, placed.inPlace.next, (List.pairwise_cons.mp order).2, ?_⟩
  obtain ⟨second, others, some⟩ := List.exists_cons_of_ne_nil closed.ended.ne_nil
  have before : s.next.Before (second :: others) := ⟨some, rfl⟩
  rw [before.peek]
  exact placed.peek_stop rest second (some ▸ List.mem_cons_self)

/-- A stream that was reached by reading on. -/
structure Later (source : String) (s t : Stream) : Prop where
  placed : t.Placed source
  leads : s.previous.Leads t.previous
  lies : s.previous.Lies source → t.previous.Lies source

theorem Placed.here (placed : s.Placed source) : Later source s s := ⟨placed, .refl _, id⟩

theorem Later.trans (first : Later source s m) (second : Later source m t) : Later source s t :=
  ⟨second.placed, first.leads.trans second.leads, second.lies ∘ first.lies⟩

theorem Placed.after (placed : s.Placed source) (more : s.kind ≠ .endOfInput) :
    Later source s s.next :=
  ⟨placed.next more, Span.leads_of_le placed.behind, fun _ => placed.lies⟩

theorem Placed.afterHalf (placed : s.Placed source) (splits : s.splitShift? = some m) :
    Later source s m := by
  obtain ⟨shift, whole, rest, half⟩ := splitShift_eq splits
  obtain ⟨first, others, same, next⟩ := placed.peek_eq
  have peek : s.peek = first := by
    obtain ⟨-, peek⟩ | ⟨half, -⟩ := next
    · exact peek
    · cases whole.symm.trans half
  have inPlace := placed.inPlace first (same ▸ List.mem_cons_self)
  obtain ⟨-, lies, -⟩ := inPlace.halves (peek ▸ shift)
  have previous : m.previous = { first.span with length := 1 } := by
    simp only [splitShift?, whole, shift] at splits
    rw [← peek, ← Option.some.inj splits]
  have last : m.peek = secondHalf first := by
    simp [Stream.peek, rest, half, same]
  have behind := placed.behind
  refine ⟨⟨placed.closed.half splits, placed.inPlace.half splits, rest ▸ placed.order, ?_⟩, ?_, ?_⟩
  · rw [previous, last]
    exact Nat.le_refl _
  · rw [previous]
    rw [peek] at behind
    exact Span.leads_of_le behind
  · exact fun _ => previous ▸ lies

end Stream

namespace Reader

variable {source : String} {s t m : Stream} {inside : Option Bracket} {scope : Scope}

/-- Every step of a walk consumes a token that is not the end, or half of one. -/
theorem Walk.later (walk : Walk inside s t) (placed : s.Placed source) :
    Stream.Later source s t := by
  induction walk with
  | here => exact placed.here
  | token plain _ ih =>
    have first := placed.after (ne_end_of_plain plain)
    exact first.trans (ih first.placed)
  | half splits _ ih =>
    have first := placed.afterHalf splits
    exact first.trans (ih first.placed)
  | mark asks _ _ ih =>
    have first := placed.after (by simp [asks])
    exact first.trans (ih first.placed)
  | branch asks _ _ colon _ inner ih =>
    have first := placed.after (by simp [asks])
    have middle := first.trans (inner first.placed)
    have second := middle.trans (middle.placed.after (by simp [colon]))
    exact second.trans (ih second.placed)
  | bracket _ opens _ closes _ inner ih =>
    have first := placed.after (ne_end_of_opener opens)
    have middle := first.trans (inner first.placed)
    have second := middle.trans (middle.placed.after (ne_end_of_closer closes))
    exact second.trans (ih second.placed)
  | assign name equal _ ih =>
    have first := placed.after (by simp [name])
    have second := first.trans (first.placed.after (by simp [equal]))
    exact second.trans (ih second.placed)

/-- A walk and one token behind it. -/
theorem Walk.later_next (walk : Walk inside s m) (more : m.kind ≠ .endOfInput)
    (placed : s.Placed source) : Stream.Later source s m.next :=
  have later := walk.later placed
  later.trans (later.placed.after more)

theorem Reads.later {part : Part} {result : part.Result} (reads : Reads scope part s result t)
    (placed : s.Placed source) : Stream.Later source s t := by
  have walked := reads.walked
  cases part with
  | expression | operand | operators | operator => exact Walk.later walked placed
  | arguments | givens | initializer => exact (walked none).later placed
  | items =>
    obtain ⟨m, walk, closes, rfl⟩ := walked
    exact walk.later_next (ne_end_of_closer closes) placed
  | assignments =>
    obtain ⟨m, walk, closes, rfl⟩ := walked
    exact walk.later_next (by simp [closes]) placed

end Reader
end Formula
