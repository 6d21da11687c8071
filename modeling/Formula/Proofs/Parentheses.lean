import Formula.Proofs.Alongside
import Formula.Proofs.Twins

/-! Parentheses around a whole body change nothing but places. A derivation for a text up to its end
is followed, rule by rule, by one for the same words up to an end of their own or up to a closing
parenthesis; whatever has no bracket around it in the one is in the parentheses of the other. Two
things keep the parenthesis from being taken for something else: no walk gets past a bracket that it
did not see open, and no accepted text ends in a question mark and a name. -/
namespace Formula.Reader

open Formula.Expr (Alike)

variable {enclosed : Bool} {scope : Scope} {s t m s' : Stream} {inside : Option Bracket}

/-- A question mark stands in front of tokens of a kind. -/
def MarkBefore (behind : List Token → Prop) (tokens : List Token) : Prop :=
  ∃ front question back, tokens = front ++ question :: back ∧ question.kind = .question ∧
    back ≠ [] ∧ behind back

section Marks

variable {behind : List Token → Prop}

/-- Of tokens with such a question mark, the next one is taken, or the question mark is next. -/
theorem mark_next (closed : s.Closed) (mark : MarkBefore behind s.rest) :
    s.kind ≠ .endOfInput ∧ (MarkBefore behind s.next.rest ∨
      s.kind = .question ∧ behind s.next.rest) := by
  obtain ⟨front, question, back, parts, asks, some, follows⟩ := mark
  have more : s.kind ≠ .endOfInput := by
    intro last
    have short := congrArg List.length (parts.symm.trans (closed.last last))
    have length := List.length_pos_iff.mpr some
    simp only [List.length_append, List.length_cons, List.length_nil] at short
    omega
  refine ⟨more, ?_⟩
  obtain ⟨rest, split, previous⟩ := s
  obtain rfl : rest = front ++ question :: back := parts
  cases front with
  | nil =>
    cases split with
    | true =>
      have shift : question.kind = .greaterGreater := closed.halved rfl
      simp [asks] at shift
    | false =>
      have left : (Stream.next ⟨question :: back, false, previous⟩).rest = back :=
        Stream.tokensAfter_cons some
      exact .inr ⟨asks, by rwa [List.nil_append, left]⟩
  | cons first front =>
    refine .inl ⟨front, question, back, ?_, asks, some, follows⟩
    exact Stream.tokensAfter_cons (by simp)

/-- Any token but a question mark lies in front of it. -/
theorem mark_past (closed : s.Closed) (mark : MarkBefore behind s.rest)
    (other : s.kind ≠ .question) : s.next.Closed ∧ MarkBefore behind s.next.rest := by
  obtain ⟨more, next | ⟨asks, -⟩⟩ := mark_next closed mark
  · exact ⟨closed.next more, next⟩
  · exact absurd asks other

/-- A walk does not get past a question mark that is neither one of a nullable type nor has a branch
behind it. -/
theorem Walk.keeps_mark (walk : Walk inside s t) (closed : s.Closed)
    (mark : MarkBefore behind s.rest)
    (noMark : ∀ m : Stream, m.Closed → m.kind = .question → behind m.next.rest →
      marksNullable m = false)
    (noBranch : ∀ (m n : Stream) inside, m.Closed → m.kind = .question → behind m.next.rest →
      m.next.kind ≠ .colon → Walk inside m.next n → n.kind ≠ .colon) :
    MarkBefore behind t.rest := by
  induction walk with
  | here => exact mark
  | @token _ _ s plain _ ih =>
    have other : s.kind ≠ .question := by
      intro asks
      simp [asks, isPlain] at plain
    obtain ⟨next, mark⟩ := mark_past closed mark other
    exact ih next mark
  | half splits _ ih =>
    have same := (Stream.splitShift_eq splits).2.2.1
    exact ih (closed.half splits) (same ▸ mark)
  | mark asks marks _ ih =>
    obtain ⟨more, next | ⟨-, follows⟩⟩ := mark_next closed mark
    · exact ih (closed.next more) next
    · exact absurd marks (by simp [noMark _ closed asks follows])
  | branch asks some within colon _ inner ih =>
    obtain ⟨more, next | ⟨-, follows⟩⟩ := mark_next closed mark
    · have middle := within.closed (closed.next more)
      obtain ⟨last, mark⟩ := mark_past middle (inner (closed.next more) next) (by simp [colon])
      exact ih last mark
    · exact absurd colon (noBranch _ _ _ closed asks follows some within)
  | bracket bracket opens within closes _ inner ih =>
    obtain ⟨next, mark⟩ := mark_past closed mark (opens ▸ opener_inner.2)
    obtain ⟨last, mark⟩ := mark_past (within.closed next) (inner next mark) (closes ▸ closer_inner.2)
    exact ih last mark
  | assign name equal _ ih =>
    obtain ⟨next, mark⟩ := mark_past closed mark (by simp [name])
    obtain ⟨last, mark⟩ := mark_past next mark (by simp [equal])
    exact ih last mark

end Marks

/-- Where a name is last, no colon is left. -/
theorem no_colon (closed : s.Closed) (name : s.kind = .identifier)
    (last : s.next.kind = .endOfInput) : s.All fun token => token.kind ≠ .colon := by
  have next := closed.next (by simp [name])
  have whole : s.rest = [s.peek, s.next.peek] := by
    rw [closed.first (by simp [name]) (by simp [name]), next.last last]
  have kinds : s.peek.kind ≠ .colon ∧ s.next.peek.kind ≠ .colon := by
    rw [Stream.kind] at name last
    simp [name, last]
  intro token member
  rw [whole] at member
  simp only [List.mem_cons, List.not_mem_nil, or_false] at member
  rcases member with rfl | rfl
  · exact kinds.1
  · exact kinds.2

/-- A name is last. -/
def NameLast (tokens : List Token) : Prop :=
  ∃ name ending, tokens = [name, ending] ∧ name.kind = .identifier ∧ ending.kind = .endOfInput

theorem endsInQuestion_iff {tokens : List Token} :
    EndsInQuestion tokens ↔ MarkBefore NameLast tokens := by
  constructor
  · rintro ⟨front, question, name, ending, rfl, asks, isName, isEnd⟩
    exact ⟨front, question, _, rfl, asks, by simp, name, ending, rfl, isName, isEnd⟩
  · rintro ⟨front, question, _, rfl, asks, -, name, ending, rfl, isName, isEnd⟩
    exact ⟨front, question, name, ending, rfl, asks, isName, isEnd⟩

theorem NameLast.kinds (last : NameLast s.next.rest) :
    s.next.kind = .identifier ∧ s.next.next.kind = .endOfInput := by
  obtain ⟨name, ending, rest, isName, isEnd⟩ := last
  have before : s.next.Before [name, ending] := ⟨rest, rfl⟩
  exact ⟨before.kind.trans isName, (before.next (by simp)).kind.trans isEnd⟩

/-- A walk does not get past a question mark and a name that are last: the mark is not one of a
nullable type, and it has no second branch. -/
theorem Walk.question (walk : Walk inside s t) (closed : s.Closed) (asks : EndsInQuestion s.rest) :
    EndsInQuestion t.rest := by
  rw [endsInQuestion_iff] at asks ⊢
  refine walk.keeps_mark closed asks (fun m _ _ last => ?_)
    (fun m n inside closed asks last _ within colon => ?_)
  · obtain ⟨name, isEnd⟩ := last.kinds
    simp [marksNullable_named name, isEnd]
  · obtain ⟨name, isEnd⟩ := last.kinds
    have second := closed.next (by simp [asks])
    have first := (within.closed second).first (by simp [colon]) (by simp [colon])
    have noColon := within.all (no_colon second name isEnd)
    exact absurd colon (noColon _ (first ▸ List.mem_cons_self))

/-- The innermost bracket around what is read, where the whole stands in parentheses or not. -/
def widen (enclosed : Bool) (inside : Option Bracket) : Option Bracket :=
  inside.or (bif enclosed then some .paren else none)

/-- A text that is read up to its end is read alike beside it, in parentheses or not. -/
theorem Reads.beside {least : Nat} {e : Expr} (read : Reads scope (.expression least inside) s e t)
    (isEnd : t.kind = .endOfInput) (twin : s.Twin enclosed s') :
    ∃ e' t', Reads scope (.expression least (widen enclosed inside)) s' e' t' ∧ Alike e e' ∧
      t'.Ends enclosed := by
  obtain ⟨behind, seam, sides, atEnd⟩ := twin.parallel
  have ends : (Stream.ofTokens behind).Ends enclosed := atEnd _ Stream.before_ofTokens
  have bridge : Bridge scope (UpTo behind) (bif enclosed then some .paren else none) := by
    refine bridge_upTo seam ?_
    cases enclosed with
    | true =>
      have closes : (Stream.ofTokens behind).peek.kind = .rightParen := ends.1
      simp [endsBefore, closes, TokenKind.isClosing, Bracket.closer]
    | false =>
      have isLast : (Stream.ofTokens behind).peek.kind = .endOfInput := ends
      simp [endsBefore, isLast]
  obtain ⟨e', t', read', alike, last⟩ := read.upTo isEnd bridge sides
  exact ⟨e', t', read', alike, atEnd t' last⟩

section Scopes

variable {params : Parameters}

private theorem pathFrom_params {readTy : Attempt Ty} (fuel : Nat) (name : String) (s : Stream) :
    pathFrom { scope with params } readTy fuel name s = pathFrom scope readTy fuel name s := by
  induction fuel generalizing name s with
  | zero => rfl
  | succ fuel ih =>
    simp only [pathFrom, ih]
    rfl

private theorem typeWithin_params (depth : Nat) :
    typeWithin { scope with params } depth = typeWithin scope depth := by
  induction depth with
  | zero => rfl
  | succ depth ih =>
    funext s
    simp only [typeWithin, ih, path, pathFrom_params]

/-- The parameters in force have no say in what names a type. -/
theorem type_params (s : Stream) : type? { scope with params } s = type? scope s := by
  simp only [type?, typeWithin_params]

end Scopes

/-- Tokens are, as a whole, the name of a type. -/
def NamesType (scope : Scope) (tokens : List Token) : Prop :=
  ∃ ty m, type? scope (Stream.ofTokens tokens) = some (ty, m) ∧ m.kind = .endOfInput

section Whole

variable {body inner : List Token} {ending opening closing last : Token}
  {declared : Option (List ParamSpec)} {parsed : Lambda} {e : Expr}

theorem beside_of_words {after : List Token} (noEnd : ∀ token ∈ body, token.kind ≠ .endOfInput)
    (words : List.Forall₂ Token.SameWord body inner) (atEnd : Beside enclosed [ending] after) :
    Beside enclosed (body ++ [ending]) (inner ++ after) := by
  induction words with
  | nil => exact atEnd
  | cons same _ ih =>
    rw [List.forall_mem_cons] at noEnd
    exact .cons same noEnd.1 (ih noEnd.2)

/-- No text that is read up to its end ends in a question mark and a name. -/
theorem not_endsInQuestion (read : Reads scope (.expression 0 inside) s e t)
    (isEnd : t.kind = .endOfInput) (closed : s.Closed) : ¬ EndsInQuestion s.rest := by
  intro asks
  obtain ⟨front, question, name, ending, parts, -⟩ := read.walked.question closed asks
  have short := congrArg List.length (parts.symm.trans ((read.walked.closed closed).last isEnd))
  simp at short

/-- A text that is read up to its end has its twin in the same words up to a parenthesis. -/
theorem twin_of_reads (beside : Beside enclosed s.rest s'.rest) (whole : s.split = false)
    (whole' : s'.split = false) (read : Reads scope (.expression 0 inside) s e t)
    (isEnd : t.kind = .endOfInput) : s.Twin enclosed s' := by
  have closed : s.Closed := ⟨Stream.ended_of_beside beside, by simp [whole]⟩
  exact ⟨beside, whole.trans whole'.symm, closed.halved,
    fun _ => not_endsInQuestion read isEnd closed⟩

/-- Where a text is read up to its end and is not the name of a type, the same words in front of a
closing parenthesis are read like it, and they are not the type of a cast. -/
theorem within_parens {behind : List Token} (seam : Seam (UpTo behind))
    (sides : Stream.Parallel (UpTo behind) s s')
    (closes : (Stream.ofTokens behind).kind = .rightParen)
    (noType : ∀ ty m, type? scope s = some (ty, m) → m.kind ≠ .endOfInput)
    (read : Reads scope (.expression 0 none) s e t) (isEnd : t.kind = .endOfInput) :
    ∃ e' m, Reads scope (.expression 0 (some .paren)) s' e' m ∧ Alike e e' ∧ m.Before behind ∧
      castTarget? scope s' = none := by
  have bridge : Bridge scope (UpTo behind) (some .paren) := by
    refine bridge_upTo seam ?_
    rw [Stream.kind] at closes
    simp [endsBefore, closes, TokenKind.isClosing, Bracket.closer]
  obtain ⟨e', m, read', alike, before⟩ := read.upTo isEnd bridge sides
  have noCast : castTarget? scope s = none := by
    cases target : castTarget? scope s with
    | none => rfl
    | some reply =>
      obtain ⟨ty, after⟩ := reply
      obtain ⟨n, walk, closes, -⟩ : ∃ n, Walk none s n ∧ n.kind = .rightParen ∧ n.next = after :=
        castTarget_walk target
      exact (walk.apart .paren closes read.walked isEnd (sides.closed seam)).elim
  exact ⟨e', m, read', alike, before, noCast_parallel seam sides noCast noType⟩

/-- Where a text is read up to its end and is not the name of a type, the same words in parentheses
are an operand like it, and the end comes next. -/
theorem group_of_twin (twin : s.Twin true s'.next) (opens : s'.kind = .leftParen)
    (noType : ∀ ty m, type? scope s = some (ty, m) → m.kind ≠ .endOfInput)
    (read : Reads scope (.expression 0 none) s e t) (isEnd : t.kind = .endOfInput) :
    ∃ e' m, Alike e e' ∧ Reads scope (.expression 0 (some .paren)) s'.next e' m ∧
      m.kind = .rightParen ∧ m.next.kind = .endOfInput ∧
      Reads scope (.expression 0 none) s' e' m.next := by
  obtain ⟨behind, seam, sides, atEnd⟩ := twin.parallel
  have closes : (Stream.ofTokens behind).kind = .rightParen := (atEnd _ Stream.before_ofTokens).1
  obtain ⟨e', m, read', alike, before, noCast⟩ :=
    within_parens seam sides closes noType read isEnd
  obtain ⟨closes, isLast⟩ : m.kind = .rightParen ∧ m.next.kind = .endOfInput := atEnd m before
  have stops : Stops 0 none m.next := by
    rw [Stream.kind] at isLast
    simp [Stops, endsBefore, isLast]
  exact ⟨e', m, alike, read', closes, isLast,
    .expression (.group opens noCast read' closes) (.done stops)⟩

/-- Parentheses around a body change nothing but places: tokens that are accepted without a header,
and are not the name of a type, are accepted in parentheses, with the same parameters and the same
tree. The words in the parentheses may stand in other places. -/
theorem lambda_parens (noEnd : ∀ token ∈ body, token.kind ≠ .endOfInput)
    (words : List.Forall₂ Token.SameWord body inner) (isEnd : ending.kind = .endOfInput)
    (opens : opening.kind = .leftParen) (closes : closing.kind = .rightParen)
    (isLast : last.kind = .endOfInput)
    (noHeader : header? scope (Stream.ofTokens (body ++ [ending])) = none)
    (noType : ¬ NamesType scope (body ++ [ending]))
    (accepted : Yields (lambda scope declared) (Stream.ofTokens (body ++ [ending])) parsed t) :
    ∃ parsed' t', Yields (lambda scope declared)
        (Stream.ofTokens (opening :: (inner ++ [closing, last]))) parsed' t' ∧
      parsed'.params = parsed.params ∧ parsed'.body.unplaced = parsed.body.unplaced := by
  obtain ⟨params, ran, ends⟩ := (headless_yields noHeader).mp accepted
  have read := expression_reads ran
  have beside := beside_of_words noEnd words (.enclosed isEnd closes isLast)
  have twin : (Stream.ofTokens (body ++ [ending])).Twin true
      (Stream.ofTokens (opening :: (inner ++ [closing, last]))).next := by
    have behind : (Stream.ofTokens (opening :: (inner ++ [closing, last]))).next.rest =
        inner ++ [closing, last] := Stream.tokensAfter_cons (by simp)
    refine twin_of_reads ?_ rfl rfl read ends
    rw [behind]
    exact beside
  have closed : (Stream.ofTokens (opening :: (inner ++ [closing, last]))).Closed :=
    ⟨.cons (by simp [opens]) (Stream.ended_of_twin beside), by simp [Stream.ofTokens]⟩
  obtain ⟨e', m, alike, within, shut, isLast, whole⟩ := group_of_twin twin opens
    (fun ty m named isEnd => noType ⟨ty, m, type_params _ ▸ named, isEnd⟩) read ends
  have noHeader' : header? scope (Stream.ofTokens (opening :: (inner ++ [closing, last]))) = none :=
    header_none within.walked opens shut isLast closed
  refine ⟨⟨parsed.params, e'⟩, m.next, ?_, rfl, alike.symm⟩
  exact (headless_yields noHeader').mpr ⟨params, whole.yields closed, isLast⟩

/-- A conditional that ends in the mark of a nullable type. -/
theorem lambda_parens_nullable :
    let scope : Scope := ⟨Registry.empty.toUniverse, ["System"], Parameters.ofInstance none⟩
    let declared := some [⟨some "b", some .bool⟩, ⟨some "x", some .object⟩]
    let place (column : Nat) : Span := ⟨column, 1, column + 1, 1⟩
    let body (start : Nat) : List Token :=
      [.word .identifier "b" (place start), .word .question "?" (place (start + 1)),
        .word .falseWord "false" (place (start + 2)), .word .colon ":" (place (start + 3)),
        .word .identifier "x" (place (start + 4)), .word .is "is" (place (start + 5)),
        .word .identifier "int" (place (start + 6)), .word .question "?" (place (start + 7))]
    let ending (column : Nat) : Token := .word .endOfInput "" (place column)
    ∃ parsed t, Yields (lambda scope declared) (Stream.ofTokens (body 0 ++ [ending 8])) parsed t ∧
      ∃ parsed' t', Yields (lambda scope declared) (Stream.ofTokens
          (.word .leftParen "(" (place 0) ::
            (body 1 ++ [.word .rightParen ")" (place 9), ending 10]))) parsed' t' ∧
        parsed'.params = parsed.params ∧ parsed'.body.unplaced = parsed.body.unplaced := by
  intro scope declared place body ending
  obtain ⟨⟨parsed, t⟩, accepted, -⟩ : ∃ reply : Lambda × Stream,
      lambda scope declared (Stream.ofTokens (body 0 ++ [ending 8])) = .ok reply ∧
        reply.1.params.list.length = 2 := exists_ok_that (by decide +kernel)
  have noHeader : header? scope (Stream.ofTokens (body 0 ++ [ending 8])) = none :=
    Option.isNone_iff_eq_none.mp (by decide +kernel)
  have named : type? scope (Stream.ofTokens (body 0 ++ [ending 8])) = none :=
    Option.isNone_iff_eq_none.mp (by decide +kernel)
  have noType : ¬ NamesType scope (body 0 ++ [ending 8]) := by
    rintro ⟨ty, m, found, -⟩
    rw [named] at found
    cases found
  have words : List.Forall₂ Token.SameWord (body 0) (body 1) := by
    repeat' constructor
  exact ⟨parsed, t, accepted,
    lambda_parens (by decide) words rfl rfl rfl rfl noHeader noType accepted⟩

end Whole

end Formula.Reader
