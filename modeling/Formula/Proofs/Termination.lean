import Formula.Proofs.TokenOrder
import Formula.Proofs.Unrolling

/-! Reading comes to an end. Whatever is read successfully leads further ahead, and so does every round
of a loop; where an attempt comes to nothing, reading goes on from where the attempt was made, without
it. So on tokens that have an end a formula is read, or it has a fault. -/
namespace Formula

namespace Reader

open Formula.Stream

section Ahead

variable {tokens : List Token} {scope : Scope} {s t : Stream}

/-- Further ahead over the same tokens. -/
def Advances (tokens : List Token) (s t : Stream) : Prop :=
  t.Reachable tokens ∧ s.reach tokens < t.reach tokens

theorem advances_of_beyond (reached : s.Reachable tokens) (reached' : t.Reachable tokens)
    (beyond : t.Beyond s) : Advances tokens s t :=
  ⟨reached', (reached.beyond_iff reached').mp beyond⟩

theorem advances_of_walk {inside : Option Bracket} (reached : s.Reachable tokens)
    (walk : Walk inside s t) (ahead : t.Within s.rest.length) : Advances tokens s t :=
  advances_of_beyond reached (walk.reachable reached) (.inl ahead.short)

/-- What is read from a stream leads further ahead, however deep it may nest. -/
structure Progress (tokens : List Token) (scope : Scope) (s : Stream) : Prop where
  token : s.kind ≠ .endOfInput → Advances tokens s s.next
  half : ∀ t, s.splitShift? = some t → Advances tokens s t
  path : ∀ depth ty t, path scope (typeWithin scope depth) s = some (ty, t) → Advances tokens s t
  type : ∀ depth ty t, typeWithin scope depth s = some (ty, t) → Advances tokens s t
  typeArgs : ∀ depth args t, typeArgs (typeWithin scope depth) s = some (args, t) → Advances tokens s t
  arguments : ∀ depth bracket args t,
    Yields (arguments (expressionWithin scope depth) bracket) s args t → Advances tokens s t
  operand : ∀ depth inside e t,
    Yields (operand scope (expressionWithin scope depth) inside) s e t → Advances tokens s t
  operator : ∀ depth left level inside e t,
    Yields (afterOperand scope (expressionWithin scope depth) left s.peek level inside) s e t →
      Advances tokens s t

theorem progress (reached : s.Reachable tokens) (live : s.Terminated) : Progress tokens scope s where
  token more := advances_of_beyond reached reached.next (.inl (live.next_shorter more))
  half _ splits := advances_of_beyond reached (reached.half splits) (half_beyond splits)
  path depth _ _ named :=
    have walks := typeWithin_walks depth
    advances_of_walk reached (path_walks walks _ _ _ none named) (path_past walks live named)
  type depth _ _ named :=
    have walks := typeWithin_walks depth
    advances_of_walk reached (walks _ _ _ none named) (typeWithin_past live named)
  typeArgs depth _ _ read :=
    have walks := typeWithin_walks depth
    advances_of_walk reached (typeArgs_walks walks _ _ _ none read) (typeArgs_past walks live read)
  arguments depth _ _ _ ran :=
    have read := arguments_reads (expressionWithin_reads depth) ran
    advances_of_walk reached (read.walked none) (arguments_past live read)
  operand depth _ _ _ ran :=
    have read := operand_reads (expressionWithin_reads depth) ran
    advances_of_walk reached read.walked (operand_past live read)
  operator depth _ _ _ _ _ ran :=
    have read := afterOperand_reads (expressionWithin_reads depth) ran
    advances_of_walk reached read.walked (operator_past live read)

end Ahead

section Loops

variable {scope : Scope} {s : Stream}

/-- Every loop comes to its answer round by round, each round further ahead than the one before it, if
it may take as many rounds as there are tokens left. -/
structure Loops (scope : Scope) (s : Stream) : Prop where
  typeArgs : ∀ depth fuel, s.rest.length ≤ fuel →
    Runs (argsRound (typeWithin scope depth)) () s (argsFrom (typeWithin scope depth) fuel s)
  path : ∀ depth fuel name, s.rest.length ≤ fuel →
    Runs (pathRound scope (typeWithin scope depth)) name s
      (pathFrom scope (typeWithin scope depth) fuel name s)
  arrays : ∀ fuel ty, s.rest.length ≤ fuel → Runs arraysRound ty s (withArrays fuel ty s)
  dotted : ∀ fuel name, s.rest.length ≤ fuel → Runs dottedRound name s (dottedFrom fuel name s)
  header : ∀ fuel, s.rest.length ≤ fuel → Runs (headerRound scope) () s (headerFrom scope fuel s)
  items : ∀ depth bracket fuel, s.rest.length ≤ fuel →
    Runs (itemsRound (expressionWithin scope depth) bracket) () s
      (itemsFrom (expressionWithin scope depth) bracket fuel s)
  operators : ∀ depth least inside fuel left, s.rest.length ≤ fuel →
    Runs (climbRound scope (expressionWithin scope depth) least inside) left s
      (climb scope (expressionWithin scope depth) least inside fuel left s)
  assignments : ∀ depth ty fuel, s.rest.length ≤ fuel →
    Runs (assignmentsRound scope (expressionWithin scope depth) ty) () s
      (assignmentsFrom scope (expressionWithin scope depth) ty fuel s)

theorem loops (live : s.Terminated) : Loops scope s where
  typeArgs depth _ := args_runs (typeWithin_walks depth) live
  path _ _ _ := path_runs live
  arrays _ _ := arrays_runs live
  dotted _ _ := dotted_runs live
  header _ := header_runs live
  items depth _ _ := items_runs (expressionWithin_reads depth) live
  operators depth _ _ _ _ := climb_runs (expressionWithin_reads depth) live
  assignments depth _ _ := assignments_runs (expressionWithin_reads depth) live

end Loops

section Rollbacks

variable {scope : Scope} {s : Stream}

/-- Where an attempt comes to nothing, reading goes on from the stream that the attempt was made at,
without it. -/
structure Rollbacks (scope : Scope) (s : Stream) : Prop where
  /-- The body begins where no header does. -/
  header : ∀ declared, header? scope s = none →
    parameters scope declared s = .ok (bindDeclared scope.params declared, s)
  /-- What is no cast is an expression in parentheses; the casts that are tried in it are tried further
  ahead. -/
  cast : ∀ sub inside, castTarget? scope s.next = none →
    group scope sub inside s = (do
      let inner ← sub 0 (some .paren)
      expect .rightParen
      return inner : Reader Expr) s.next ∧
    ∀ within t, Walk within s.next t → t.kind = .leftParen → t.next.Beyond s.next
  type : type? scope s = none → expectType scope s =
    (if s.kind = .identifier then unknownType
      else fail (.grammar (.expectedType s.peek.description)) s.peek.span) s
  path : ∀ sub, typePath? scope s = none → staticAccess scope sub s = unknownType s
  /-- A name without arguments names a type, or else the path goes on behind it, further ahead. -/
  generic : ∀ readTy again name, generic? scope readTy name s = none →
    pathRound scope readTy again name s = nameRound scope again name s

section Attempts

variable {α β : Type} {read : Attempt α}

/-- What is behind an attempt that comes to nothing is read from where the attempt was made. -/
theorem attempt_none {next : Option α → Reader β} (nothing : read s = none) :
    (attempt read >>= next) s = next none s := by
  simp only [bind, StateT.bind, Except.bind, attempt, nothing]

variable {next : Token → Option α → Reader β}

theorem peek_attempt_none (nothing : read s = none) :
    (peek >>= fun token => attempt read >>= next token) s = next s.peek none s :=
  attempt_none nothing

theorem advance_attempt_none (nothing : read s.next = none) :
    (advance >>= fun token => attempt read >>= next token) s = next s.peek none s.next :=
  attempt_none nothing

end Attempts

theorem rollbacks (live : s.Terminated) : Rollbacks scope s where
  header _ nothing := by
    unfold parameters
    exact peek_attempt_none nothing
  cast sub inside nothing := by
    constructor
    · unfold group
      exact advance_attempt_none nothing
    · intro within t walk again
      exact .inl (walk.onward.behind live.next (by simp [again])).short
  type nothing := by
    unfold expectType
    exact peek_attempt_none nothing
  path sub nothing := by
    unfold staticAccess
    exact peek_attempt_none nothing
  generic readTy again name nothing := by rw [pathRound, nothing]

end Rollbacks

section Nesting

variable {scope : Scope} {s : Stream}

/-- Types and expressions are read as if they might nest as deep as there are tokens left, and whatever
is answered where they would nest deeper. -/
structure Unrolls (scope : Scope) (s : Stream) : Prop where
  types : ∀ base n, s.rest.length ≤ n → (typeStep scope)^[n] base s = type? scope s
  paths : ∀ base n, s.rest.length ≤ n →
    path scope ((typeStep scope)^[n] base) s = typePath? scope s
  expressions : ∀ base least inside n, s.rest.length ≤ n →
    (expressionStep scope)^[n] base least inside s = expression scope least inside s

theorem unrolls (live : s.Terminated) : Unrolls scope s where
  types base _ reaches :=
    typeWithin_unrolls base reaches (Nat.le_succ _) s ⟨live, Nat.lt_succ_self _⟩
  paths base _ reaches :=
    path_same (typeWithin_walks _) (typeWithin_unrolls base reaches (Nat.le_succ _)) s
      ⟨live, by omega⟩
  expressions base _ _ _ reaches :=
    ((expressionWithin_unrolls base reaches (Nat.le_succ _)).alike _ _ s
      ⟨live, Nat.lt_succ_self _⟩).1

end Nesting

section Formulas

variable {scope : Scope} {declared : Option (List ParamSpec)} {s t : Stream}

theorem expression_settled {least : Nat} {inside : Option Bracket} (live : s.Terminated) :
    Settled (expression scope least inside s) := by
  let base : Sub := fun _ _ => exhausted
  have subs : SubAlike scope _ _ _ :=
    expressionWithin_unrolls base (Nat.le_refl _) (Nat.le_succ s.rest.length)
  obtain ⟨same, settled⟩ := subs.alike least inside s ⟨live, Nat.lt_succ_self _⟩
  rw [same] at settled
  exact settled

theorem bindFrom_settled {params : Parameters} {earlier : List String} {header : List HeaderParam}
    {specs : List ParamSpec} : Settled (bindFrom params earlier header specs) := by
  induction header generalizing params earlier specs with
  | nil => trivial
  | cons param header ih =>
    unfold bindFrom
    simp only
    split
    case isTrue => simp [Settled]
    case isFalse =>
      split
      case h_1 =>
        split
        case isTrue => exact ih
        case isFalse => simp [Settled]
      case h_2 | h_3 | h_4 => exact ih

theorem bindHeader_settled {params : Parameters} {header : List HeaderParam} {span : Span} :
    Settled (bindHeader params header declared span) := by
  unfold bindHeader
  split
  case h_1 => exact bindFrom_settled
  case h_2 =>
    split
    case isTrue => exact bindFrom_settled
    case isFalse => simp [Settled]

theorem parameters_onward {params : Parameters} (ran : Yields (parameters scope declared) s params t) :
    s.Onward t := by
  simp only [parameters, peek_then] at ran
  obtain ⟨header, m, read, ran⟩ | ⟨-, ran⟩ := attempt_then.mp ran
  · obtain ⟨-, rfl⟩ := ofExcept_yields.mp (spanFrom_then.mp ran)
    obtain ⟨name, arrow, rfl⟩ | ⟨opens, m, walk, closes, arrow, rfl⟩ := header_walk read
    · exact (onward_next (by simp [name])).trans (onward_next (by simp [arrow]))
    · exact (onward_next (by simp [opens])).trans <| walk.onward.trans <|
        (onward_next (by simp [closes])).trans (onward_next (by simp [arrow]))
  · obtain ⟨-, rfl⟩ := pure_yields.mp ran
    exact .refl

theorem lambda_settled (live : s.Terminated) : Settled (lambda scope declared s) := by
  have bound : Alike (parameters scope declared) (parameters scope declared) s :=
    peek_alike.mpr <| attempt_alike
      (fun _ _ _ => spanFrom_alike.mpr (ofExcept_alike bindHeader_settled)) pure_alike
  have whole : Alike (lambda scope declared) (lambda scope declared) s := by
    refine bind_alike bound fun params m came => ?_
    obtain ⟨middle, -⟩ := parameters_onward came live
    refine bind_alike ⟨rfl, expression_settled middle⟩ fun body n _ => peek_alike.mpr ?_
    split
    case isTrue => exact pure_alike
    case isFalse => exact fail_alike (by simp)
  exact whole.2

/-- Over tokens that end with an end of input, what is read from any stream that is come to leads
further ahead, and every loop does so round by round; behind an attempt that comes to nothing reading
goes on from where it was made, without it; and what is read inside a reading nests no deeper than there
are tokens. So a formula is read or it has a fault, and never that of steps that have run out. -/
theorem lambda_terminates {tokens : List Token} (ends : EndsInput tokens) (scope : Scope)
    (declared : Option (List ParamSpec)) :
    WellFounded Stream.Beyond ∧
    (∀ (inForce : Scope) (s : Stream), s.Reachable tokens →
      Progress tokens inForce s ∧ Loops inForce s ∧ Rollbacks inForce s ∧ Unrolls inForce s) ∧
    ((∃ parsed t, Yields (lambda scope declared) (ofTokens tokens) parsed t) ∨
      ∃ error, lambda scope declared (ofTokens tokens) = .error error ∧
        error.fault ≠ .grammar .tooDeep) := by
  refine ⟨beyond_wf, fun inForce s reached => ?_, ?_⟩
  · have live := reached.terminated ends
    exact ⟨progress reached live, loops live, rollbacks live, unrolls live⟩
  · have settled : Settled (lambda scope declared (ofTokens tokens)) :=
      lambda_settled (terminated_ofTokens ends)
    cases ran : lambda scope declared (ofTokens tokens) with
    | ok reply => exact .inl ⟨reply.1, reply.2, ran⟩
    | error error =>
      rw [ran] at settled
      exact .inr ⟨error, rfl, settled⟩

/-- Tokens that end with a shift of which the first half has closed a generic type. -/
theorem lambda_terminates_shift :
    let registry := (Registry.empty.register (Registry.empty.newClass "Box`1")).2
    let scope : Scope := ⟨registry.toUniverse, [], Parameters.ofInstance none⟩
    let place (column : Nat) : Span := ⟨column, 1, column + 1, 1⟩
    let tokens : List Token :=
      [.word .typeOf "typeof" (place 0), .word .leftParen "(" (place 6),
        .word .identifier "Box" (place 7), .word .less "<" (place 10),
        .word .identifier "int" (place 11), .word .greaterGreater ">>" (place 14),
        .word .endOfInput "" (place 16)]
    EndsInput tokens ∧
      (∀ s : Stream, s.Reachable tokens →
        Progress tokens scope s ∧ Loops scope s ∧ Rollbacks scope s ∧ Unrolls scope s) ∧
      ∃ error, lambda scope none (ofTokens tokens) = .error error ∧
        error.fault = .grammar (.expected ")" ">") := by
  intro registry scope place tokens
  have ends : EndsInput tokens := rfl
  exact ⟨ends, (lambda_terminates ends scope none).2.1 scope, _, rfl, rfl⟩

end Formulas

end Reader

/-- No source is too deep to be read. -/
theorem Lambda.parse_ne_tooDeep {world : Universe} {namespaces : List String}
    {declared : Option (List ParamSpec)} {receiver : Option Ty} {source : String}
    {error : CompileError}
    (refused : Lambda.parse world namespaces declared receiver source = .error error) :
    error.fault ≠ .grammar .tooDeep := by
  obtain ⟨fault, lexed, rfl⟩ | ⟨tokens, lexed, ran⟩ := Lambda.parse_refused refused
  · simp [CompileError.ofLexError]
  · have settled : Reader.Settled (Reader.lambda ⟨world, namespaces, .ofInstance receiver⟩ declared
        (Stream.ofTokens tokens)) :=
      Reader.lambda_settled (Stream.terminated_ofTokens (Token.tokenize_tiled lexed).ended.endsInput)
    rw [ran] at settled
    exact settled

end Formula
