import Formula.Proofs.GrammarComplete
import Formula.Proofs.Sketch
import Formula.Proofs.Typing

/-! What is written of a formula is read as that formula. The text of a sketch is read token by token;
no token in it belongs to a type or a header, so every parenthesis opens a group. An operand is
followed by operators, and the levels of the operators decide where each of them is taken: the main
step says of a sketch, wherever it stands, that reading an expression from its first token comes to
reading the operators behind its last. -/
namespace Formula
namespace Reader

/-- The tokens from one point of reading to another are lexemes, one by one. -/
inductive Spells : Stream → List Lexeme → Stream → Prop where
  | nil : Spells s [] s
  | cons {lexeme : Lexeme} {lexemes : List Lexeme} (first : lexeme.Matches s.peek)
      (rest : Spells s.next lexemes t) : Spells s (lexeme :: lexemes) t

/-- A token that is part of no name of a type and of no header. -/
def Nameless (scope : Scope) (token : Token) : Prop :=
  token.kind ≠ .dot ∧ token.kind ≠ .fatArrow ∧
    (token.kind = .identifier → scope.resolveName token.lexeme = none)

section Nameless

variable {scope : Scope} {s t : Stream}

theorem nameless_made (kind : TokenKind) (lexeme : String) (span : Span)
    (made : kind = .endOfInput ∨ kind = .greater) : Nameless scope (.word kind lexeme span) := by
  rcases made with rfl | rfl <;> simp [Nameless, Token.word]

theorem nameless_peek (nameless : s.All (Nameless scope)) : Nameless scope s.peek :=
  nameless.peek nameless_made

theorem generic_nameless {readTy : Attempt Ty} {name : String}
    (noType : ∀ s, s.All (Nameless scope) → readTy s = none) (nameless : s.All (Nameless scope)) :
    generic? scope readTy name s = none := by
  cases ate : s.eat? .less with
  | none => simp [generic?, typeArgs, ate]
  | some after =>
    obtain ⟨-, rfl⟩ := Stream.eat_eq.mp ate
    have noArgs : ∀ fuel, argsFrom readTy fuel s.next = none := by
      intro fuel
      cases fuel with
      | zero => rfl
      | succ fuel => simp [argsFrom, noType _ nameless.next]
    simp [generic?, typeArgs, ate, noArgs]

theorem typeWithin_nameless (depth : Nat) (s : Stream) (nameless : s.All (Nameless scope)) :
    typeWithin scope depth s = none := by
  induction depth generalizing s with
  | zero => rfl
  | succ depth ih =>
    have noPath : path scope (typeWithin scope depth) s = none := by
      unfold path
      split
      case isFalse => rfl
      case isTrue name =>
        have noName := (nameless_peek nameless).2.2 name
        have noDot : s.next.kind ≠ .dot := (nameless_peek nameless.next).1
        simp [pathFrom, generic_nameless ih nameless.next, noName, noDot]
    simp [typeWithin, noPath]

theorem castTarget_nameless (nameless : s.All (Nameless scope)) : castTarget? scope s = none := by
  simp [castTarget?, type?, typeWithin_nameless _ s nameless]

theorem header_nameless (nameless : s.All (Nameless scope)) : header? scope s = none := by
  cases read : header? scope s with
  | none => rfl
  | some found =>
    obtain ⟨header, after⟩ := found
    obtain ⟨-, arrow, -⟩ | ⟨-, m, walk, -, arrow, -⟩ := header_walk read
    · exact absurd arrow (nameless_peek nameless.next).2.1
    · exact absurd arrow (nameless_peek (walk.all nameless.next).next).2.1

end Nameless

section Spelling

variable {s m t : Stream} {lexemes others : List Lexeme}

theorem Spells.append (spells : Spells s (lexemes ++ others) t) :
    ∃ m, Spells s lexemes m ∧ Spells m others t := by
  induction lexemes generalizing s with
  | nil => exact ⟨s, .nil, spells⟩
  | cons lexeme lexemes ih =>
    cases spells with
    | cons first rest =>
      obtain ⟨m, head, tail⟩ := ih rest
      exact ⟨m, .cons first head, tail⟩

theorem Spells.all {p : Token → Prop} (spells : Spells s lexemes t) (all : s.All p) : t.All p := by
  induction spells with
  | nil => exact all
  | cons _ _ ih => exact ih all.next

theorem Spells.symbol {kind : TokenKind} (spells : Spells s (.symbol kind :: lexemes) t) :
    s.kind = kind ∧ Spells s.next lexemes t := by
  cases spells with
  | cons first rest => exact ⟨first.1, rest⟩

/-- The stream of tokens that are read as lexemes is spelled by them up to its end. -/
theorem spells_tokens {tokens : List Token} {ending : Token} {previous : Span}
    (spell : List.Forall₂ Lexeme.Matches lexemes tokens) :
    ∃ t : Stream, Spells ⟨tokens ++ [ending], false, previous⟩ lexemes t ∧ t.peek = ending := by
  induction spell generalizing previous with
  | nil => exact ⟨_, .nil, rfl⟩
  | @cons lexeme token lexemes tokens first _ ih =>
    obtain ⟨t, rest, isEnd⟩ := @ih token.span
    refine ⟨t, .cons first ?_, isEnd⟩
    have after : Stream.next ⟨token :: tokens ++ [ending], false, previous⟩
        = ⟨tokens ++ [ending], false, token.span⟩ := by
      cases tokens <;> rfl
    rw [after]
    exact rest

end Spelling

variable {scope : Scope} {s m t : Stream} {inside : Option Bracket} {least level : Nat}
  {sketch : Sketch} {ty : Ty}

theorem Stops.mono (stops : Stops least inside t) (looser : least ≤ level) :
    Stops level inside t := by
  rcases stops with ends | ⟨goesOn, bound⟩
  · exact .inl ends
  · exact .inr ⟨goesOn, fun found next => Nat.le_trans (bound found next) looser⟩

/-- Nothing ends before an operator. -/
theorem endsBefore_operator {token : Token}
    (binds : Precedence.afterOperand? token.kind = some level) :
    endsBefore token inside = .ok false := by
  unfold endsBefore
  cases kind : token.kind <;> rw [kind] at binds <;>
    first
    | rfl
    | cases binds

theorem stops_before (binds : Precedence.afterOperand? t.kind = some level)
    (looser : level ≤ least) : Stops least inside t := by
  refine .inr ⟨endsBefore_operator binds, fun found next => ?_⟩
  rw [binds] at next
  cases next
  exact looser

theorem goesOn_with (binds : Precedence.afterOperand? t.kind = some level) (tighter : least < level) :
    GoesOn least inside t level := ⟨endsBefore_operator binds, binds, tighter⟩

/-- Reading an expression comes to reading the operators behind a formula. -/
def Leads (scope : Scope) (least : Nat) (inside : Option Bracket) (s : Stream) (sketch : Sketch)
    (ty : Ty) (t : Stream) : Prop :=
  ∃ left, left.sketch? scope.params = some sketch ∧ left.ty = ty ∧
    ∀ e u, Reads scope (.operators least inside left) t e u →
      Reads scope (.expression least inside) s e u

/-- An expression that nothing goes on with is the formula. -/
theorem Leads.whole (leads : Leads scope least inside s sketch ty t) (stops : Stops least inside t) :
    ∃ e, e.sketch? scope.params = some sketch ∧ e.ty = ty ∧
      Reads scope (.expression least inside) s e t := by
  obtain ⟨left, sketched, typed, behind⟩ := leads
  exact ⟨left, sketched, typed, behind left t (.done stops)⟩

theorem leads_operand {e : Expr} (read : Reads scope (.operand inside) s e t)
    (sketched : e.sketch? scope.params = some sketch) (typed : e.ty = ty) :
    Leads scope least inside s sketch ty t :=
  ⟨e, sketched, typed, fun _ _ more => .expression read more⟩

theorem leads_operator {left folded : Expr}
    (behind : ∀ e u, Reads scope (.operators least inside left) m e u →
      Reads scope (.expression least inside) s e u) (goesOn : GoesOn least inside m level)
    (read : Reads scope (.operator level inside left) m folded t)
    (sketched : folded.sketch? scope.params = some sketch) (typed : folded.ty = ty) :
    Leads scope least inside s sketch ty t :=
  ⟨folded, sketched, typed, fun e u more => behind e u (.more goesOn read more)⟩

/-- A formula is read wherever it is written without parentheses. -/
def Readable (scope : Scope) (sketch : Sketch) : Prop :=
  ∀ {s t : Stream} {least : Nat} {inside : Option Bracket} {ty : Ty},
    sketch.type? scope.world scope.params = some ty → Spells s sketch.lexemes t →
    s.All (Nameless scope) → least < Precedence.assignment ∨ least < sketch.binds →
    Stops sketch.reach inside t → Leads scope least inside s sketch ty t

theorem Readable.wrapped {needed : Bool} (readable : Readable scope sketch)
    (typed : sketch.type? scope.world scope.params = some ty)
    (spells : Spells s (Sketch.wrapped needed sketch.lexemes) t) (nameless : s.All (Nameless scope))
    (fits : needed = false → least < Precedence.assignment ∨ least < sketch.binds)
    (stops : needed = false → Stops sketch.reach inside t) :
    Leads scope least inside s sketch ty t := by
  cases needed with
  | false => exact readable typed spells nameless (fits rfl) (stops rfl)
  | true =>
    obtain ⟨opens, spells⟩ := spells.symbol
    obtain ⟨m, within, spells⟩ := spells.append
    obtain ⟨closes, spells⟩ := spells.symbol
    cases spells
    have ends : ∀ level, Stops level (some .paren) m := by
      intro level
      left
      rw [Stream.kind] at closes
      simp [endsBefore, closes, TokenKind.isClosing, Bracket.closer]
    obtain ⟨e, sketched, isType, read⟩ :=
      (readable typed within nameless.next (.inl (by decide)) (ends _)).whole (ends 0)
    exact leads_operand (.group opens (castTarget_nameless nameless.next) read closes) sketched isType

section Nodes

variable {scope : Scope} {left right test yes no : Sketch}

theorem unary_readable {op : UnaryOp} (operand : Readable scope left) :
    Readable scope (.unary op left) := by
  intro s t least inside ty typed spells nameless _ stops
  simp only [Sketch.type?, Option.bind_eq_bind, Option.bind_eq_some_iff, Option.ite_none_right_eq_some,
    Option.some.injEq] at typed
  obtain ⟨ty, operandTyped, applies, rfl⟩ := typed
  obtain ⟨sign, spells⟩ := spells.symbol
  have leads : Leads scope Precedence.unary inside s.next left ty t := by
    refine operand.wrapped operandTyped spells nameless.next ?_ ?_
    · intro tight
      exact .inr (by simpa using tight)
    · intro tight
      have tight : Precedence.unary < left.binds := by simpa using tight
      exact stops.mono (Sketch.le_reach tight)
  obtain ⟨e, sketched, rfl, read⟩ := leads.whole stops
  have signed : isSign s.kind := by
    rw [sign]
    cases op <;> rfl
  rw [Stream.kind] at sign
  have built : Expr.applySign s.peek e = .ok (.unary ⟨e.ty, s.peek.span.join e.span⟩ op e) := by
    simp [Expr.applySign, sign, applies]
  exact leads_operand (.sign signed read built) (by simp [Expr.sketch?, sketched]) rfl

theorem binary_readable {op : BinaryOp} (first : Readable scope left)
    (second : Readable scope right) : Readable scope (.binary op left right) := by
  intro s t least inside ty typed spells nameless fits stops
  simp only [Sketch.type?, Option.bind_eq_bind, Option.bind_eq_some_iff] at typed
  obtain ⟨leftTy, leftTyped, rightTy, rightTyped, typed⟩ := typed
  obtain ⟨m, spells, rest⟩ := spells.append
  obtain ⟨sign, rest⟩ := rest.symbol
  have binds : Precedence.afterOperand? m.kind = some op.level := by rw [sign, op.level_eq]
  have bounds := op.level_bounds
  have tighter : least < op.level := by
    rcases fits with low | tight
    · omega
    · exact tight
  have leads : Leads scope least inside s left leftTy m := by
    refine first.wrapped leftTyped spells nameless ?_ ?_ <;> intro tight <;>
      simp only [decide_eq_false_iff_not, Nat.not_lt] at tight
    · exact .inr (by omega)
    · exact stops_before binds (Sketch.operator_le_reach bounds.1 bounds.2 tight)
  have follows : Leads scope op.level inside m.next right rightTy t := by
    refine second.wrapped rightTyped rest (spells.all nameless).next ?_ ?_ <;> intro tight <;>
      simp only [decide_eq_false_iff_not, Nat.not_le] at tight
    · exact .inr tight
    · exact stops.mono (Sketch.le_reach tight)
  obtain ⟨l, leftSketch, rfl, behind⟩ := leads
  obtain ⟨r, rightSketch, rfl, read⟩ := follows.whole stops
  obtain ⟨e, built, isType, sketched⟩ :=
    Expr.applyOperator_sketch m.peek.span leftSketch rightSketch typed
  have sign : BinaryOp.ofToken? m.kind = some op := by rw [sign, op.ofToken_token]
  exact leads_operator behind (goesOn_with binds tighter) (.binary sign read built) sketched isType

theorem conditional_readable (asked : Readable scope test) (first : Readable scope yes)
    (second : Readable scope no) : Readable scope (.conditional test yes no) := by
  intro s t least inside ty typed spells nameless fits stops
  simp only [Sketch.type?, Option.bind_eq_bind, Option.bind_eq_some_iff,
    Option.ite_none_right_eq_some] at typed
  obtain ⟨testTy, testTyped, yesTy, yesTyped, noTy, noTyped, truth, typed⟩ := typed
  obtain ⟨m, spells, rest⟩ := spells.append
  obtain ⟨asks, rest⟩ := rest.symbol
  obtain ⟨n, between, rest⟩ := rest.append
  obtain ⟨colon, rest⟩ := rest.symbol
  have nameless' := (spells.all nameless).next
  have binds : Precedence.afterOperand? m.kind = some Precedence.logical := by rw [asks]; rfl
  have low : least < Precedence.assignment := by
    rcases fits with low | tight
    · exact low
    · exact Nat.lt_of_lt_of_le tight (Nat.sub_le _ _)
  have leads : Leads scope least inside s test testTy m := by
    refine asked.wrapped testTyped spells nameless (fun _ => .inl low) fun tight => ?_
    simp only [decide_eq_false_iff_not, Nat.not_le] at tight
    exact stops_before binds (Sketch.operator_le_reach (by decide) (by decide) tight)
  have ends : ∀ level, Stops level inside n := by
    intro level
    rw [Stream.kind] at colon
    simp [Stops, endsBefore, colon, TokenKind.isClosing]
  have branch : Leads scope 0 inside m.next yes yesTy n :=
    first yesTyped between nameless' (.inl (by decide)) (ends _)
  have other : Leads scope (Precedence.assignment - 1) inside n.next no noTy t :=
    second noTyped rest (between.all nameless').next (.inl (by decide))
      (stops.mono no.ending_le_reach)
  obtain ⟨e, testSketch, rfl, behind⟩ := leads
  obtain ⟨y, yesSketch, rfl, readYes⟩ := branch.whole (ends 0)
  obtain ⟨z, noSketch, rfl, readNo⟩ := other.whole stops
  have built : Expr.choose scope.world e y z =
      .ok (.conditional ⟨ty, e.span.join z.span⟩ e (y.castTo ty) (z.castTo ty)) := by
    simp [Expr.choose, typed]
  have goesOn : GoesOn least inside m Precedence.logical :=
    goesOn_with binds (Nat.lt_trans low (by decide))
  refine leads_operator behind goesOn (.conditional asks truth readYes colon readNo built) ?_ rfl
  simp [Expr.sketch?, testSketch, yesSketch, noSketch]

theorem coalesce_readable (first : Readable scope left) (second : Readable scope right) :
    Readable scope (.coalesce left right) := by
  intro s t least inside ty typed spells nameless fits stops
  simp only [Sketch.type?, Option.bind_eq_bind, Option.bind_eq_some_iff,
    Option.ite_none_right_eq_some] at typed
  obtain ⟨leftTy, leftTyped, rightTy, rightTyped, nullable, typed⟩ := typed
  obtain ⟨m, spells, rest⟩ := spells.append
  obtain ⟨asks, rest⟩ := rest.symbol
  have binds : Precedence.afterOperand? m.kind = some Precedence.assignment := by rw [asks]; rfl
  have low : least < Precedence.assignment := by
    rcases fits with low | tight
    · exact low
    · exact tight
  have leads : Leads scope least inside s left leftTy m := by
    refine first.wrapped leftTyped spells nameless (fun _ => .inl low) fun tight => ?_
    simp only [decide_eq_false_iff_not, Nat.not_le] at tight
    exact stops_before binds (Sketch.le_reach tight)
  have follows : Leads scope (Precedence.assignment - 1) inside m.next right rightTy t :=
    second rightTyped rest (spells.all nameless).next (.inl (by decide))
      (stops.mono right.ending_le_reach)
  obtain ⟨l, leftSketch, rfl, behind⟩ := leads
  obtain ⟨r, rightSketch, rfl, read⟩ := follows.whole stops
  have built : Expr.coalesceWith scope.world l r m.peek.span =
      .ok (.coalesce ⟨ty, l.span.join r.span⟩ l (r.castTo ty)) := by
    simp [Expr.coalesceWith, nullable, typed]
  refine leads_operator behind (goesOn_with binds low) (.coalesce asks read built) ?_ rfl
  simp [Expr.sketch?, leftSketch, rightSketch]

/-- A formula of one token is read as what the token stands for. -/
theorem leaf_readable {sketch : Sketch} {lexeme : Lexeme} (spelled : sketch.lexemes = [lexeme])
    (read : ∀ {s : Stream} {inside ty}, sketch.type? scope.world scope.params = some ty →
      lexeme.Matches s.peek → ∃ e : Expr, Reads scope (.operand inside) s e s.next ∧
        e.sketch? scope.params = some sketch ∧ e.ty = ty) : Readable scope sketch := by
  intro s t least inside ty typed spells _ _ _
  rw [spelled] at spells
  cases spells with
  | cons first rest =>
    cases rest
    obtain ⟨e, operand, sketched, isType⟩ := read typed first
    exact leads_operand operand sketched isType

theorem sketch_readable (sketch : Sketch) : Readable scope sketch := by
  induction sketch with
  | name text =>
    refine leaf_readable rfl fun {s inside ty} typed first => ?_
    obtain ⟨param, found, rfl⟩ := Option.map_eq_some_iff.mp typed
    obtain ⟨kind, lexeme, -⟩ := first
    have same : param.name = text := by simpa using List.find?_some found
    have lexeme : s.peek.lexeme = text := by simpa [Lexeme.chars] using lexeme
    refine ⟨_, .parameter kind (lexeme ▸ found), ?_, rfl⟩
    obtain ⟨name, ty, ordinal⟩ := param
    subst same
    simp [parameterNode, Expr.sketch?, found]
  | integer kind word =>
    refine leaf_readable rfl fun {s inside ty} typed first => ?_
    obtain ⟨isNumber, -, number⟩ := first
    have constant : constant? s.peek = some (.integer kind word, (Value.integer kind word).ty) := by
      simp [constant?, isNumber, number, Lexeme.kind, Lexeme.number]
    cases typed
    exact ⟨_, .literal constant, rfl, rfl⟩
  | bool value =>
    refine leaf_readable rfl fun {s inside ty} typed first => ?_
    obtain ⟨keyword, -, -⟩ := first
    have constant : constant? s.peek = some (.bool value, .bool) := by
      cases value <;> simp [constant?, keyword, Lexeme.kind]
    cases typed
    exact ⟨_, .literal constant, rfl, rfl⟩
  | unary op operand ih => exact unary_readable ih
  | binary op left right ihLeft ihRight => exact binary_readable ihLeft ihRight
  | conditional test yes no ihTest ihYes ihNo => exact conditional_readable ihTest ihYes ihNo
  | coalesce left right ihLeft ihRight => exact coalesce_readable ihLeft ihRight

end Nodes

section Tokens

variable {scope : Scope} {sketch : Sketch} {token : Token}

theorem symbol_nameless {kind : TokenKind} (listed : kind ∈ Sketch.symbols)
    (first : (Lexeme.symbol kind).Matches token) :
    Nameless scope token ∧ token.kind ≠ .endOfInput := by
  have known : ∀ kind ∈ Sketch.symbols,
      kind ≠ .dot ∧ kind ≠ .fatArrow ∧ kind ≠ .identifier ∧ kind ≠ .endOfInput := by decide
  obtain ⟨noDot, noArrow, noName, noEnd⟩ := known kind listed
  have same : token.kind = kind := first.1
  simp [Nameless, same, noDot, noArrow, noName, noEnd]

theorem leaf_nameless {leaf : Lexeme}
    (noType : ∀ name ∈ sketch.names, scope.resolveName name = none)
    (member : leaf ∈ sketch.leaves) (first : leaf.Matches token) :
    Nameless scope token ∧ token.kind ≠ .endOfInput := by
  obtain ⟨kind, lexeme, -⟩ := first
  cases leaf with
  | name text =>
    have lexeme : token.lexeme = text := by simpa [Lexeme.chars] using lexeme
    have noName := noType text (List.mem_filterMap.mpr ⟨_, member, rfl⟩)
    rw [← lexeme] at noName
    simp [Nameless, kind, Lexeme.kind, noName]
  | integer => simp [Nameless, kind, Lexeme.kind]
  | bool value => cases value <;> simp [Nameless, kind, Lexeme.kind]
  | symbol => exact absurd member sketch.symbol_notMem_leaves

/-- What holds of lexemes holds of the tokens that are read as them. -/
theorem forall_tokens {lexemes : List Lexeme} {tokens : List Token} {p : Token → Prop}
    (spell : List.Forall₂ Lexeme.Matches lexemes tokens)
    (all : ∀ lexeme ∈ lexemes, ∀ token, lexeme.Matches token → p token) :
    ∀ token ∈ tokens, p token := by
  induction spell with
  | nil => exact List.forall_mem_nil _
  | cons first _ ih =>
    have ⟨head, others⟩ := List.forall_mem_cons.mp all
    exact List.forall_mem_cons.mpr ⟨head _ first, ih others⟩

end Tokens
/-- A header begins with a name or a parenthesis. -/
theorem header_begins {scope : Scope} {s : Stream} (noName : s.kind ≠ .identifier)
    (noParen : s.kind ≠ .leftParen) : header? scope s = none := by
  cases found : header? scope s with
  | none => rfl
  | some header =>
    obtain ⟨name, -⟩ | ⟨opens, -⟩ := header_walk found
    · exact absurd name noName
    · exact absurd opens noParen

end Reader

namespace Lambda

variable {world : Universe} {namespaces : List String} {declared : Option (List ParamSpec)}
  {receiver : Option Ty} {params : Parameters} {sketch : Sketch} {ty : Ty}

/-- A source without a header is read as what its tokens have a derivation of up to the end. -/
theorem parse_headless_iff {source : String} {tokens : List Token} {lambda : Lambda}
    (lexed : tokensOf source = .ok tokens) (closed : (Stream.ofTokens tokens).Closed)
    (noHeader : Reader.header? ⟨world, namespaces, .ofInstance receiver⟩ (Stream.ofTokens tokens)
      = none) :
    Lambda.parse world namespaces declared receiver source = .ok lambda ↔
      Reader.bindDeclared (.ofInstance receiver) declared = lambda.params ∧
        ∃ t, Reader.Reads ⟨world, namespaces, lambda.params⟩ (.expression 0 none)
          (Stream.ofTokens tokens) lambda.body t ∧ t.kind = .endOfInput := by
  constructor
  · intro parsed
    obtain ⟨tokens', found, parsed⟩ := except_then.mp parsed
    obtain rfl : tokens = tokens' := Except.ok.inj (lexed.symm.trans found)
    obtain ⟨⟨read, t⟩, ran, same⟩ := except_then.mp parsed
    cases same
    obtain ⟨inForce, ran, ends⟩ := (Reader.headless_yields noHeader).mp ran
    exact ⟨inForce, t, Reader.expression_reads ran, ends⟩
  · rintro ⟨inForce, t, read, ends⟩
    have ran : Reader.Yields (Reader.lambda ⟨world, namespaces, .ofInstance receiver⟩ declared)
        (Stream.ofTokens tokens) lambda t :=
      (Reader.headless_yields noHeader).mpr ⟨inForce, read.yields closed, ends⟩
    exact except_then.mpr ⟨_, lexed, except_then.mpr ⟨_, ran, rfl⟩⟩

/-- A source without a header is read if its tokens have a derivation up to the end. -/
theorem parse_headless {source : String} {tokens : List Token} {body : Expr} {t : Stream}
    (lexed : tokensOf source = .ok tokens) (closed : (Stream.ofTokens tokens).Closed)
    (noHeader : Reader.header? ⟨world, namespaces, .ofInstance receiver⟩ (Stream.ofTokens tokens)
      = none) (inForce : Reader.bindDeclared (.ofInstance receiver) declared = params)
    (read : Reader.Reads ⟨world, namespaces, params⟩ (.expression 0 none) (Stream.ofTokens tokens)
      body t) (ends : t.kind = .endOfInput) :
    Lambda.parse world namespaces declared receiver source = .ok ⟨params, body⟩ :=
  (parse_headless_iff lexed closed noHeader).mpr ⟨inForce, t, read, ends⟩

/-- A source is read as an operand if that has a derivation up to the end and begins with neither a
name nor a parenthesis, as headers do. -/
theorem parse_operand {source : String} {tokens : List Token} {body : Expr} {t : Stream}
    (lexed : tokensOf source = .ok tokens) (closed : (Stream.ofTokens tokens).Closed)
    (noName : (Stream.ofTokens tokens).kind ≠ .identifier)
    (noParen : (Stream.ofTokens tokens).kind ≠ .leftParen)
    (read : Reader.Reads ⟨world, namespaces, Reader.bindDeclared (.ofInstance receiver) declared⟩
      (.operand none) (Stream.ofTokens tokens) body t) (ends : t.kind = .endOfInput) :
    Lambda.parse world namespaces declared receiver source
      = .ok ⟨Reader.bindDeclared (.ofInstance receiver) declared, body⟩ := by
  have stops : Reader.Stops 0 none t := by
    rw [Stream.kind] at ends
    exact .inl (by simp [Reader.endsBefore, ends])
  exact parse_headless lexed closed (Reader.header_begins noName noParen) rfl
    (.expression read (.done stops)) ends

/-- What is written of a formula is read as that formula: for every formula of names, literals and
operators that has a type, the text with parentheses only where the levels of its operators call for
them is read back, with the type and, conversions and places aside, the tree of the formula. -/
theorem parse_text (inForce : Reader.bindDeclared (.ofInstance receiver) declared = params)
    (typed : sketch.type? world params = some ty)
    (writable : ∀ leaf ∈ sketch.leaves, leaf.Writable)
    (noType : ∀ name ∈ sketch.names, Scope.resolveName ⟨world, namespaces, params⟩ name = none) :
    ∃ body, Lambda.parse world namespaces declared receiver sketch.text = .ok ⟨params, body⟩ ∧
      body.sketch? params = some sketch ∧ body.ty = ty := by
  have listed : ∀ kind ∈ Sketch.symbols, kind ∈ TokenKind.symbols := by decide
  obtain ⟨tokens, ending, lexed, spell, isEnd⟩ :=
    Lexeme.tokenize_text (Sketch.forall_lexemes listed writable)
  let scope : Scope := ⟨world, namespaces, params⟩
  have plain : ∀ token ∈ tokens, Reader.Nameless scope token ∧ token.kind ≠ .endOfInput := by
    refine Reader.forall_tokens spell (Sketch.forall_lexemes ?_ ?_)
    · intro kind listed token first
      exact Reader.symbol_nameless listed first
    · intro leaf member token first
      exact Reader.leaf_nameless noType member first
  have nameless : (Stream.ofTokens (tokens ++ [ending])).All (Reader.Nameless scope) := by
    refine List.forall_mem_append.mpr ⟨fun token member => (plain token member).1, ?_⟩
    simp [Reader.Nameless, isEnd]
  have closed : (Stream.ofTokens (tokens ++ [ending])).Closed :=
    Stream.before_ofTokens.closed
      (.append (fun token member => (plain token member).2) (.last isEnd))
  obtain ⟨t, spells, last⟩ := Reader.spells_tokens spell
  have ends : t.kind = .endOfInput := by rw [Stream.kind, last, isEnd]
  have stops : ∀ level, Reader.Stops level none t := by
    intro level
    left
    simp [Reader.endsBefore, last, isEnd]
  have leads : Reader.Leads scope 0 none (Stream.ofTokens (tokens ++ [ending])) sketch ty t :=
    Reader.sketch_readable sketch typed spells nameless (.inl (by decide)) (stops _)
  obtain ⟨body, sketched, isType, read⟩ := leads.whole (stops 0)
  have found : tokensOf sketch.text = .ok (tokens ++ [ending]) := by
    rw [tokensOf, Sketch.text, lexed, CompileError.ofTokens]
  exact ⟨body, parse_headless found closed (Reader.header_nameless nameless) inForce read ends,
    sketched, isType⟩

/-- A test with two operators, a replacement of `null` by a conditional, and a product of a sum and a
sign. -/
theorem parse_text_conditional :
    let params : Parameters := ⟨[⟨"a", .int, 0⟩, ⟨"b", .bool, 1⟩, ⟨"n", .nullable .int, 2⟩], false⟩
    let sketch : Sketch := .conditional
      (.binary .or (.name "b") (.unary .not (.binary .less (.name "a") (.integer .int (Word.ofInt .int 3)))))
      (.coalesce (.name "n") (.conditional (.name "b") (.name "a") (.integer .long (Word.ofInt .long 1))))
      (.binary .mul (.binary .add (.name "a") (.integer .int (Word.ofInt .int 2))) (.unary .negate (.name "a")))
    sketch.text = "b || ! ( a < 3 ) ? n ?? b ? a : 1L : ( a + 2 ) * - a" ∧
      ∃ body, Lambda.parse Registry.empty.toUniverse ["System"]
          (some [⟨some "a", some .int⟩, ⟨some "b", some .bool⟩, ⟨some "n", some (.nullable .int)⟩]) none
          sketch.text = .ok ⟨params, body⟩ ∧
        body.sketch? params = some sketch ∧ body.ty = .long := by
  intro params sketch
  have inForce : Reader.bindDeclared (.ofInstance none) (some [⟨some "a", some .int⟩,
      ⟨some "b", some .bool⟩, ⟨some "n", some (.nullable .int)⟩]) = params := by decide +kernel
  have writable : ∀ leaf ∈ sketch.leaves, leaf.Writable := by decide +kernel
  have noType : ∀ name ∈ sketch.names,
      Scope.resolveName ⟨Registry.empty.toUniverse, ["System"], params⟩ name = none := by
    decide +kernel
  exact ⟨by decide +kernel, parse_text inForce (by decide +kernel) writable noType⟩

end Lambda

end Formula
