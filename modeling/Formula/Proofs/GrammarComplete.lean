import Formula.Proofs.Onward

/-! The reader accepts everything the grammar has. Each way in which a part is read is first replayed
for an arbitrary reader of subexpressions; a derivation then fixes how many steps these need, which is
never more than the tokens that are left, since every part consumes the tokens it stands for. -/
namespace Formula.Reader

section Yields

variable {scope : Scope} {sub : Sub} {s m n t : Stream} {e left : Expr} {inside : Option Bracket}
  {bracket : Bracket} {level least fuel : Nat} {ty : Ty} {args : List Expr}

@[simp] theorem literal_yields {value : Value} :
    Yields (literal value ty) s e t ↔ .literal ⟨ty, s.peek.span⟩ value = e ∧ s.next = t := by
  simp only [literal, advance_then, pure_yields]

theorem operand_literal {value : Value} (constant : constant? s.peek = some (value, ty)) :
    Yields (operand scope sub inside) s (.literal ⟨ty, s.peek.span⟩ value) s.next := by
  unfold constant? at constant
  simp only [operand, peek_then]
  split at constant
  case h_1 kind =>
    obtain ⟨given, number, same⟩ := Option.map_eq_some_iff.mp constant
    cases same
    simp [kind, number]
  case h_2 kind => cases constant; simp [kind]
  case h_3 kind =>
    obtain ⟨c, head, same⟩ := Option.map_eq_some_iff.mp constant
    cases same
    obtain ⟨rest, lexeme⟩ := List.head?_eq_some_iff.mp head
    simp [kind, lexeme]
  case h_4 kind => cases constant; simp [kind]
  case h_5 kind => cases constant; simp [kind]
  case h_6 kind => cases constant; simp [kind]
  case h_7 => cases constant

theorem operand_group (opens : s.kind = .leftParen) :
    Yields (operand scope sub inside) s e t ↔ Yields (group scope sub inside) s e t := by
  rw [Stream.kind] at opens
  simp [operand, opens]

theorem operand_sign (sign : isSign s.kind) :
    Yields (operand scope sub inside) s e t ↔ Yields (signed sub inside) s e t := by
  unfold isSign Stream.kind at sign
  split at sign <;> simp_all [operand]

theorem operand_new (new : s.kind = .new) :
    Yields (operand scope sub inside) s e t ↔ Yields (creation scope sub) s e t := by
  rw [Stream.kind] at new
  simp [operand, new]

theorem operand_name (name : s.kind = .identifier) :
    Yields (operand scope sub inside) s e t ↔ Yields (named scope sub) s e t := by
  rw [Stream.kind] at name
  simp [operand, name]

theorem group_cast {operand : Expr} (target : castTarget? scope s.next = some (ty, m))
    (read : Yields (sub Precedence.unary inside) m operand t)
    (built : Expr.castWritten scope.world operand ty s.peek.span = .ok e) :
    Yields (group scope sub inside) s e t := by
  simp only [group, advance_then]
  refine attempt_then.mpr (.inl ⟨ty, m, target, bind_yields.mpr ⟨operand, t, read, ?_⟩⟩)
  exact ofExcept_yields.mpr ⟨built, rfl⟩

theorem group_parens (noType : castTarget? scope s.next = none)
    (read : Yields (sub 0 (some .paren)) s.next e m) (closes : m.kind = .rightParen) :
    Yields (group scope sub inside) s e m.next := by
  simp only [group, advance_then]
  refine attempt_then.mpr (.inr ⟨noType, bind_yields.mpr ⟨e, m, read, ?_⟩⟩)
  exact expect_then.mpr ⟨closes, pure_yields.mpr ⟨rfl, rfl⟩⟩

theorem signed_yields {operand : Expr} (sign : isSign s.kind)
    (read : Yields (sub Precedence.unary inside) s.next operand t)
    (built : Expr.applySign s.peek operand = .ok e) : Yields (signed sub inside) s e t := by
  have level : (Precedence.beforeOperand? s.peek.kind).getD Precedence.unary = Precedence.unary :=
    level_of_sign sign
  simp only [signed, advance_then, level]
  exact bind_yields.mpr ⟨operand, t, read, ofExcept_yields.mpr ⟨built, rfl⟩⟩

theorem creation_items {element : Ty} {items : List Expr}
    (named : type? scope s.next = some (.array element, m)) (opens : m.kind = .leftBrace)
    (read : Yields (arguments sub .brace) m args t)
    (built : Expr.convertAll scope.world element args = .ok items) :
    Yields (creation scope sub) s
      (.arrayOf ⟨.array element, t.spanFrom s.peek.span⟩ element items) t := by
  rw [Stream.kind] at opens
  simp only [creation, advance_then, expectType_then]
  refine ⟨_, m, named, ?_⟩
  simp only [Ty.element?, arrayItems, peek_then, opens, ↓reduceIte]
  refine bind_yields.mpr ⟨args, t, read, ?_⟩
  exact ofExcept_then.mpr ⟨items, built, rfl⟩

theorem creation_length {length : Expr} (named : type? scope s.next = some (ty, m))
    (notArray : ty.element? = none) (opens : m.kind = .leftBracket)
    (read : Yields (arguments sub .square) m [length] t) (integral : length.ty.isIntegral) :
    Yields (creation scope sub) s (.newArray ⟨.array ty, t.spanFrom s.peek.span⟩ ty length) t := by
  simp only [creation, advance_then, expectType_then]
  refine ⟨ty, m, named, ?_⟩
  simp only [notArray, check_then, opens, BEq.rfl, ↓reduceIte, arrayLength, peek_then]
  refine bind_yields.mpr ⟨[length], t, read, ?_⟩
  exact ofExcept_then.mpr ⟨length, rfl, ofExcept_then.mpr ⟨(), checkIntegral_ok.mpr integral, rfl⟩⟩

theorem creation_object {values : List Expr} {init : Initializer} {ref : ConstructorRef}
    (named : type? scope s.next = some (ty, m)) (notArray : ty.element? = none)
    (given : m.kind = .leftParen ∧ Yields (arguments sub .paren) m args n ∨
      m.kind = .leftBrace ∧ args = [] ∧ m = n)
    (resolved : scope.world.creator ty (Expr.types args) = some ref)
    (filled : n.kind = .leftBrace ∧ Yields (initializer scope sub ty) n (init, values) t ∨
      n.kind ≠ .leftBrace ∧ init = .none ∧ values = [] ∧ n = t) :
    Yields (creation scope sub) s (.create ⟨ty, t.spanFrom s.peek.span⟩ ref args init values) t := by
  simp only [creation, advance_then, expectType_then]
  refine ⟨ty, m, named, ?_⟩
  have notSquare : (m.kind == .leftBracket) = false := by
    obtain ⟨kind, -⟩ | ⟨kind, -⟩ := given <;> simp [kind]
  simp only [notArray, check_then, notSquare, Bool.false_eq_true, ↓reduceIte, newObject, peek_then]
  have constructed : Expr.constructorFor scope.world ty args s.peek.span = .ok ref :=
    found_ok.mpr resolved
  have finish : Yields (do
      let constructor ← ofExcept (Expr.constructorFor scope.world ty args s.peek.span)
      let filling ←
        if ← check .leftBrace then initializer scope sub ty else pure (.none, [])
      return Expr.create ⟨ty, ← spanFrom s.peek.span⟩ constructor args filling.1 filling.2) n
      (.create ⟨ty, t.spanFrom s.peek.span⟩ ref args init values) t := by
    refine ofExcept_then.mpr ⟨ref, constructed, ?_⟩
    obtain ⟨brace, read⟩ | ⟨noBrace, rfl, rfl, rfl⟩ := filled
    · simp only [check_then, brace, BEq.rfl, ↓reduceIte]
      exact bind_yields.mpr ⟨_, _, read, rfl⟩
    · have noBrace : (n.kind == .leftBrace) = false := by simpa using noBrace
      simp only [check_then, noBrace, Bool.false_eq_true, ↓reduceIte, pure_bind]
      rfl
  obtain ⟨paren, read⟩ | ⟨brace, rfl, rfl⟩ := given
  · rw [Stream.kind] at paren
    simp only [paren, ne_eq, not_true_eq_false, false_and, ↓reduceIte]
    exact bind_yields.mpr ⟨args, n, read, finish⟩
  · rw [Stream.kind] at brace
    simp only [brace, ne_eq, not_true_eq_false, and_false, reduceCtorEq, ↓reduceIte, pure_bind]
    exact finish

theorem operand_typeOf (keyword : s.kind = .typeOf) (opens : s.next.kind = .leftParen)
    (named : type? scope s.next.next = some (ty, m)) (closes : m.kind = .rightParen) :
    Yields (operand scope sub inside) s
      (.typeOf ⟨typeClass, m.next.spanFrom s.peek.span⟩ ty) m.next := by
  rw [Stream.kind] at keyword
  simp only [operand, peek_then, keyword, typeValue, advance_then, typeInParens_then,
    spanFrom_then, pure_yields]
  exact ⟨opens, ty, m, named, closes, rfl, rfl⟩

theorem operand_sizeOf (keyword : s.kind = .sizeOf) (opens : s.next.kind = .leftParen)
    (named : type? scope s.next.next = some (ty, m)) (closes : m.kind = .rightParen)
    (built : Expr.measure ty (m.next.spanFrom s.peek.span) = .ok e) :
    Yields (operand scope sub inside) s e m.next := by
  rw [Stream.kind] at keyword
  simp only [operand, peek_then, keyword, typeSize, advance_then, typeInParens_then,
    spanFrom_then, ofExcept_yields]
  exact ⟨opens, ty, m, named, closes, built, rfl⟩

theorem named_parameter {param : Parameter}
    (declared : scope.params.find? s.peek.lexeme = some param) :
    Yields (named scope sub) s (parameterNode param s.peek.span) s.next := by
  simp only [named, peek_then, declared, skip_then, pure_yields, and_self]

theorem named_call {param : Parameter} (undeclared : scope.params.find? s.peek.lexeme = none)
    (receiver : scope.params.instance? = some param) (opens : s.kindAt 1 = .leftParen)
    (read : Yields (arguments sub .paren) s.next args t)
    (built : Expr.callDefault scope.world (parameterNode param s.peek.span) s.peek args
      (t.spanFrom s.peek.span) = .ok e) : Yields (named scope sub) s e t := by
  simp only [named, peek_then, undeclared, receiver]
  refine bind_yields.mpr ⟨some e, t, ?_, pure_yields.mpr ⟨rfl, rfl⟩⟩
  simp only [defaultAccess, kindAt_then, opens, ↓reduceIte, skip_then]
  refine bind_yields.mpr ⟨args, t, read, ?_⟩
  exact spanFrom_then.mpr (ofExcept_then.mpr ⟨e, built, rfl⟩)

theorem named_member {param : Parameter} (undeclared : scope.params.find? s.peek.lexeme = none)
    (receiver : scope.params.instance? = some param) (noCall : s.kindAt 1 ≠ .leftParen)
    (built : Expr.memberDefault? scope.world (parameterNode param s.peek.span) s.peek = some e) :
    Yields (named scope sub) s e s.next := by
  simp only [named, peek_then, undeclared, receiver]
  refine bind_yields.mpr ⟨some e, s.next, ?_, pure_yields.mpr ⟨rfl, rfl⟩⟩
  simp only [defaultAccess, kindAt_then, noCall, ↓reduceIte, built, skip_then, pure_yields, and_self]

/-- A name that is neither a parameter nor a member of the default instance is read as the name of a
type. -/
theorem named_static (begins : BeginsType scope s) :
    Yields (named scope sub) s e t ↔ Yields (staticAccess scope sub) s e t := by
  obtain ⟨-, undeclared, noDefault⟩ := begins
  simp only [named, peek_then, undeclared]
  cases receiver : scope.params.instance? with
  | none => rfl
  | some param =>
    obtain ⟨noCall, noMember⟩ := noDefault param receiver
    simp only [defaultAccess, bind_assoc, kindAt_then, noCall, ↓reduceIte, noMember, pure_bind]

theorem staticAccess_call (named : typePath? scope s = some (ty, m)) (dot : m.kind = .dot)
    (name : m.next.kind = .identifier) (opens : m.next.next.kind = .leftParen)
    (read : Yields (arguments sub .paren) m.next.next args t)
    (built : Expr.callStatic scope.world ty m.next.peek args (t.spanFrom s.peek.span) = .ok e) :
    Yields (staticAccess scope sub) s e t := by
  simp only [staticAccess, peek_then]
  refine attempt_then.mpr (.inl ⟨ty, m, named, eat_then.mpr (.inl ⟨dot, ?_⟩)⟩)
  simp only [↓reduceIte, memberName_then, check_then, opens, BEq.rfl]
  exact ⟨name, bind_yields.mpr ⟨args, t, read,
    spanFrom_then.mpr (ofExcept_yields.mpr ⟨built, rfl⟩)⟩⟩

theorem staticAccess_member (named : typePath? scope s = some (ty, m)) (dot : m.kind = .dot)
    (name : m.next.kind = .identifier) (noCall : m.next.next.kind ≠ .leftParen)
    (built : Expr.memberStatic scope.world ty m.next.peek (m.next.next.spanFrom s.peek.span)
      = .ok e) : Yields (staticAccess scope sub) s e m.next.next := by
  have noCall : (m.next.next.kind == .leftParen) = false := by simpa using noCall
  simp only [staticAccess, peek_then]
  refine attempt_then.mpr (.inl ⟨ty, m, named, eat_then.mpr (.inl ⟨dot, ?_⟩)⟩)
  simp only [↓reduceIte, memberName_then, check_then, noCall, Bool.false_eq_true]
  exact ⟨name, spanFrom_then.mpr (ofExcept_yields.mpr ⟨built, rfl⟩)⟩

theorem climb_done (stops : Stops least inside s) :
    Yields (climb scope sub least inside (fuel + 1) left) s left s := by
  simp only [climb, peek_then]
  obtain ends | ⟨ends, loose⟩ := stops
  · exact ofExcept_then.mpr ⟨true, ends, pure_yields.mpr ⟨rfl, rfl⟩⟩
  · refine ofExcept_then.mpr ⟨false, ends, ?_⟩
    rw [Stream.kind] at loose
    cases bound : Precedence.afterOperand? s.peek.kind with
    | none => simp
    | some level => simp [loose level bound]

theorem climb_more {folded : Expr} (goesOn : GoesOn least inside s level)
    (first : Yields (afterOperand scope sub left s.peek level inside) s folded m)
    (rest : Yields (climb scope sub least inside fuel folded) m e t) :
    Yields (climb scope sub least inside (fuel + 1) left) s e t := by
  obtain ⟨ends, bound, tight⟩ := goesOn
  rw [Stream.kind] at bound
  simp only [climb, peek_then]
  refine ofExcept_then.mpr ⟨false, ends, ?_⟩
  simp only [Bool.false_eq_true, ↓reduceIte, bound, Nat.not_le_of_lt tight]
  exact bind_yields.mpr ⟨folded, m, first, rest⟩

theorem operator_memberCall (dot : s.kind = .dot) (name : s.next.kind = .identifier)
    (opens : s.next.next.kind = .leftParen)
    (read : Yields (arguments sub .paren) s.next.next args t)
    (built : Expr.callOn scope.world left s.next.peek args (t.spanFrom left.span) = .ok e) :
    Yields (afterOperand scope sub left s.peek level inside) s e t := by
  rw [Stream.kind] at dot
  simp only [afterOperand, dot, memberAccess, skip_then, memberName_then, check_then, opens,
    BEq.rfl, ↓reduceIte]
  exact ⟨name, bind_yields.mpr ⟨args, t, read,
    spanFrom_then.mpr (ofExcept_yields.mpr ⟨built, rfl⟩)⟩⟩

theorem operator_member (dot : s.kind = .dot) (name : s.next.kind = .identifier)
    (noCall : s.next.next.kind ≠ .leftParen)
    (built : Expr.memberOf scope.world left s.next.peek (s.next.next.spanFrom left.span) = .ok e) :
    Yields (afterOperand scope sub left s.peek level inside) s e s.next.next := by
  rw [Stream.kind] at dot
  have noCall : (s.next.next.kind == .leftParen) = false := by simpa using noCall
  simp only [afterOperand, dot, memberAccess, skip_then, memberName_then, check_then, noCall,
    Bool.false_eq_true, ↓reduceIte]
  exact ⟨name, spanFrom_then.mpr (ofExcept_yields.mpr ⟨built, rfl⟩)⟩

theorem operator_index (opens : s.kind = .leftBracket)
    (read : Yields (arguments sub .square) s args t)
    (built : Expr.indexInto scope.world left args s.peek.span (t.spanFrom left.span) = .ok e) :
    Yields (afterOperand scope sub left s.peek level inside) s e t := by
  rw [Stream.kind] at opens
  simp only [afterOperand, opens, indexAccess, peek_then]
  exact bind_yields.mpr ⟨args, t, read, spanFrom_then.mpr (ofExcept_yields.mpr ⟨built, rfl⟩)⟩

theorem operator_conditional {yes no : Expr} (asks : s.kind = .question) (truth : left.ty.isBool)
    (first : Yields (sub 0 inside) s.next yes m) (colon : m.kind = .colon)
    (second : Yields (sub (Precedence.assignment - 1) inside) m.next no t)
    (built : Expr.choose scope.world left yes no = .ok e) :
    Yields (afterOperand scope sub left s.peek level inside) s e t := by
  rw [Stream.kind] at asks
  simp only [afterOperand, asks, branches, skip_then]
  refine ofExcept_then.mpr ⟨(), checkCondition_ok.mpr truth, bind_yields.mpr ⟨yes, m, first, ?_⟩⟩
  refine expect_then.mpr ⟨colon, bind_yields.mpr ⟨no, t, second, ?_⟩⟩
  exact ofExcept_yields.mpr ⟨built, rfl⟩

theorem operator_coalesce {right : Expr} (asks : s.kind = .questionQuestion)
    (read : Yields (sub (level - 1) inside) s.next right t)
    (built : Expr.coalesceWith scope.world left right s.peek.span = .ok e) :
    Yields (afterOperand scope sub left s.peek level inside) s e t := by
  rw [Stream.kind] at asks
  simp only [afterOperand, asks, coalesceRest, advance_then]
  exact bind_yields.mpr ⟨right, t, read, ofExcept_yields.mpr ⟨built, rfl⟩⟩

theorem operator_typeTest {op : TypeTest} (asks : test? s.kind = some op)
    (named : type? scope s.next = some (ty, t))
    (built : Expr.testType op left ty s.peek.span (t.spanFrom left.span) = .ok e) :
    Yields (afterOperand scope sub left s.peek level inside) s e t := by
  unfold test? Stream.kind at asks
  split at asks
  case h_1 kind =>
    cases asks
    simp only [afterOperand, kind, testRest, advance_then]
    exact expectType_then.mpr ⟨ty, t, named, spanFrom_then.mpr (ofExcept_yields.mpr ⟨built, rfl⟩)⟩
  case h_2 kind =>
    cases asks
    simp only [afterOperand, kind, testRest, advance_then]
    exact expectType_then.mpr ⟨ty, t, named, spanFrom_then.mpr (ofExcept_yields.mpr ⟨built, rfl⟩)⟩
  case h_3 => cases asks

theorem operator_binary {op : BinaryOp} {right : Expr} (sign : BinaryOp.ofToken? s.kind = some op)
    (read : Yields (sub level inside) s.next right t)
    (built : Expr.applyOperator scope.world op left right s.peek.span = .ok e) :
    Yields (afterOperand scope sub left s.peek level inside) s e t := by
  have run : Yields (do
      discard advance
      let right ← sub level inside
      ofExcept (Expr.applyOperator scope.world op left right s.peek.span)) s e t :=
    skip_then.mpr (bind_yields.mpr ⟨right, t, read, ofExcept_yields.mpr ⟨built, rfl⟩⟩)
  have kind : op.token = s.peek.kind := token_of_operator sign
  rw [Stream.kind, ← kind] at sign
  unfold afterOperand
  rw [← kind]
  -- none of the signs that are looked for first is an operator between operands
  cases op <;> exact run

theorem arguments_none (opens : s.kind = bracket.opener) (closes : s.next.kind = bracket.closer) :
    Yields (arguments sub bracket) s [] s.next.next :=
  expect_then.mpr ⟨opens, eat_then.mpr (.inl ⟨closes, pure_yields.mpr ⟨rfl, rfl⟩⟩)⟩

theorem arguments_some (opens : s.kind = bracket.opener) (some : s.next.kind ≠ bracket.closer)
    (read : Yields (itemsFrom sub bracket (s.next.rest.length + 1)) s.next args t) :
    Yields (arguments sub bracket) s args t :=
  expect_then.mpr ⟨opens, eat_then.mpr (.inr ⟨some, fuel_then.mpr read⟩)⟩

theorem itemsFrom_last (read : Yields (sub 0 (some bracket)) s e m)
    (closes : m.kind = bracket.closer) :
    Yields (itemsFrom sub bracket (fuel + 1)) s [e] m.next := by
  have noComma : m.kind ≠ .comma := by
    rw [closes]
    cases bracket <;> simp [Bracket.closer]
  refine bind_yields.mpr ⟨e, m, read, eat_then.mpr (.inr ⟨noComma, ?_⟩)⟩
  exact eat_then.mpr (.inl ⟨closes, pure_yields.mpr ⟨rfl, rfl⟩⟩)

theorem itemsFrom_next (read : Yields (sub 0 (some bracket)) s e m) (comma : m.kind = .comma)
    (others : Yields (itemsFrom sub bracket fuel) m.next args t) :
    Yields (itemsFrom sub bracket (fuel + 1)) s (e :: args) t := by
  refine bind_yields.mpr ⟨e, m, read, eat_then.mpr (.inl ⟨comma, ?_⟩)⟩
  exact bind_yields.mpr ⟨args, t, others, pure_yields.mpr ⟨rfl, rfl⟩⟩

/-- An assignment up to its value; `rest` is read behind it. -/
theorem assignmentsFrom_yields {ref : MemberRef} {value converted : Expr}
    {steps : List (MemberRef × Expr)} (name : s.kind = .identifier) (equal : s.next.kind = .equal)
    (member : Expr.assignable scope.world ty s.peek = .ok ref)
    (read : Yields (sub 0 (some .brace)) s.next.next value m)
    (built : Expr.convertImplicit scope.world value ref.ty = .ok converted)
    (rest : m.kind = .rightBrace ∧ steps = [(ref, converted)] ∧ m.next = t ∨
      m.kind = .comma ∧ m.next.kind = .rightBrace ∧ steps = [(ref, converted)] ∧ m.next.next = t ∨
      m.kind = .comma ∧ m.next.kind ≠ .rightBrace ∧ ∃ others, steps = (ref, converted) :: others ∧
        Yields (assignmentsFrom scope sub ty fuel) m.next others t) :
    Yields (assignmentsFrom scope sub ty (fuel + 1)) s steps t := by
  rw [Stream.kind] at name
  simp only [assignmentsFrom, peek_then, name, ne_eq, not_true_eq_false, ↓reduceIte, skip_then]
  refine expect_then.mpr ⟨equal, ofExcept_then.mpr ⟨ref, member, ?_⟩⟩
  refine bind_yields.mpr ⟨value, m, read, ofExcept_then.mpr ⟨converted, built, ?_⟩⟩
  obtain ⟨closes, rfl, rfl⟩ | ⟨comma, closes, rfl, rfl⟩ | ⟨comma, some, others, rfl, rest⟩ := rest
  · refine eat_then.mpr (.inr ⟨by simp [closes], ?_⟩)
    exact expect_then.mpr ⟨closes, pure_yields.mpr ⟨rfl, rfl⟩⟩
  · refine eat_then.mpr (.inl ⟨comma, eat_then.mpr (.inl ⟨closes, ?_⟩)⟩)
    exact pure_yields.mpr ⟨rfl, rfl⟩
  · refine eat_then.mpr (.inl ⟨comma, eat_then.mpr (.inr ⟨some, ?_⟩)⟩)
    exact bind_yields.mpr ⟨others, t, rest, pure_yields.mpr ⟨rfl, rfl⟩⟩

theorem initializer_members {steps : List (MemberRef × Expr)} (name : s.kindAt 1 = .identifier)
    (equal : s.kindAt 2 = .equal)
    (read : Yields (assignmentsFrom scope sub ty (s.next.rest.length + 1)) s.next steps t) :
    Yields (initializer scope sub ty) s (.members (steps.map (·.1)), steps.map (·.2)) t := by
  simp only [initializer, kindAt_then, name, equal, and_self, ↓reduceIte, skip_then, fuel_then]
  exact bind_yields.mpr ⟨steps, t, read, pure_yields.mpr ⟨rfl, rfl⟩⟩

theorem initializer_adds {methods : List MethodRef}
    (noMember : ¬ (s.kindAt 1 = .identifier ∧ s.kindAt 2 = .equal))
    (read : Yields (arguments sub .brace) s args t)
    (built : Expr.addsFor scope.world ty args = .ok methods) :
    Yields (initializer scope sub ty) s (.adds methods, args) t := by
  simp only [initializer, kindAt_then, noMember, ↓reduceIte]
  refine bind_yields.mpr ⟨args, t, read, ?_⟩
  exact ofExcept_then.mpr ⟨methods, built, pure_yields.mpr ⟨rfl, rfl⟩⟩

end Yields

/-- The reader comes out with what the grammar has, given as many steps as there are tokens left. -/
def Accepts (scope : Scope) : (part : Part) → Stream → part.Result → Stream → Prop
  | .expression least inside, s, e, t => ∀ depth, s.rest.length ≤ depth →
    Yields (expressionWithin scope depth least inside) s e t
  | .operand inside, s, e, t => ∀ depth, s.rest.length ≤ depth + 1 →
    Yields (operand scope (expressionWithin scope depth) inside) s e t
  | .operators least inside left, s, e, t => ∀ depth fuel, s.rest.length ≤ depth + 1 →
    s.rest.length ≤ fuel →
    Yields (climb scope (expressionWithin scope depth) least inside fuel left) s e t
  | .operator level inside left, s, e, t => ∀ depth, s.rest.length ≤ depth + 1 →
    Yields (afterOperand scope (expressionWithin scope depth) left s.peek level inside) s e t
  | .arguments bracket, s, args, t => ∀ depth, s.rest.length ≤ depth + 1 →
    Yields (arguments (expressionWithin scope depth) bracket) s args t
  | .items bracket, s, args, t => ∀ depth fuel, s.rest.length ≤ depth → s.rest.length ≤ fuel →
    Yields (itemsFrom (expressionWithin scope depth) bracket fuel) s args t
  | .assignments ty, s, steps, t => ∀ depth fuel, s.rest.length ≤ depth + 1 →
    s.rest.length ≤ fuel →
    Yields (assignmentsFrom scope (expressionWithin scope depth) ty fuel) s steps t
  | .givens, s, args, t => ∀ depth, s.rest.length ≤ depth + 1 →
    s.kind = .leftParen ∧ Yields (arguments (expressionWithin scope depth) .paren) s args t ∨
      s.kind = .leftBrace ∧ args = [] ∧ s = t
  | .initializer ty, s, (init, values), t => ∀ depth, s.rest.length ≤ depth + 1 →
    s.kind = .leftBrace ∧
      Yields (initializer scope (expressionWithin scope depth) ty) s (init, values) t ∨
      s.kind ≠ .leftBrace ∧ init = .none ∧ values = [] ∧ s = t

section Complete

variable {scope : Scope} {s t : Stream} {e left : Expr} {inside : Option Bracket}
  {bracket : Bracket} {level : Nat} {args : List Expr}

theorem ne_end_of_goesOn {least : Nat} (goesOn : GoesOn least inside s level) :
    s.kind ≠ .endOfInput := by
  intro isEnd
  obtain ⟨-, bound, -⟩ := goesOn
  rw [isEnd] at bound
  cases bound

/-- Where the value of an assignment begins, at least two tokens have been passed. -/
private theorem afterName {fuel : Nat} (closed : s.Closed) (name : s.kind = .identifier)
    (equal : s.next.kind = .equal) (enough : s.rest.length ≤ fuel) :
    ∃ less, fuel = less + 1 ∧ s.next.next.Closed ∧ s.next.next.rest.length + 2 ≤ s.rest.length := by
  have first := closed.next_shorter (by simp [name])
  have next := closed.next (by simp [name])
  have second := next.next_shorter (by simp [equal])
  exact ⟨fuel - 1, by omega, next.next (by simp [equal]), by omega⟩

/-- What the grammar has of a part, the reader of that part comes out with. -/
theorem Reads.accepted {part : Part} {result : part.Result} (reads : Reads scope part s result t)
    (closed : s.Closed) : Accepts scope part s result t := by
  induction reads with
  | expression first _ ihFirst ihMore =>
    intro depth enough
    have nonempty := closed.nonempty
    obtain ⟨depth, rfl⟩ : ∃ less, depth = less + 1 := ⟨depth - 1, by omega⟩
    have middle := first.walked.closed closed
    have short := first.walked.length_le closed
    refine bind_yields.mpr ⟨_, _, ihFirst closed depth enough, fuel_then.mpr ?_⟩
    exact ihMore middle depth _ (by omega) (by omega)
  | literal constant => exact fun depth _ => operand_literal constant
  | cast opens target _ built ih =>
    intro depth enough
    have next := closed.next (by simp [opens])
    have shorter := closed.next_shorter (by simp [opens])
    obtain ⟨m, (walk : Walk none _ m), closes, rfl⟩ := castTarget_walk target
    have short := walk.length_le next
    have middle := (walk.closed next).next (by simp [closes])
    have := m.next_le
    exact (operand_group opens).mpr
      (group_cast target (ih middle depth (by omega)) built)
  | group opens noType _ closes ih =>
    intro depth enough
    have shorter := closed.next_shorter (by simp [opens])
    exact (operand_group opens).mpr
      (group_parens noType (ih (closed.next (by simp [opens])) depth (by omega)) closes)
  | sign signed _ built ih =>
    intro depth enough
    have more := ne_end_of_sign signed
    have shorter := closed.next_shorter more
    exact (operand_sign signed).mpr
      (signed_yields signed (ih (closed.next more) depth (by omega)) built)
  | arrayItems new named opens _ built ih =>
    intro depth enough
    have next := closed.next (by simp [new])
    have shorter := closed.next_shorter (by simp [new])
    have walk : Walk none _ _ := type_walks _ _ _ _ named
    have short := walk.length_le next
    exact (operand_new new).mpr
      (creation_items named opens (ih (walk.closed next) depth (by omega)) built)
  | arrayLength new named notArray opens _ integral ih =>
    intro depth enough
    have next := closed.next (by simp [new])
    have shorter := closed.next_shorter (by simp [new])
    have walk : Walk none _ _ := type_walks _ _ _ _ named
    have short := walk.length_le next
    exact (operand_new new).mpr
      (creation_length named notArray opens (ih (walk.closed next) depth (by omega)) integral)
  | create new named notArray given resolved _ ihGiven ihFilled =>
    intro depth enough
    have next := closed.next (by simp [new])
    have shorter := closed.next_shorter (by simp [new])
    have walk : Walk none _ _ := type_walks _ _ _ _ named
    have short := walk.length_le next
    have middle := walk.closed next
    have args := given.walked none
    have := args.length_le middle
    exact (operand_new new).mpr
      (creation_object named notArray (ihGiven middle depth (by omega)) resolved
        (ihFilled (args.closed middle) depth (by omega)))
  | typeOf keyword opens named closes => exact fun _ _ => operand_typeOf keyword opens named closes
  | sizeOf keyword opens named closes built =>
    exact fun _ _ => operand_sizeOf keyword opens named closes built
  | parameter name declared =>
    exact fun _ _ => (operand_name name).mpr (named_parameter declared)
  | defaultCall name undeclared receiver opens _ built ih =>
    intro depth enough
    have shorter := closed.next_shorter (by simp [name])
    exact (operand_name name).mpr (named_call undeclared receiver opens
      (ih (closed.next (by simp [name])) depth (by omega)) built)
  | defaultMember name undeclared receiver noCall built =>
    exact fun _ _ => (operand_name name).mpr (named_member undeclared receiver noCall built)
  | staticCall begins named dot name opens _ built ih =>
    intro depth enough
    have walk : Walk none _ _ := typePath_walks _ _ _ _ named
    have short := walk.length_le closed
    have middle := walk.closed closed
    have shorter := middle.next_shorter (by simp [dot])
    have next := middle.next (by simp [dot])
    have last := next.next_shorter (by simp [name])
    exact (operand_name begins.1).mpr ((named_static begins).mpr
      (staticAccess_call named dot name opens
        (ih (next.next (by simp [name])) depth (by omega)) built))
  | staticMember begins named dot name noCall built =>
    exact fun _ _ => (operand_name begins.1).mpr ((named_static begins).mpr
      (staticAccess_member named dot name noCall built))
  | done stops =>
    intro depth fuel _ enough
    have nonempty := closed.nonempty
    obtain ⟨fuel, rfl⟩ : ∃ less, fuel = less + 1 := ⟨fuel - 1, by omega⟩
    exact climb_done stops
  | more goesOn first _ ihFirst ihRest =>
    intro depth fuel deep enough
    have nonempty := closed.nonempty
    obtain ⟨fuel, rfl⟩ : ∃ less, fuel = less + 1 := ⟨fuel - 1, by omega⟩
    have ⟨_, shorter⟩ := operator_past closed.terminated first
    exact climb_more goesOn (ihFirst closed depth deep)
      (ihRest (first.walked.closed closed) depth fuel (by omega) (by omega))
  | memberCall dot name opens _ built ih =>
    intro depth enough
    have shorter := closed.next_shorter (by simp [dot])
    have next := closed.next (by simp [dot])
    have last := next.next_shorter (by simp [name])
    exact operator_memberCall dot name opens
      (ih (next.next (by simp [name])) depth (by omega)) built
  | member dot name noCall built => exact fun _ _ => operator_member dot name noCall built
  | index opens _ built ih =>
    exact fun depth enough => operator_index opens (ih closed depth enough) built
  | conditional asks truth first colon _ built ihFirst ihSecond =>
    intro depth enough
    have next := closed.next (by simp [asks])
    have shorter := closed.next_shorter (by simp [asks])
    have short := first.walked.length_le next
    have middle := first.walked.closed next
    have second := middle.next_shorter (by simp [colon])
    exact operator_conditional asks truth (ihFirst next depth (by omega)) colon
      (ihSecond (middle.next (by simp [colon])) depth (by omega)) built
  | coalesce asks _ built ih =>
    intro depth enough
    have shorter := closed.next_shorter (by simp [asks])
    exact operator_coalesce asks (ih (closed.next (by simp [asks])) depth (by omega)) built
  | typeTest asks named built => exact fun _ _ => operator_typeTest asks named built
  | binary sign _ built ih =>
    intro depth enough
    have more := ne_end_of_operator sign
    have shorter := closed.next_shorter more
    exact operator_binary sign (ih (closed.next more) depth (by omega)) built
  | noArguments opens closes => exact fun _ _ => arguments_none opens closes
  | arguments opens some _ ih =>
    intro depth enough
    have more := ne_end_of_opener opens
    have shorter := closed.next_shorter more
    exact arguments_some opens some (ih (closed.next more) depth _ (by omega) (by omega))
  | lastItem _ closes ih =>
    intro depth fuel deep enough
    have nonempty := closed.nonempty
    obtain ⟨fuel, rfl⟩ : ∃ less, fuel = less + 1 := ⟨fuel - 1, by omega⟩
    exact itemsFrom_last (ih closed depth deep) closes
  | nextItem read comma _ ihRead ihOthers =>
    intro depth fuel deep enough
    have nonempty := closed.nonempty
    obtain ⟨fuel, rfl⟩ : ∃ less, fuel = less + 1 := ⟨fuel - 1, by omega⟩
    have short := read.walked.length_le closed
    have middle := read.walked.closed closed
    have shorter := middle.next_shorter (by simp [comma])
    exact itemsFrom_next (ihRead closed depth deep) comma
      (ihOthers (middle.next (by simp [comma])) depth fuel (by omega) (by omega))
  | noGivens opens => exact fun _ _ => .inr ⟨opens, rfl, rfl⟩
  | givens opens _ ih => exact fun depth enough => .inl ⟨opens, ih closed depth enough⟩
  | noInitializer none => exact fun _ _ => .inr ⟨none, rfl, rfl, rfl⟩
  | members opens name equal _ ih =>
    intro depth enough
    have shorter := closed.next_shorter (by simp [opens])
    exact .inl ⟨opens, initializer_members name equal
      (ih (closed.next (by simp [opens])) depth _ (by omega) (by omega))⟩
  | adds opens noMember _ built ih =>
    exact fun depth enough => .inl ⟨opens, initializer_adds noMember (ih closed depth enough) built⟩
  | lastAssignment name equal member _ built closes ih =>
    intro depth fuel deep enough
    obtain ⟨fuel, rfl, value, short⟩ := afterName closed name equal enough
    exact assignmentsFrom_yields name equal member (ih value depth (by omega)) built
      (.inl ⟨closes, rfl, rfl⟩)
  | trailingComma name equal member _ built comma closes ih =>
    intro depth fuel deep enough
    obtain ⟨fuel, rfl, value, short⟩ := afterName closed name equal enough
    exact assignmentsFrom_yields name equal member (ih value depth (by omega)) built
      (.inr (.inl ⟨comma, closes, rfl, rfl⟩))
  | nextAssignment name equal member read built comma some _ ihRead ihRest =>
    intro depth fuel deep enough
    obtain ⟨fuel, rfl, value, short⟩ := afterName closed name equal enough
    have shorter := read.walked.length_le value
    have middle := read.walked.closed value
    have last := middle.next_shorter (by simp [comma])
    exact assignmentsFrom_yields name equal member (ihRead value depth (by omega)) built
      (.inr (.inr ⟨comma, some, _, rfl,
        ihRest (middle.next (by simp [comma])) depth fuel (by omega) (by omega)⟩))

/-- The reader accepts what the grammar has. -/
theorem Reads.yields {least : Nat} (reads : Reads scope (.expression least inside) s e t)
    (closed : s.Closed) : Yields (Reader.expression scope least inside) s e t :=
  fuel_then.mpr (reads.accepted closed _ (Nat.le_succ _))

/-- From one place, an expression is read in one way. -/
theorem Reads.unique {least : Nat} {e' : Expr} {t' : Stream}
    (first : Reads scope (.expression least inside) s e t)
    (second : Reads scope (.expression least inside) s e' t') (closed : s.Closed) :
    e = e' ∧ t = t' := by
  have same := (first.yields closed).symm.trans (second.yields closed)
  exact Prod.mk.inj (Except.ok.inj same)

/-- The parameters in force are those of a header that is next, or else those that are declared. -/
theorem parameters_yields {declared : Option (List ParamSpec)} {params : Parameters} :
    Yields (parameters scope declared) s params t ↔
      (∃ header, header? scope s = some (header, t) ∧
        bindHeader scope.params header declared (t.spanFrom s.peek.span) = .ok params) ∨
      header? scope s = none ∧ bindDeclared scope.params declared = params ∧ s = t := by
  simp only [parameters, peek_then, attempt_then, spanFrom_then, ofExcept_yields, pure_yields]
  constructor
  · rintro (⟨header, m, found, bound, rfl⟩ | headless)
    · exact .inl ⟨header, found, bound⟩
    · exact .inr headless
  · rintro (⟨header, found, bound⟩ | headless)
    · exact .inl ⟨header, t, found, bound, rfl⟩
    · exact .inr headless

/-- A formula is read as its parameters and then as its body, up to the end. -/
theorem lambda_yields {declared : Option (List ParamSpec)} {lambda : Lambda} :
    Yields (Reader.lambda scope declared) s lambda t ↔
      ∃ m, Yields (parameters scope declared) s lambda.params m ∧
        Yields (Reader.expression { scope with params := lambda.params } 0 none) m lambda.body t ∧
        t.kind = .endOfInput := by
  constructor
  · intro ran
    obtain ⟨params, m, first, ran⟩ := bind_yields.mp ran
    obtain ⟨body, n, read, ran⟩ := bind_yields.mp ran
    simp only [peek_then] at ran
    split at ran
    case isTrue ends =>
      obtain ⟨rfl, rfl⟩ := pure_yields.mp ran
      exact ⟨m, first, read, ends⟩
    case isFalse => simp at ran
  · rintro ⟨m, first, read, ends⟩
    refine bind_yields.mpr ⟨lambda.params, m, first, ?_⟩
    refine bind_yields.mpr ⟨lambda.body, t, read, ?_⟩
    rw [Stream.kind] at ends
    simp [ends]

/-- A formula without a header is read against the declared parameters, up to the end. -/
theorem headless_yields {declared : Option (List ParamSpec)} {lambda : Lambda}
    (noHeader : header? scope s = none) :
    Yields (Reader.lambda scope declared) s lambda t ↔
      bindDeclared scope.params declared = lambda.params ∧
        Yields (Reader.expression { scope with params := lambda.params } 0 none) s lambda.body t ∧
        t.kind = .endOfInput := by
  rw [lambda_yields]
  simp only [parameters_yields, noHeader, reduceCtorEq, false_and, exists_false, false_or, true_and]
  constructor
  · rintro ⟨m, ⟨bound, rfl⟩, read, ends⟩
    exact ⟨bound, read, ends⟩
  · rintro ⟨bound, read, ends⟩
    exact ⟨s, ⟨bound, rfl⟩, read, ends⟩

end Complete
end Formula.Reader
