import Formula.Proofs.ReaderSuccess

/-! The grammar of formulas, as the streams that a successful reading passes through. `Reads` has one
rule for each way in which a part of a formula is read: which tokens it begins with, which smaller
parts it consists of, and how its node is built from theirs. It mentions no number of steps, and
`expression_reads` says that whatever the reader accepts has a derivation. -/
namespace Formula.Reader

/-- A part of a formula. -/
inductive Part where
  /-- An expression whose operators bind tighter than `least`. -/
  | expression (least : Nat) (inside : Option Bracket)
  | operand (inside : Option Bracket)
  /-- The operators behind an operand that bind tighter than `least`. -/
  | operators (least : Nat) (inside : Option Bracket) (left : Expr)
  /-- One operator behind an operand, and what belongs to it. -/
  | operator (level : Nat) (inside : Option Bracket) (left : Expr)
  /-- Expressions in a bracket. -/
  | arguments (bracket : Bracket)
  /-- At least one expression up to the closing bracket. -/
  | items (bracket : Bracket)
  /-- At least one assignment up to the closing brace. -/
  | assignments (ty : Ty)
  /-- The arguments of a creation, which may be left out before braces. -/
  | givens
  /-- The braces behind a creation, if there are any. -/
  | initializer (ty : Ty)

/-- What is read of a part. -/
abbrev Part.Result : Part → Type
  | expression _ _ | operand _ | operators _ _ _ | operator _ _ _ => Expr
  | arguments _ | items _ | givens => List Expr
  | assignments _ => List (MemberRef × Expr)
  | initializer _ => Initializer × List Expr

/-- The value that a token stands for by itself, and the type of its literal. -/
def constant? (token : Token) : Option (Value × Ty) :=
  match token.kind with
  | .number => token.number.map fun value => (value, value.ty)
  | .string => some (.string token.lexeme, .string)
  | .char => token.lexeme.toList.head?.map fun c => (.char c, .char)
  | .trueWord => some (.bool true, .bool)
  | .falseWord => some (.bool false, .bool)
  | .null => some (.null, .null)
  | _ => none

/-- Whether a token is a sign that may stand before an operand. -/
def isSign : TokenKind → Bool
  | .plus | .minus | .bang | .tilde => true
  | _ => false

/-- The test that a keyword asks for. -/
def test? : TokenKind → Option TypeTest
  | .is => some .is
  | .as => some .as
  | _ => none

/-- The name that is next is neither a parameter nor a member of the default instance, so it begins
the name of a type. -/
def BeginsType (scope : Scope) (stream : Stream) : Prop :=
  stream.kind = .identifier ∧ scope.params.find? stream.peek.lexeme = none ∧
    ∀ param, scope.params.instance? = some param → stream.kindAt 1 ≠ .leftParen ∧
      Expr.memberDefault? scope.world (parameterNode param stream.peek.span) stream.peek = none

/-- No operator that binds tighter than `least` comes next. -/
def Stops (least : Nat) (inside : Option Bracket) (stream : Stream) : Prop :=
  endsBefore stream.peek inside = .ok true ∨ endsBefore stream.peek inside = .ok false ∧
    ∀ level, Precedence.afterOperand? stream.kind = some level → level ≤ least

/-- An operator of a level that binds tighter than `least` comes next. -/
def GoesOn (least : Nat) (inside : Option Bracket) (stream : Stream) (level : Nat) : Prop :=
  endsBefore stream.peek inside = .ok false ∧
    Precedence.afterOperand? stream.kind = some level ∧ least < level

/-- Reading a part from a stream comes out with a result and leaves a stream. -/
inductive Reads (scope : Scope) : (part : Part) → Stream → part.Result → Stream → Prop where
  | expression {left e : Expr} (first : Reads scope (.operand inside) s left m)
      (more : Reads scope (.operators least inside left) m e t) :
      Reads scope (.expression least inside) s e t
  -- operands
  | literal (constant : constant? s.peek = some (value, ty)) :
      Reads scope (.operand inside) s (.literal ⟨ty, s.peek.span⟩ value) s.next
  | cast {operand : Expr} (opens : s.kind = .leftParen)
      (target : castTarget? scope s.next = some (ty, m))
      (read : Reads scope (.expression Precedence.unary inside) m operand t)
      (built : Expr.castWritten scope.world operand ty s.peek.span = .ok e) :
      Reads scope (.operand inside) s e t
  | group {e : Expr} (opens : s.kind = .leftParen) (noType : castTarget? scope s.next = none)
      (read : Reads scope (.expression 0 (some .paren)) s.next e m) (closes : m.kind = .rightParen) :
      Reads scope (.operand inside) s e m.next
  | sign {operand : Expr} (signed : isSign s.kind)
      (read : Reads scope (.expression Precedence.unary inside) s.next operand t)
      (built : Expr.applySign s.peek operand = .ok e) : Reads scope (.operand inside) s e t
  | arrayItems {given : List Expr} (new : s.kind = .new)
      (named : type? scope s.next = some (.array element, m)) (opens : m.kind = .leftBrace)
      (read : Reads scope (.arguments .brace) m given t)
      (built : Expr.convertAll scope.world element given = .ok items) :
      Reads scope (.operand inside) s
        (.arrayOf ⟨.array element, t.spanFrom s.peek.span⟩ element items) t
  | arrayLength {length : Expr} (new : s.kind = .new) (named : type? scope s.next = some (ty, m))
      (notArray : ty.element? = none) (opens : m.kind = .leftBracket)
      (read : Reads scope (.arguments .square) m [length] t) (integral : length.ty.isIntegral) :
      Reads scope (.operand inside) s (.newArray ⟨.array ty, t.spanFrom s.peek.span⟩ ty length) t
  | create {args values : List Expr} {init : Initializer} (new : s.kind = .new)
      (named : type? scope s.next = some (ty, m))
      (notArray : ty.element? = none) (given : Reads scope .givens m args n)
      (resolved : scope.world.creator ty (Expr.types args) = some ref)
      (filled : Reads scope (.initializer ty) n (init, values) t) :
      Reads scope (.operand inside) s
        (.create ⟨ty, t.spanFrom s.peek.span⟩ ref args init values) t
  | typeOf (keyword : s.kind = .typeOf) (opens : s.next.kind = .leftParen)
      (named : type? scope s.next.next = some (ty, m)) (closes : m.kind = .rightParen) :
      Reads scope (.operand inside) s
        (.typeOf ⟨typeClass, m.next.spanFrom s.peek.span⟩ ty) m.next
  | sizeOf (keyword : s.kind = .sizeOf) (opens : s.next.kind = .leftParen)
      (named : type? scope s.next.next = some (ty, m)) (closes : m.kind = .rightParen)
      (built : Expr.measure ty (m.next.spanFrom s.peek.span) = .ok e) :
      Reads scope (.operand inside) s e m.next
  | parameter (name : s.kind = .identifier)
      (declared : scope.params.find? s.peek.lexeme = some param) :
      Reads scope (.operand inside) s (parameterNode param s.peek.span) s.next
  | defaultCall {args : List Expr} (name : s.kind = .identifier)
      (undeclared : scope.params.find? s.peek.lexeme = none)
      (receiver : scope.params.instance? = some param) (opens : s.kindAt 1 = .leftParen)
      (read : Reads scope (.arguments .paren) s.next args t)
      (built : Expr.callDefault scope.world (parameterNode param s.peek.span) s.peek args
        (t.spanFrom s.peek.span) = .ok e) :
      Reads scope (.operand inside) s e t
  | defaultMember (name : s.kind = .identifier)
      (undeclared : scope.params.find? s.peek.lexeme = none)
      (receiver : scope.params.instance? = some param) (noCall : s.kindAt 1 ≠ .leftParen)
      (built : Expr.memberDefault? scope.world (parameterNode param s.peek.span) s.peek = some e) :
      Reads scope (.operand inside) s e s.next
  | staticCall {args : List Expr} (begins : BeginsType scope s)
      (named : typePath? scope s = some (ty, m)) (dot : m.kind = .dot)
      (name : m.next.kind = .identifier) (opens : m.next.next.kind = .leftParen)
      (read : Reads scope (.arguments .paren) m.next.next args t)
      (built : Expr.callStatic scope.world ty m.next.peek args (t.spanFrom s.peek.span) = .ok e) :
      Reads scope (.operand inside) s e t
  | staticMember (begins : BeginsType scope s)
      (named : typePath? scope s = some (ty, m)) (dot : m.kind = .dot)
      (name : m.next.kind = .identifier) (noCall : m.next.next.kind ≠ .leftParen)
      (built : Expr.memberStatic scope.world ty m.next.peek (m.next.next.spanFrom s.peek.span)
        = .ok e) :
      Reads scope (.operand inside) s e m.next.next
  -- operators
  | done (stops : Stops least inside s) : Reads scope (.operators least inside left) s left s
  | more {folded e : Expr} (goesOn : GoesOn least inside s level)
      (first : Reads scope (.operator level inside left) s folded m)
      (rest : Reads scope (.operators least inside folded) m e t) :
      Reads scope (.operators least inside left) s e t
  | memberCall {args : List Expr} (dot : s.kind = .dot) (name : s.next.kind = .identifier)
      (opens : s.next.next.kind = .leftParen)
      (read : Reads scope (.arguments .paren) s.next.next args t)
      (built : Expr.callOn scope.world left s.next.peek args (t.spanFrom left.span) = .ok e) :
      Reads scope (.operator level inside left) s e t
  | member (dot : s.kind = .dot) (name : s.next.kind = .identifier)
      (noCall : s.next.next.kind ≠ .leftParen)
      (built : Expr.memberOf scope.world left s.next.peek (s.next.next.spanFrom left.span) = .ok e) :
      Reads scope (.operator level inside left) s e s.next.next
  | index {args : List Expr} (opens : s.kind = .leftBracket)
      (read : Reads scope (.arguments .square) s args t)
      (built : Expr.indexInto scope.world left args s.peek.span (t.spanFrom left.span) = .ok e) :
      Reads scope (.operator level inside left) s e t
  | conditional {yes no : Expr} (asks : s.kind = .question) (truth : left.ty.isBool)
      (first : Reads scope (.expression 0 inside) s.next yes m) (colon : m.kind = .colon)
      (second : Reads scope (.expression (Precedence.assignment - 1) inside) m.next no t)
      (built : Expr.choose scope.world left yes no = .ok e) :
      Reads scope (.operator level inside left) s e t
  | coalesce {right : Expr} (asks : s.kind = .questionQuestion)
      (read : Reads scope (.expression (level - 1) inside) s.next right t)
      (built : Expr.coalesceWith scope.world left right s.peek.span = .ok e) :
      Reads scope (.operator level inside left) s e t
  | typeTest (asks : test? s.kind = some op) (named : type? scope s.next = some (ty, t))
      (built : Expr.testType op left ty s.peek.span (t.spanFrom left.span) = .ok e) :
      Reads scope (.operator level inside left) s e t
  | binary {right : Expr} (sign : BinaryOp.ofToken? s.kind = some op)
      (read : Reads scope (.expression level inside) s.next right t)
      (built : Expr.applyOperator scope.world op left right s.peek.span = .ok e) :
      Reads scope (.operator level inside left) s e t
  -- lists
  | noArguments (opens : s.kind = bracket.opener) (closes : s.next.kind = bracket.closer) :
      Reads scope (.arguments bracket) s [] s.next.next
  | arguments {items : List Expr} (opens : s.kind = bracket.opener)
      (some : s.next.kind ≠ bracket.closer) (read : Reads scope (.items bracket) s.next items t) :
      Reads scope (.arguments bracket) s items t
  | lastItem {item : Expr} (read : Reads scope (.expression 0 (some bracket)) s item m)
      (closes : m.kind = bracket.closer) : Reads scope (.items bracket) s [item] m.next
  | nextItem {item : Expr} {items : List Expr}
      (read : Reads scope (.expression 0 (some bracket)) s item m) (comma : m.kind = .comma)
      (others : Reads scope (.items bracket) m.next items t) :
      Reads scope (.items bracket) s (item :: items) t
  | noGivens (opens : s.kind = .leftBrace) : Reads scope .givens s [] s
  | givens {args : List Expr} (opens : s.kind = .leftParen)
      (read : Reads scope (.arguments .paren) s args t) : Reads scope .givens s args t
  -- initializers
  | noInitializer (none : s.kind ≠ .leftBrace) : Reads scope (.initializer ty) s (.none, []) s
  | members {steps : List (MemberRef × Expr)} (opens : s.kind = .leftBrace)
      (name : s.kindAt 1 = .identifier) (equal : s.kindAt 2 = .equal)
      (read : Reads scope (.assignments ty) s.next steps t) :
      Reads scope (.initializer ty) s (.members (steps.map (·.1)), steps.map (·.2)) t
  | adds {items : List Expr} (opens : s.kind = .leftBrace)
      (noMember : ¬ (s.kindAt 1 = .identifier ∧ s.kindAt 2 = .equal))
      (read : Reads scope (.arguments .brace) s items t)
      (built : Expr.addsFor scope.world ty items = .ok methods) :
      Reads scope (.initializer ty) s (.adds methods, items) t
  | lastAssignment {value : Expr} (name : s.kind = .identifier) (equal : s.next.kind = .equal)
      (member : Expr.assignable scope.world ty s.peek = .ok ref)
      (read : Reads scope (.expression 0 (some .brace)) s.next.next value m)
      (built : Expr.convertImplicit scope.world value ref.ty = .ok converted)
      (closes : m.kind = .rightBrace) :
      Reads scope (.assignments ty) s [(ref, converted)] m.next
  | trailingComma {value : Expr} (name : s.kind = .identifier) (equal : s.next.kind = .equal)
      (member : Expr.assignable scope.world ty s.peek = .ok ref)
      (read : Reads scope (.expression 0 (some .brace)) s.next.next value m)
      (built : Expr.convertImplicit scope.world value ref.ty = .ok converted)
      (comma : m.kind = .comma) (closes : m.next.kind = .rightBrace) :
      Reads scope (.assignments ty) s [(ref, converted)] m.next.next
  | nextAssignment {value : Expr} {others : List (MemberRef × Expr)}
      (name : s.kind = .identifier) (equal : s.next.kind = .equal)
      (member : Expr.assignable scope.world ty s.peek = .ok ref)
      (read : Reads scope (.expression 0 (some .brace)) s.next.next value m)
      (built : Expr.convertImplicit scope.world value ref.ty = .ok converted)
      (comma : m.kind = .comma) (some : m.next.kind ≠ .rightBrace)
      (rest : Reads scope (.assignments ty) m.next others t) :
      Reads scope (.assignments ty) s ((ref, converted) :: others) t

section Sound

variable {scope : Scope} {sub : Sub} {s t : Stream} {e left : Expr} {inside : Option Bracket}
  {bracket : Bracket} {level least : Nat} {ty : Ty} {args : List Expr}

/-- A reader of subexpressions reads only what the grammar has. -/
def SubSound (scope : Scope) (sub : Sub) : Prop :=
  ∀ least inside s e t, Yields (sub least inside) s e t →
    Reads scope (.expression least inside) s e t

/-- Expressions up to a closing bracket are read one by one, each of them behind a comma. -/
theorem itemsFrom_reads {fuel : Nat} (sound : SubSound scope sub)
    (ran : Yields (itemsFrom sub bracket fuel) s args t) : Reads scope (.items bracket) s args t := by
  induction fuel generalizing s args with
  | zero => simp [itemsFrom] at ran
  | succ fuel ih =>
    simp only [itemsFrom] at ran
    obtain ⟨first, m, read, ran⟩ := bind_yields.mp ran
    obtain ⟨comma, ran⟩ | ⟨-, ran⟩ := eat_then.mp ran
    · obtain ⟨others, n, rest, ran⟩ := bind_yields.mp ran
      obtain ⟨rfl, rfl⟩ := pure_yields.mp ran
      exact .nextItem (sound _ _ _ _ _ read) comma (ih rest)
    · obtain ⟨closes, ran⟩ | ⟨-, ran⟩ := eat_then.mp ran
      · obtain ⟨rfl, rfl⟩ := pure_yields.mp ran
        exact .lastItem (sound _ _ _ _ _ read) closes
      · simp at ran

theorem arguments_reads (sound : SubSound scope sub)
    (ran : Yields (arguments sub bracket) s args t) :
    Reads scope (.arguments bracket) s args t := by
  simp only [arguments, expect_then] at ran
  obtain ⟨opens, ran⟩ := ran
  obtain ⟨closes, ran⟩ | ⟨some, ran⟩ := eat_then.mp ran
  · obtain ⟨rfl, rfl⟩ := pure_yields.mp ran
    exact .noArguments opens closes
  · exact .arguments opens some (itemsFrom_reads sound (fuel_then.mp ran))

theorem assignmentsFrom_reads {fuel : Nat} {steps : List (MemberRef × Expr)}
    (sound : SubSound scope sub) (ran : Yields (assignmentsFrom scope sub ty fuel) s steps t) :
    Reads scope (.assignments ty) s steps t := by
  induction fuel generalizing s steps with
  | zero => simp [assignmentsFrom] at ran
  | succ fuel ih =>
    simp only [assignmentsFrom, peek_then] at ran
    split at ran
    case isTrue => simp at ran
    case isFalse name =>
      simp only [skip_then, expect_then, ofExcept_then] at ran
      obtain ⟨equal, ref, member, ran⟩ := ran
      obtain ⟨value, m, read, ran⟩ := bind_yields.mp ran
      obtain ⟨converted, built, ran⟩ := ofExcept_then.mp ran
      have name : s.kind = .identifier := by simpa [Stream.kind] using name
      have read := sound _ _ _ _ _ read
      obtain ⟨comma, ran⟩ | ⟨-, ran⟩ := eat_then.mp ran
      · obtain ⟨closes, ran⟩ | ⟨some, ran⟩ := eat_then.mp ran
        · obtain ⟨rfl, rfl⟩ := pure_yields.mp ran
          exact .trailingComma name equal member read built comma closes
        · obtain ⟨others, n, rest, ran⟩ := bind_yields.mp ran
          obtain ⟨rfl, rfl⟩ := pure_yields.mp ran
          exact .nextAssignment name equal member read built comma some (ih rest)
      · obtain ⟨closes, ran⟩ := expect_then.mp ran
        obtain ⟨rfl, rfl⟩ := pure_yields.mp ran
        exact .lastAssignment name equal member read built closes

theorem initializer_reads {init : Initializer × List Expr} (sound : SubSound scope sub)
    (opens : s.kind = .leftBrace)
    (ran : Yields (initializer scope sub ty) s init t) : Reads scope (.initializer ty) s init t := by
  simp only [initializer, kindAt_then] at ran
  split at ran
  case isTrue both =>
    simp only [skip_then, fuel_then] at ran
    obtain ⟨steps, n, read, ran⟩ := bind_yields.mp ran
    obtain ⟨rfl, rfl⟩ := pure_yields.mp ran
    exact .members opens both.1 both.2 (assignmentsFrom_reads sound read)
  case isFalse neither =>
    obtain ⟨items, n, read, ran⟩ := bind_yields.mp ran
    obtain ⟨methods, built, ran⟩ := ofExcept_then.mp ran
    obtain ⟨rfl, rfl⟩ := pure_yields.mp ran
    exact .adds opens neither (arguments_reads sound read) built

/-- Behind a dot stands the name of a member, or of a method if a parenthesis follows. -/
theorem memberAccess_reads (sound : SubSound scope sub) (dot : s.kind = .dot)
    (ran : Yields (memberAccess scope sub left) s e t) :
    Reads scope (.operator level inside left) s e t := by
  simp only [memberAccess, skip_then, memberName_then, check_then] at ran
  obtain ⟨name, ran⟩ := ran
  split at ran
  case isTrue opens =>
    obtain ⟨args, m, read, ran⟩ := bind_yields.mp ran
    simp only [spanFrom_then, ofExcept_yields] at ran
    obtain ⟨built, rfl⟩ := ran
    exact .memberCall dot name (by simpa using opens) (arguments_reads sound read) built
  case isFalse noCall =>
    simp only [spanFrom_then, ofExcept_yields] at ran
    obtain ⟨built, rfl⟩ := ran
    exact .member dot name (by simpa using noCall) built

theorem indexAccess_reads (sound : SubSound scope sub) (opens : s.kind = .leftBracket)
    (ran : Yields (indexAccess scope sub left) s e t) :
    Reads scope (.operator level inside left) s e t := by
  simp only [indexAccess, peek_then] at ran
  obtain ⟨args, m, read, ran⟩ := bind_yields.mp ran
  simp only [spanFrom_then, ofExcept_yields] at ran
  obtain ⟨built, rfl⟩ := ran
  exact .index opens (arguments_reads sound read) built

/-- Only a truth value decides between branches. -/
theorem checkCondition_ok : Expr.checkCondition left = .ok () ↔ left.ty.isBool := by
  simp [Expr.checkCondition, Expr.mistyped]

theorem branches_reads (sound : SubSound scope sub) (asks : s.kind = .question)
    (ran : Yields (branches scope sub left inside) s e t) :
    Reads scope (.operator level inside left) s e t := by
  simp only [branches, skip_then, ofExcept_then] at ran
  obtain ⟨⟨⟩, truth, ran⟩ := ran
  obtain ⟨yes, m, first, ran⟩ := bind_yields.mp ran
  obtain ⟨colon, ran⟩ := expect_then.mp ran
  obtain ⟨no, n, second, ran⟩ := bind_yields.mp ran
  obtain ⟨built, rfl⟩ := ofExcept_yields.mp ran
  exact .conditional asks (checkCondition_ok.mp truth) (sound _ _ _ _ _ first) colon
    (sound _ _ _ _ _ second) built

theorem coalesceRest_reads (sound : SubSound scope sub) (asks : s.kind = .questionQuestion)
    (ran : Yields (coalesceRest scope sub left level inside) s e t) :
    Reads scope (.operator level inside left) s e t := by
  simp only [coalesceRest, advance_then] at ran
  obtain ⟨right, m, read, ran⟩ := bind_yields.mp ran
  obtain ⟨built, rfl⟩ := ofExcept_yields.mp ran
  exact .coalesce asks (sound _ _ _ _ _ read) built

theorem testRest_reads {op : TypeTest} (asks : test? s.kind = some op)
    (ran : Yields (testRest scope op left) s e t) :
    Reads scope (.operator level inside left) s e t := by
  simp only [testRest, advance_then, expectType_then, spanFrom_then, ofExcept_yields] at ran
  obtain ⟨ty, m, named, built, rfl⟩ := ran
  exact .typeTest asks named built

/-- What stands behind an operand is told apart by one token. -/
theorem afterOperand_reads (sound : SubSound scope sub)
    (ran : Yields (afterOperand scope sub left s.peek level inside) s e t) :
    Reads scope (.operator level inside left) s e t := by
  unfold afterOperand at ran
  split at ran
  case h_1 kind => exact memberAccess_reads sound kind ran
  case h_2 kind => exact indexAccess_reads sound kind ran
  case h_3 kind => simp at ran
  case h_4 kind => exact branches_reads sound kind ran
  case h_5 kind => exact coalesceRest_reads sound kind ran
  case h_6 kind => exact testRest_reads (by rw [Stream.kind, kind]; rfl) ran
  case h_7 kind => exact testRest_reads (by rw [Stream.kind, kind]; rfl) ran
  case h_8 =>
    split at ran
    case h_1 => simp at ran
    case h_2 op sign =>
      simp only [skip_then] at ran
      obtain ⟨right, m, read, ran⟩ := bind_yields.mp ran
      obtain ⟨built, rfl⟩ := ofExcept_yields.mp ran
      exact .binary sign (sound _ _ _ _ _ read) built

/-- Operators are taken as long as they bind tighter than what is to the left of all of them. -/
theorem climb_reads {fuel : Nat} (sound : SubSound scope sub)
    (ran : Yields (climb scope sub least inside fuel left) s e t) :
    Reads scope (.operators least inside left) s e t := by
  induction fuel generalizing s left with
  | zero => simp [climb] at ran
  | succ fuel ih =>
    simp only [climb, peek_then, ofExcept_then] at ran
    obtain ⟨ended, ends, ran⟩ := ran
    split at ran
    case isTrue isOver =>
      obtain ⟨rfl, rfl⟩ := pure_yields.mp ran
      exact .done (.inl (isOver ▸ ends))
    case isFalse going =>
      simp only [Bool.not_eq_true] at going
      subst going
      split at ran
      case h_1 unbound =>
        obtain ⟨rfl, rfl⟩ := pure_yields.mp ran
        refine .done (.inr ⟨ends, fun level bound => ?_⟩)
        rw [Stream.kind, unbound] at bound
        cases bound
      case h_2 level bound =>
        split at ran
        case isTrue loose =>
          obtain ⟨rfl, rfl⟩ := pure_yields.mp ran
          refine .done (.inr ⟨ends, fun other same => ?_⟩)
          rw [Stream.kind, bound] at same
          cases same
          exact loose
        case isFalse tight =>
          obtain ⟨folded, m, first, rest⟩ := bind_yields.mp ran
          exact .more ⟨ends, bound, Nat.lt_of_not_le tight⟩ (afterOperand_reads sound first)
            (ih rest)

theorem level_of_sign {kind : TokenKind} (sign : isSign kind) :
    (Precedence.beforeOperand? kind).getD Precedence.unary = Precedence.unary := by
  cases kind <;> first | rfl | cases sign

theorem signed_reads (sound : SubSound scope sub) (sign : isSign s.kind)
    (ran : Yields (signed sub inside) s e t) : Reads scope (.operand inside) s e t := by
  have level : (Precedence.beforeOperand? s.peek.kind).getD Precedence.unary = Precedence.unary :=
    level_of_sign sign
  simp only [signed, advance_then, level] at ran
  obtain ⟨operand, m, read, ran⟩ := bind_yields.mp ran
  obtain ⟨built, rfl⟩ := ofExcept_yields.mp ran
  exact .sign sign (sound _ _ _ _ _ read) built

/-- A parenthesis opens a cast where the tokens in it are a type, and else a group. -/
theorem group_reads (sound : SubSound scope sub) (opens : s.kind = .leftParen)
    (ran : Yields (group scope sub inside) s e t) : Reads scope (.operand inside) s e t := by
  simp only [group, advance_then] at ran
  obtain ⟨ty, m, target, ran⟩ | ⟨noType, ran⟩ := attempt_then.mp ran
  · obtain ⟨operand, n, read, ran⟩ := bind_yields.mp ran
    obtain ⟨built, rfl⟩ := ofExcept_yields.mp ran
    exact .cast opens target (sound _ _ _ _ _ read) built
  · obtain ⟨inner, m, read, ran⟩ := bind_yields.mp ran
    obtain ⟨closes, ran⟩ := expect_then.mp ran
    obtain ⟨rfl, rfl⟩ := pure_yields.mp ran
    exact .group opens noType (sound _ _ _ _ _ read) closes

theorem single_ok {items : List Expr} {span : Span} {fault : TypingFault} :
    Expr.single items span fault = .ok e ↔ items = [e] := by
  unfold Expr.single
  split <;> simp_all [Expr.mistyped]

theorem checkIntegral_ok {fault : Ty → TypingFault} :
    Expr.checkIntegral e fault = .ok () ↔ e.ty.isIntegral := by
  simp [Expr.checkIntegral, Expr.mistyped]

theorem found_ok {α : Type} {answer : Option α} {span : Span} {owner : Ty} {member : String}
    {ref : α} : Expr.found answer span owner member = .ok ref ↔ answer = some ref := by
  cases answer <;> simp [Expr.found]

private theorem constructed_reads {m n : Stream} (sound : SubSound scope sub) (new : s.kind = .new)
    (named : type? scope s.next = some (ty, m)) (notArray : ty.element? = none)
    (given : Reads scope .givens m args n)
    (ran : Yields (do
      let constructor ← ofExcept (Expr.constructorFor scope.world ty args s.peek.span)
      let (init, values) ←
        if ← check .leftBrace then initializer scope sub ty else pure (.none, [])
      return .create ⟨ty, ← spanFrom s.peek.span⟩ constructor args init values) n e t) :
    Reads scope (.operand inside) s e t := by
  simp only [ofExcept_then, check_then] at ran
  obtain ⟨ref, resolved, ran⟩ := ran
  have resolved := found_ok.mp resolved
  split at ran
  case isTrue brace =>
    obtain ⟨⟨init, values⟩, k, filled, ran⟩ := bind_yields.mp ran
    simp only [spanFrom_then, pure_yields] at ran
    obtain ⟨rfl, rfl⟩ := ran
    exact .create new named notArray given resolved
      (initializer_reads sound (by simpa using brace) filled)
  case isFalse none =>
    simp only [pure_bind, spanFrom_then, pure_yields] at ran
    obtain ⟨rfl, rfl⟩ := ran
    exact .create new named notArray given resolved (.noInitializer (by simpa using none))

theorem newObject_reads {m : Stream} (sound : SubSound scope sub) (new : s.kind = .new)
    (named : type? scope s.next = some (ty, m)) (notArray : ty.element? = none)
    (ran : Yields (newObject scope sub s.peek.span ty) m e t) :
    Reads scope (.operand inside) s e t := by
  simp only [newObject, peek_then] at ran
  split at ran
  case isTrue => simp at ran
  case isFalse opens =>
    split at ran
    case isTrue paren =>
      obtain ⟨args, n, given, ran⟩ := bind_yields.mp ran
      exact constructed_reads sound new named notArray
        (.givens paren (arguments_reads sound given)) ran
    case isFalse noParen =>
      rw [pure_bind] at ran
      simp only [not_and, Decidable.not_not] at opens
      exact constructed_reads sound new named notArray (.noGivens (opens noParen)) ran

/-- The type behind the keyword decides whether an array or an object is made. -/
theorem creation_reads (sound : SubSound scope sub) (new : s.kind = .new)
    (ran : Yields (creation scope sub) s e t) : Reads scope (.operand inside) s e t := by
  simp only [creation, advance_then, expectType_then] at ran
  obtain ⟨ty, m, named, ran⟩ := ran
  split at ran
  case h_1 element isArray =>
    cases ty with
    | array inner =>
      cases isArray
      simp only [arrayItems, peek_then] at ran
      split at ran
      case isTrue opens =>
        obtain ⟨given, n, read, ran⟩ := bind_yields.mp ran
        simp only [ofExcept_then, spanFrom_then, pure_yields] at ran
        obtain ⟨items, built, rfl, rfl⟩ := ran
        exact .arrayItems new named opens (arguments_reads sound read) built
      case isFalse => simp at ran
    | _ => cases isArray
  case h_2 notArray =>
    simp only [check_then] at ran
    split at ran
    case isTrue opens =>
      simp only [arrayLength, peek_then] at ran
      obtain ⟨bounds, n, read, ran⟩ := bind_yields.mp ran
      simp only [ofExcept_then, spanFrom_then, pure_yields] at ran
      obtain ⟨length, one, ⟨⟩, integral, rfl, rfl⟩ := ran
      rw [single_ok.mp one] at read
      exact .arrayLength new named notArray (by simpa using opens) (arguments_reads sound read)
        (checkIntegral_ok.mp integral)
    case isFalse => exact newObject_reads sound new named notArray ran

/-- A name that is neither a parameter nor a member begins a type, and a static member of it follows.
-/
theorem staticAccess_reads (sound : SubSound scope sub) (begins : BeginsType scope s)
    (ran : Yields (staticAccess scope sub) s e t) : Reads scope (.operand inside) s e t := by
  simp only [staticAccess, peek_then] at ran
  obtain ⟨ty, m, named, ran⟩ | ⟨-, ran⟩ := attempt_then.mp ran
  · obtain ⟨dot, ran⟩ | ⟨-, ran⟩ := eat_then.mp ran
    · simp only [↓reduceIte, memberName_then, check_then] at ran
      obtain ⟨name, ran⟩ := ran
      split at ran
      case isTrue opens =>
        obtain ⟨args, n, read, ran⟩ := bind_yields.mp ran
        simp only [spanFrom_then, ofExcept_yields] at ran
        obtain ⟨built, rfl⟩ := ran
        exact .staticCall begins named dot name (by simpa using opens) (arguments_reads sound read)
          built
      case isFalse noCall =>
        simp only [spanFrom_then, ofExcept_yields] at ran
        obtain ⟨built, rfl⟩ := ran
        exact .staticMember begins named dot name (by simpa using noCall) built
    · simp at ran
  · simp at ran

/-- An access to the default instance that comes to nothing has consumed nothing. -/
theorem defaultAccess_none {receiver : Expr} {name : Token} {m : Stream}
    (ran : Yields (defaultAccess scope sub receiver name) s none m) : s = m := by
  simp only [defaultAccess, kindAt_then] at ran
  split at ran
  case isTrue =>
    simp only [skip_then] at ran
    obtain ⟨args, n, -, ran⟩ := bind_yields.mp ran
    simp only [spanFrom_then, ofExcept_then, pure_yields] at ran
    obtain ⟨node, -, some, -⟩ := ran
    cases some
  case isFalse =>
    split at ran
    case h_1 => exact (pure_yields.mp ran).2
    case h_2 =>
      simp only [skip_then, pure_yields] at ran
      cases ran.1

/-- A name is a parameter, else a member of the default instance, else the beginning of a type. -/
theorem named_reads (sound : SubSound scope sub) (name : s.kind = .identifier)
    (ran : Yields (named scope sub) s e t) : Reads scope (.operand inside) s e t := by
  simp only [named, peek_then] at ran
  split at ran
  case h_1 param declared =>
    simp only [skip_then, pure_yields] at ran
    obtain ⟨rfl, rfl⟩ := ran
    exact .parameter name declared
  case h_2 undeclared =>
    split at ran
    case h_1 noInstance =>
      exact staticAccess_reads sound ⟨name, undeclared, by simp [noInstance]⟩ ran
    case h_2 param receiver =>
      simp only [defaultAccess] at ran
      obtain ⟨answer, m, tried, ran⟩ := bind_yields.mp ran
      simp only [kindAt_then] at tried
      split at tried
      case isTrue opens =>
        simp only [skip_then] at tried
        obtain ⟨args, n, read, tried⟩ := bind_yields.mp tried
        simp only [spanFrom_then, ofExcept_then, pure_yields] at tried
        obtain ⟨node, built, rfl, rfl⟩ := tried
        obtain ⟨rfl, rfl⟩ := pure_yields.mp ran
        exact .defaultCall name undeclared receiver opens (arguments_reads sound read) built
      case isFalse noCall =>
        split at tried
        case h_1 noMember =>
          obtain ⟨rfl, rfl⟩ := pure_yields.mp tried
          refine staticAccess_reads sound ⟨name, undeclared, fun other same => ?_⟩ ran
          rw [receiver] at same
          cases same
          exact ⟨noCall, noMember⟩
        case h_2 node built =>
          simp only [skip_then, pure_yields] at tried
          obtain ⟨rfl, rfl⟩ := tried
          obtain ⟨rfl, rfl⟩ := pure_yields.mp ran
          exact .defaultMember name undeclared receiver noCall built

theorem literal_reads {value : Value} (constant : constant? s.peek = some (value, ty))
    (ran : Yields (literal value ty) s e t) : Reads scope (.operand inside) s e t := by
  simp only [literal, advance_then, pure_yields] at ran
  obtain ⟨rfl, rfl⟩ := ran
  exact .literal constant

/-- Every way in which an operand may begin has its rule. -/
theorem operand_reads (sound : SubSound scope sub) (ran : Yields (operand scope sub inside) s e t) :
    Reads scope (.operand inside) s e t := by
  simp only [operand, peek_then] at ran
  split at ran
  case h_1 kind =>
    split at ran
    case h_1 value number => exact literal_reads (by simp [constant?, kind, number]) ran
    case h_2 => simp at ran
  case h_2 kind => exact literal_reads (by simp [constant?, kind]) ran
  case h_3 kind =>
    split at ran
    case h_1 c rest lexeme => exact literal_reads (by simp [constant?, kind, lexeme]) ran
    case h_2 => simp at ran
  case h_4 kind => exact literal_reads (by simp [constant?, kind]) ran
  case h_5 kind => exact literal_reads (by simp [constant?, kind]) ran
  case h_6 kind => exact literal_reads (by simp [constant?, kind]) ran
  case h_7 kind => exact group_reads sound kind ran
  case h_8 kind => exact signed_reads sound (by rw [Stream.kind, kind]; rfl) ran
  case h_9 kind => exact signed_reads sound (by rw [Stream.kind, kind]; rfl) ran
  case h_10 kind => exact signed_reads sound (by rw [Stream.kind, kind]; rfl) ran
  case h_11 kind => exact signed_reads sound (by rw [Stream.kind, kind]; rfl) ran
  case h_12 kind => exact creation_reads sound kind ran
  case h_13 kind =>
    simp only [typeValue, advance_then, typeInParens_then, spanFrom_then, pure_yields] at ran
    obtain ⟨opens, ty, m, named, closes, rfl, rfl⟩ := ran
    exact .typeOf kind opens named closes
  case h_14 kind =>
    simp only [typeSize, advance_then, typeInParens_then, spanFrom_then, ofExcept_yields] at ran
    obtain ⟨opens, ty, m, named, closes, built, rfl⟩ := ran
    exact .sizeOf kind opens named closes built
  case h_15 kind => exact named_reads sound kind ran
  case h_16 => simp at ran

/-- Whatever is accepted as an expression has a derivation. -/
theorem expressionWithin_reads (depth : Nat) : SubSound scope (expressionWithin scope depth) := by
  induction depth with
  | zero =>
    intro least inside s e t ran
    simp [expressionWithin] at ran
  | succ depth ih =>
    intro least inside s e t ran
    simp only [expressionWithin] at ran
    obtain ⟨first, m, read, ran⟩ := bind_yields.mp ran
    exact .expression (operand_reads ih read) (climb_reads ih (fuel_then.mp ran))

theorem expression_reads (ran : Yields (expression scope least inside) s e t) :
    Reads scope (.expression least inside) s e t :=
  expressionWithin_reads _ _ _ _ _ _ (fuel_then.mp ran)

end Sound
end Formula.Reader
