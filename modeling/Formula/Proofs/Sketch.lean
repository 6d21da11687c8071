import Formula.Expr.Build
import Formula.Parameters
import Formula.Proofs.Lexing

/-! Formulas of names, literals and operators, how they are written and what type they have. A sketch
is such a formula without places and conversions; it is written with a pair of parentheses only where
the levels of its operators call for one. -/
namespace Formula

/-- The token of an operator before an operand. -/
def UnaryOp.sign : UnaryOp → TokenKind
  | negate => .minus
  | not => .bang
  | complement => .tilde

/-- How tightly an operator binds. -/
def BinaryOp.level (op : BinaryOp) : Nat := (Precedence.afterOperand? op.token).getD 0

theorem BinaryOp.level_eq (op : BinaryOp) : Precedence.afterOperand? op.token = some op.level := by
  cases op <;> rfl

theorem BinaryOp.level_bounds (op : BinaryOp) :
    Precedence.assignment < op.level ∧ op.level < Precedence.unary := by
  cases op <;> decide

theorem BinaryOp.ofToken_token (op : BinaryOp) : BinaryOp.ofToken? op.token = some op := by
  cases op <;> rfl

/-- What a formula of names, literals and operators says, whatever its types, conversions and
places. -/
inductive Sketch where
  | name (text : String)
  | integer (kind : IntKind) (word : Word kind)
  | bool (value : Bool)
  | unary (op : UnaryOp) (operand : Sketch)
  | binary (op : BinaryOp) (left right : Sketch)
  | conditional (test yes no : Sketch)
  | coalesce (left right : Sketch)
  deriving DecidableEq

namespace Sketch

/-- How tightly a formula holds together: tighter than any operator unless it is made with one. A
conditional takes whatever follows it, so it is looser than all operators. -/
def binds : Sketch → Nat
  | binary op _ _ => op.level
  | coalesce _ _ => Precedence.assignment
  | conditional _ _ _ => Precedence.assignment - 1
  | _ => Precedence.access

/-- What is written where an operand stands, in parentheses if they are needed. -/
def wrapped (needed : Bool) (lexemes : List Lexeme) : List Lexeme :=
  if needed then .symbol .leftParen :: (lexemes ++ [.symbol .rightParen]) else lexemes

/-- A formula as it is written. The left operand of an operator stands in parentheses where it binds
looser, the right one where it binds looser or as tightly; the operand of a sign, where it is made
with an operator between operands; a test and the left side of `??`, where they are conditionals or
`??` themselves. Branches and the right side of `??` never do. -/
def lexemes : Sketch → List Lexeme
  | name text => [.name text]
  | integer kind word => [.integer kind word]
  | bool value => [.bool value]
  | unary op operand =>
    .symbol op.sign :: wrapped (operand.binds ≤ Precedence.unary) operand.lexemes
  | binary op left right =>
    wrapped (left.binds < op.level) left.lexemes ++
      .symbol op.token :: wrapped (right.binds ≤ op.level) right.lexemes
  | conditional test yes no =>
    wrapped (test.binds ≤ Precedence.assignment) test.lexemes ++
      .symbol .question :: (yes.lexemes ++ .symbol .colon :: no.lexemes)
  | coalesce left right =>
    wrapped (left.binds ≤ Precedence.assignment) left.lexemes ++
      .symbol .questionQuestion :: right.lexemes

/-- The text of a formula. -/
def text (sketch : Sketch) : String := Lexeme.text sketch.lexemes

/-- The names and literals of a formula. -/
def leaves : Sketch → List Lexeme
  | name text => [.name text]
  | integer kind word => [.integer kind word]
  | bool value => [.bool value]
  | unary _ operand => operand.leaves
  | binary _ left right | coalesce left right => left.leaves ++ right.leaves
  | conditional test yes no => test.leaves ++ yes.leaves ++ no.leaves

/-- The names in a formula. -/
def names (sketch : Sketch) : List String := sketch.leaves.filterMap Lexeme.name?

/-- The type of a formula, if it has one. -/
def type? (world : Universe) (params : Parameters) : Sketch → Option Ty
  | name text => (params.find? text).map (·.ty)
  | integer kind word => some (Value.integer kind word).ty
  | bool _ => some .bool
  | unary op operand => do
    let ty ← operand.type? world params
    if Expr.unaryOp? op.sign ty = some (some op) then some ty else none
  | binary op left right => do
    let left ← left.type? world params
    let right ← right.type? world params
    if op.family = .shift then if left.isIntegral ∧ right = .int then some left else none
    else (Expr.operandTypes? op left right).map (·.2)
  | conditional test yes no => do
    let test ← test.type? world params
    let yes ← yes.type? world params
    let no ← no.type? world params
    if test.isBool then world.unify yes no else none
  | coalesce left right => do
    let left ← left.type? world params
    let right ← right.type? world params
    if left.acceptsNull then Expr.coalescedType? world left right else none

end Sketch

/-- What a tree says without its conversions and places, if it is made of names, literals and
operators. A name says what it stands for only if it is the parameter that the name finds. -/
def Expr.sketch? (params : Parameters) : Expr → Option Sketch
  | literal _ (.integer kind word) => some (.integer kind word)
  | literal _ (.bool value) => some (.bool value)
  | parameter info ordinal name =>
    if params.find? name = some ⟨name, info.ty, ordinal⟩ then some (.name name) else none
  | unary _ op operand => (operand.sketch? params).map (.unary op)
  | binary _ op left right => do
    return .binary op (← left.sketch? params) (← right.sketch? params)
  | conditional _ test yes no => do
    return .conditional (← test.sketch? params) (← yes.sketch? params) (← no.sketch? params)
  | coalesce _ left right => do
    return .coalesce (← left.sketch? params) (← right.sketch? params)
  | cast _ operand => operand.sketch? params
  | _ => none

namespace Sketch

variable {p : Lexeme → Prop}

/-- The symbols that formulas are written with. -/
def symbols : List TokenKind :=
  [.leftParen, .rightParen, .question, .colon, .questionQuestion] ++
    [UnaryOp.negate, .not, .complement].map UnaryOp.sign ++ BinaryOp.all.map BinaryOp.token

theorem forall_wrapped {needed : Bool} {lexemes : List Lexeme}
    (symbol : ∀ kind ∈ symbols, p (.symbol kind)) (all : ∀ lexeme ∈ lexemes, p lexeme) :
    ∀ lexeme ∈ wrapped needed lexemes, p lexeme := by
  cases needed with
  | false => exact all
  | true =>
    simp only [wrapped, if_true, List.forall_mem_cons, List.forall_mem_append]
    exact ⟨symbol _ (by decide), all, symbol _ (by decide), List.forall_mem_nil _⟩

/-- What holds of its names and literals and of symbols holds of all that a formula is written with. -/
theorem forall_lexemes {sketch : Sketch} (symbol : ∀ kind ∈ symbols, p (.symbol kind))
    (leaf : ∀ lexeme ∈ sketch.leaves, p lexeme) : ∀ lexeme ∈ sketch.lexemes, p lexeme := by
  induction sketch with
  | name | integer | bool => exact leaf
  | unary op operand ih =>
    simp only [lexemes, List.forall_mem_cons]
    exact ⟨symbol _ (by cases op <;> decide), forall_wrapped symbol (ih leaf)⟩
  | binary op left right ihLeft ihRight =>
    simp only [leaves, List.forall_mem_append] at leaf
    simp only [lexemes, List.forall_mem_cons, List.forall_mem_append]
    exact ⟨forall_wrapped symbol (ihLeft leaf.1), symbol _ (by cases op <;> decide),
      forall_wrapped symbol (ihRight leaf.2)⟩
  | conditional test yes no ihTest ihYes ihNo =>
    simp only [leaves, List.forall_mem_append] at leaf
    simp only [lexemes, List.forall_mem_cons, List.forall_mem_append]
    exact ⟨forall_wrapped symbol (ihTest leaf.1.1), symbol _ (by decide), ihYes leaf.1.2,
      symbol _ (by decide), ihNo leaf.2⟩
  | coalesce left right ihLeft ihRight =>
    simp only [leaves, List.forall_mem_append] at leaf
    simp only [lexemes, List.forall_mem_cons, List.forall_mem_append]
    exact ⟨forall_wrapped symbol (ihLeft leaf.1), symbol _ (by decide), ihRight leaf.2⟩

theorem symbol_notMem_leaves {kind : TokenKind} (sketch : Sketch) :
    .symbol kind ∉ sketch.leaves := by
  induction sketch <;> simp_all [leaves]

end Sketch

/-- What an operator behind a formula has to bind looser than, or as tightly as, so that nothing
inside the formula takes it. -/
def Sketch.reach : Sketch → Nat
  | .binary op _ _ => op.level
  | .coalesce _ _ | .conditional _ _ _ => Precedence.assignment - 1
  | _ => Precedence.unary

namespace Sketch

variable {sketch : Sketch} {level : Nat}

theorem reach_eq (sketch : Sketch) : sketch.reach = sketch.binds ∨
    sketch.reach + 1 = sketch.binds ∧
      (sketch.binds ≤ Precedence.assignment ∨ Precedence.unary < sketch.binds) := by
  cases sketch with
  | binary | conditional => exact .inl rfl
  | coalesce => exact .inr ⟨rfl, .inl (Nat.le_refl _)⟩
  | name | integer | bool | unary => exact .inr ⟨rfl, .inr (Nat.lt_succ_self _)⟩

/-- What is looser than a formula is not taken by anything inside. -/
theorem le_reach (looser : level < sketch.binds) : level ≤ sketch.reach := by
  have reach := sketch.reach_eq
  omega

/-- Nor is an operator between two operands that binds as tightly as the formula does. -/
theorem operator_le_reach (above : Precedence.assignment < level) (below : level < Precedence.unary)
    (looser : level ≤ sketch.binds) : level ≤ sketch.reach := by
  have reach := sketch.reach_eq
  omega

theorem ending_le_reach (sketch : Sketch) : Precedence.assignment - 1 ≤ sketch.reach := by
  cases sketch with
  | binary op =>
    have bounds := op.level_bounds
    simp only [reach]
    omega
  | conditional | coalesce => exact Nat.le_refl _
  | name | integer | bool | unary => exact Nat.le_of_ble_eq_true rfl

end Sketch

namespace Expr

variable {params : Parameters} {world : Universe} {l r : Expr}

@[simp] theorem castTo_sketch (e : Expr) (ty : Ty) :
    (e.castTo ty).sketch? params = e.sketch? params := by
  unfold castTo
  split <;> rfl

theorem noText_of_promote {left right ty : Ty} (found : promote left right = some ty) :
    ¬ (left.isString ∨ right.isString) := by
  rintro (text | text)
  · have same : left = .string := by simpa [Ty.isString] using text
    subst same
    simp [promote, Ty.isNumeric, Ty.rank?, Ty.kind?] at found
  · have same : right = .string := by simpa [Ty.isString] using text
    subst same
    unfold promote at found
    split at found
    case isTrue both =>
      rw [both.1] at both
      simp [Ty.isNumeric] at both
    case isFalse => simp [Ty.rank?, Ty.kind?] at found

/-- An operator between two formulas is applied as the types of the formulas say. -/
theorem applyOperator_sketch {op : BinaryOp} {left right : Sketch} {ty : Ty} (sign : Span)
    (leftSketch : l.sketch? params = some left) (rightSketch : r.sketch? params = some right)
    (typed : (if op.family = .shift then if l.ty.isIntegral ∧ r.ty = .int then some l.ty else none
      else (operandTypes? op l.ty r.ty).map (·.2)) = some ty) :
    ∃ e, applyOperator world op l r sign = .ok e ∧ e.ty = ty ∧
      e.sketch? params = some (.binary op left right) := by
  unfold applyOperator
  by_cases shift : op.family = .shift
  · have noPlus : op ≠ .add := by
      rintro rfl
      cases shift
    rw [if_pos shift] at typed
    split at typed
    case isTrue operands =>
      cases typed
      refine ⟨.binary ⟨l.ty, l.span.join r.span⟩ op l r, ?_, rfl, ?_⟩
      · simp [noPlus, shift, operands]
      · simp [sketch?, leftSketch, rightSketch]
    case isFalse => cases typed
  · rw [if_neg shift] at typed
    obtain ⟨⟨operand, result⟩, found, rfl⟩ := Option.map_eq_some_iff.mp typed
    have noText : ¬ (op = .add ∧ (l.ty.isString ∨ r.ty.isString)) := by
      rintro ⟨rfl, text⟩
      obtain ⟨ty, promoted, -⟩ := Option.map_eq_some_iff.mp found
      exact noText_of_promote promoted text
    refine ⟨.binary ⟨result, l.span.join r.span⟩ op (l.castTo operand) (r.castTo operand), ?_, rfl, ?_⟩
    · simp only [if_neg noText, if_neg shift, found]
    · simp [sketch?, leftSketch, rightSketch]

end Expr

end Formula
