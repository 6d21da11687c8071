import Formula.Expr.Build
import Formula.Reader.Bracket
import Formula.Reader.TypeName

/-! Reading expressions. An operand is read first, then operators as long as they bind tighter than
what surrounds the expression. Names are resolved and nodes are typed as they are read, so the first
fault in the text is the one that is found. Every reader here is given `sub`, which reads the
expressions inside it. -/
namespace Formula.Reader

/-- Reads an expression whose operators bind tighter than a number, inside a bracket. -/
abbrev Sub : Type := Nat → Option Bracket → Reader Expr

/-- Reads expressions separated by commas up to the closing bracket, at most `fuel` of them. -/
def itemsFrom (sub : Sub) (bracket : Bracket) : Nat → Reader (List Expr)
  | 0 => exhausted
  | fuel + 1 => do
    let first ← sub 0 (some bracket)
    if ← eat .comma then
      let others ← itemsFrom sub bracket fuel
      return first :: others
    else if ← eat bracket.closer then return [first]
    else
      let found ← peek
      fail (.grammar (.expectedSeparator bracket.closer.text found.description)) found.span

/-- Reads expressions in a bracket. -/
def arguments (sub : Sub) (bracket : Bracket) : Reader (List Expr) := do
  expect bracket.opener
  if ← eat bracket.closer then return []
  else itemsFrom sub bracket (← fuel)

/-- Reads the name of a member behind a dot. -/
def memberName : Reader Token := do
  let name ← peek
  if name.kind = .identifier then advance
  else fail (.grammar (.expectedMemberAfterDot name.description)) name.span

/-- Reads what follows the dot behind an operand. -/
def memberAccess (scope : Scope) (sub : Sub) (target : Expr) : Reader Expr := do
  discard advance
  let name ← memberName
  if ← check .leftParen then
    let args ← arguments sub .paren
    ofExcept (Expr.callOn scope.world target name args (← spanFrom target.span))
  else ofExcept (Expr.memberOf scope.world target name (← spanFrom target.span))

/-- Reads what stands in square brackets behind an operand. -/
def indexAccess (scope : Scope) (sub : Sub) (target : Expr) : Reader Expr := do
  let opening ← peek
  let args ← arguments sub .square
  ofExcept (Expr.indexInto scope.world target args opening.span (← spanFrom target.span))

/-- Reads the branches of a conditional. The second branch takes every operator that follows. -/
def branches (scope : Scope) (sub : Sub) (test : Expr) (inside : Option Bracket) :
    Reader Expr := do
  discard advance
  ofExcept (Expr.checkCondition test)
  let yes ← sub 0 inside
  expect .colon
  let no ← sub (Precedence.assignment - 1) inside
  ofExcept (Expr.choose scope.world test yes no)

/-- Reads the right side of `??`, which groups to the right. -/
def coalesceRest (scope : Scope) (sub : Sub) (left : Expr) (level : Nat)
    (inside : Option Bracket) : Reader Expr := do
  let sign ← advance
  let right ← sub (level - 1) inside
  ofExcept (Expr.coalesceWith scope.world left right sign.span)

/-- Reads the type of a test. -/
def testRest (scope : Scope) (op : TypeTest) (operand : Expr) : Reader Expr := do
  let keyword ← advance
  let target ← expectType scope
  ofExcept (Expr.testType op operand target keyword.span (← spanFrom operand.span))

/-- Reads an operator of some level behind an operand, and what belongs to it. -/
def afterOperand (scope : Scope) (sub : Sub) (left : Expr) (sign : Token) (level : Nat)
    (inside : Option Bracket) : Reader Expr :=
  match sign.kind with
  | .dot => memberAccess scope sub left
  | .leftBracket => indexAccess scope sub left
  | .leftParen => fail (.unsupported "invocation of a value") sign.span
  | .question => branches scope sub left inside
  | .questionQuestion => coalesceRest scope sub left level inside
  | .is => testRest scope .is left
  | .as => testRest scope .as left
  | kind =>
    match BinaryOp.ofToken? kind with
    | none => fail (.unsupported sign.lexeme) sign.span
    | some op => do
      discard advance
      let right ← sub level inside
      ofExcept (Expr.applyOperator scope.world op left right sign.span)

/-- Reads operators that bind tighter than `least`, at most `fuel` of them. -/
def climb (scope : Scope) (sub : Sub) (least : Nat) (inside : Option Bracket) :
    Nat → Expr → Reader Expr
  | 0, _ => exhausted
  | fuel + 1, left => do
    let sign ← peek
    if ← ofExcept (endsBefore sign inside) then return left
    else match Precedence.afterOperand? sign.kind with
      | none => return left
      | some level =>
        if level ≤ least then return left
        else
          let folded ← afterOperand scope sub left sign level inside
          climb scope sub least inside fuel folded

/-- Reads a sign and its operand. -/
def signed (sub : Sub) (inside : Option Bracket) : Reader Expr := do
  let sign ← advance
  let level := (Precedence.beforeOperand? sign.kind).getD Precedence.unary
  let operand ← sub level inside
  ofExcept (Expr.applySign sign operand)

/-- Reads a type in parentheses, as a cast has it, after the first parenthesis. -/
def castTarget? (scope : Scope) : Attempt Ty := fun stream =>
  (type? scope stream).bind fun (ty, after) =>
    (after.eat? .rightParen).map fun last => (ty, last)

/-- Reads a cast, or an expression in parentheses. -/
def group (scope : Scope) (sub : Sub) (inside : Option Bracket) : Reader Expr := do
  let opening ← advance
  match ← attempt (castTarget? scope) with
  | some target =>
    let level := (Precedence.beforeOperand? .leftParen).getD Precedence.unary
    let operand ← sub level inside
    ofExcept (Expr.castWritten scope.world operand target opening.span)
  | none =>
    let inner ← sub 0 (some .paren)
    expect .rightParen
    return inner

/-- Reads assignments to members up to the closing brace, at most `fuel` of them. -/
def assignmentsFrom (scope : Scope) (sub : Sub) (ty : Ty) :
    Nat → Reader (List (MemberRef × Expr))
  | 0 => exhausted
  | fuel + 1 => do
    let name ← peek
    if name.kind ≠ .identifier then
      fail (.grammar (.expectedMember name.description)) name.span
    else
      discard advance
      expect .equal
      let ref ← ofExcept (Expr.assignable scope.world ty name)
      let value ← sub 0 (some .brace)
      let value ← ofExcept (Expr.convertImplicit scope.world value ref.ty)
      if ← eat .comma then
        if ← eat .rightBrace then return [(ref, value)]
        else
          let others ← assignmentsFrom scope sub ty fuel
          return (ref, value) :: others
      else
        expect .rightBrace
        return [(ref, value)]

/-- Reads the braces behind a creation: assignments to members, or items to add. -/
def initializer (scope : Scope) (sub : Sub) (ty : Ty) : Reader (Initializer × List Expr) := do
  if (← kindAt 1) = .identifier ∧ (← kindAt 2) = .equal then
    discard advance
    let steps ← assignmentsFrom scope sub ty (← fuel)
    return (.members (steps.map (·.1)), steps.map (·.2))
  else
    let items ← arguments sub .brace
    let methods ← ofExcept (Expr.addsFor scope.world ty items)
    return (.adds methods, items)

/-- Reads the items of a new array. -/
def arrayItems (scope : Scope) (sub : Sub) (keyword : Span) (ty element : Ty) : Reader Expr := do
  let found ← peek
  if found.kind = .leftBrace then
    let items ← arguments sub .brace
    let items ← ofExcept (Expr.convertAll scope.world element items)
    return .arrayOf ⟨ty, ← spanFrom keyword⟩ element items
  else fail (.grammar (.expectedItems ty found.description)) found.span

/-- Reads the length of a new array. -/
def arrayLength (sub : Sub) (keyword : Span) (element : Ty) : Reader Expr := do
  let opening ← peek
  let bounds ← arguments sub .square
  let length ← ofExcept (Expr.single bounds opening.span .lengthCount)
  ofExcept (Expr.checkIntegral length .lengthType)
  return .newArray ⟨.array element, ← spanFrom keyword⟩ element length

/-- Reads the arguments and the initializer of a new object. -/
def newObject (scope : Scope) (sub : Sub) (keyword : Span) (ty : Ty) : Reader Expr := do
  let found ← peek
  if found.kind ≠ .leftParen ∧ found.kind ≠ .leftBrace then
    fail (.grammar (.expectedCreation ty found.description)) found.span
  else
    let args ← if found.kind = .leftParen then arguments sub .paren else pure []
    let constructor ← ofExcept (Expr.constructorFor scope.world ty args keyword)
    let (init, values) ←
      if ← check .leftBrace then initializer scope sub ty else pure (.none, [])
    return .create ⟨ty, ← spanFrom keyword⟩ constructor args init values

/-- Reads a creation. -/
def creation (scope : Scope) (sub : Sub) : Reader Expr := do
  let keyword ← advance
  let ty ← expectType scope
  match ty.element? with
  | some element => arrayItems scope sub keyword.span ty element
  | none =>
    if ← check .leftBracket then arrayLength sub keyword.span ty
    else newObject scope sub keyword.span ty

/-- Reads a type in parentheses. -/
def typeInParens (scope : Scope) : Reader Ty := do
  expect .leftParen
  let ty ← expectType scope
  expect .rightParen
  return ty

/-- The class of type values. -/
def typeClass : Ty := .named "System.Type"

/-- Reads a type as a value. -/
def typeValue (scope : Scope) : Reader Expr := do
  let keyword ← advance
  let ty ← typeInParens scope
  return .typeOf ⟨typeClass, ← spanFrom keyword.span⟩ ty

/-- Reads a type whose size is asked for. -/
def typeSize (scope : Scope) : Reader Expr := do
  let keyword ← advance
  let ty ← typeInParens scope
  ofExcept (Expr.measure ty (← spanFrom keyword.span))

/-- Reads a static member of the type that is next. -/
def staticAccess (scope : Scope) (sub : Sub) : Reader Expr := do
  let start ← peek
  match ← attempt (typePath? scope) with
  | none => unknownType
  | some ty =>
    if ← eat .dot then
      let name ← memberName
      if ← check .leftParen then
        let args ← arguments sub .paren
        ofExcept (Expr.callStatic scope.world ty name args (← spanFrom start.span))
      else ofExcept (Expr.memberStatic scope.world ty name (← spanFrom start.span))
    else
      let found ← peek
      fail (.grammar (.typeAlone ty)) found.span

/-- The node of a parameter. -/
def parameterNode (param : Parameter) (span : Span) : Expr :=
  .parameter ⟨param.ty, span⟩ param.ordinal param.name

/-- Reads a member of the default instance: a call, which has to be one, or a member, if it has the
one that is named. -/
def defaultAccess (scope : Scope) (sub : Sub) (receiver : Expr) (name : Token) :
    Reader (Option Expr) := do
  if (← kindAt 1) = .leftParen then
    discard advance
    let args ← arguments sub .paren
    let node ← ofExcept (Expr.callDefault scope.world receiver name args (← spanFrom name.span))
    return some node
  else match Expr.memberDefault? scope.world receiver name with
    | none => return none
    | some node =>
      discard advance
      return some node

/-- Reads what starts with a name: a parameter, a member of the default instance, or a static member
of a type, in this order. -/
def named (scope : Scope) (sub : Sub) : Reader Expr := do
  let name ← peek
  match scope.params.find? name.lexeme with
  | some param =>
    discard advance
    return parameterNode param name.span
  | none =>
    match scope.params.instance? with
    | none => staticAccess scope sub
    | some param =>
      match ← defaultAccess scope sub (parameterNode param name.span) name with
      | some node => return node
      | none => staticAccess scope sub

/-- Reads a literal with a value. -/
def literal (value : Value) (ty : Ty) : Reader Expr := do
  let token ← advance
  return .literal ⟨ty, token.span⟩ value

/-- Reads an operand. -/
def operand (scope : Scope) (sub : Sub) (inside : Option Bracket) : Reader Expr := do
  let token ← peek
  match token.kind with
  | .number =>
    match token.number with
    | some value => literal value value.ty
    | none => fail (.grammar .malformedNumber) token.span
  | .string => literal (.string token.lexeme) .string
  | .char =>
    match token.lexeme.toList with
    | c :: _ => literal (.char c) .char
    | [] => fail (.grammar .emptyCharacter) token.span
  | .trueWord => literal (.bool true) .bool
  | .falseWord => literal (.bool false) .bool
  | .null => literal .null .null
  | .leftParen => group scope sub inside
  | .plus | .minus | .bang | .tilde => signed sub inside
  | .new => creation scope sub
  | .typeOf => typeValue scope
  | .sizeOf => typeSize scope
  | .identifier => named scope sub
  | _ => throw (noExpression token inside)

/-- Reads an expression that is nested at most `fuel` deep. -/
def expressionWithin (scope : Scope) : Nat → Sub
  | 0, _, _ => exhausted
  | depth + 1, least, inside => do
    let first ← operand scope (expressionWithin scope depth) inside
    climb scope (expressionWithin scope depth) least inside (← fuel) first

/-- Reads an expression whose operators bind tighter than `least`. -/
def expression (scope : Scope) (least : Nat) (inside : Option Bracket) : Reader Expr := do
  expressionWithin scope (← fuel) least inside

end Formula.Reader
