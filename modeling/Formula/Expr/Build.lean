import Formula.CompileError
import Formula.Expr.Basic
import Formula.Promotion

/-! Typed nodes. Each function takes the parts of a node, finds the overload or the conversions that
the types of the parts call for, and fails where there are none. -/
namespace Formula.Expr

/-- A fault of typing at a place. -/
def mistyped {α : Type} (span : Span) (fault : TypingFault) : Except CompileError α :=
  .error ⟨.typing fault, span⟩

/-- The answer to a question about members, or that there is no such member. -/
def found {α : Type} (answer : Option α) (span : Span) (owner : Ty) (member : String) :
    Except CompileError α :=
  match answer with
  | some ref => .ok ref
  | none => .error ⟨.memberNotFound owner member, span⟩

/-- How a call reads in an error. -/
def callText (name : String) (args : List Ty) : String := name ++ "(" ++ Ty.listText args ++ ")"

/-- The expression where a type is expected. -/
def convertImplicit (world : Universe) (expr : Expr) (target : Ty) : Except CompileError Expr :=
  if world.implicitlyConverts expr.ty target then .ok (expr.castTo target)
  else mistyped expr.span (.implicitConversion expr.ty target)

/-- Expressions where a type is expected, in order. -/
def convertAll (world : Universe) (target : Ty) : List Expr → Except CompileError (List Expr)
  | [] => .ok []
  | expr :: rest => do
    let first ← convertImplicit world expr target
    let others ← convertAll world target rest
    return first :: others

/-- The operator that a sign before an operand of some type stands for; a plus sign before a number
stands for none. -/
def unaryOp? (sign : TokenKind) (operand : Ty) : Option (Option UnaryOp) :=
  match sign with
  | .plus => if operand.isNumeric then some none else none
  | .minus => if operand.kind?.any Kind.isSigned then some (some .negate) else none
  | .bang | .tilde =>
    if operand.isBool then some (some .not)
    else if operand.isIntegral then some (some .complement)
    else none
  | _ => none

/-- A sign before an operand. -/
def applySign (sign : Token) (operand : Expr) : Except CompileError Expr :=
  match unaryOp? sign.kind operand.ty with
  | some none => .ok operand
  | some (some op) => .ok (unary ⟨operand.ty, sign.span.join operand.span⟩ op operand)
  | none => mistyped sign.span (.unaryOperand sign.lexeme operand.ty)

/-- The type at which an operator takes both operands, and the type of its result. Shifts are not
asked about: their operands differ. -/
def operandTypes? (op : BinaryOp) (left right : Ty) : Option (Ty × Ty) :=
  match op.family with
  | .arithmetic => (promote left right).map fun ty => (ty, ty)
  | .relational =>
    if left = right ∧ (left.isNumeric ∨ left = .char) then some (left, .bool) else none
  | .equality => (equalityOperand left right).map fun ty => (ty, .bool)
  | .bitwise => if left = right ∧ (left.isIntegral ∨ left.isBool) then some (left, left) else none
  | .logical => if left.isBool ∧ right.isBool then some (.bool, .bool) else none
  | .shift => none

/-- The method that joins two texts. -/
def concatName : String := "Concat"

/-- The joined texts of two values. -/
def concat (world : Universe) (left right : Expr) (sign : Span) : Except CompileError Expr :=
  if left.ty.isVoid || right.ty.isVoid then mistyped sign .concatenatedVoid
  else do
    let params := [Ty.object, Ty.object]
    let method ← found (world.method .string concatName params true) sign .string
      (callText concatName params)
    return staticCall ⟨method.result, left.span.join right.span⟩ method
      [left.castTo .object, right.castTo .object]

/-- An operator between two operands; a plus sign beside a text joins texts. -/
def applyOperator (world : Universe) (op : BinaryOp) (left right : Expr) (sign : Span) :
    Except CompileError Expr :=
  let span := left.span.join right.span
  let mismatch := TypingFault.binaryOperands op.text left.ty right.ty
  if op = .add ∧ (left.ty.isString ∨ right.ty.isString) then concat world left right sign
  else if op.family = .shift then
    if left.ty.isIntegral ∧ right.ty = .int then .ok (binary ⟨left.ty, span⟩ op left right)
    else mistyped sign mismatch
  else match operandTypes? op left.ty right.ty with
    | some (operand, result) =>
      .ok (binary ⟨result, span⟩ op (left.castTo operand) (right.castTo operand))
    | none => mistyped sign mismatch

/-- The test of a conditional, which is a truth value. -/
def checkCondition (test : Expr) : Except CompileError Unit :=
  if test.ty.isBool then .ok () else mistyped test.span (.condition test.ty)

/-- A conditional over a test that is a truth value. -/
def choose (world : Universe) (test yes no : Expr) : Except CompileError Expr :=
  match world.unify yes.ty no.ty with
  | some ty =>
    .ok (conditional ⟨ty, test.span.join no.span⟩ test (yes.castTo ty) (no.castTo ty))
  | none => mistyped (yes.span.join no.span) (.branches yes.ty no.ty)

/-- The type of a value that replaces `null` by another. -/
def coalescedType? (world : Universe) (left right : Ty) : Option Ty :=
  if left = .null ∨ right = left.stripped ∨ right = left then some right
  else if right = .null then some left
  else match promote left.stripped right with
    | some ty => some ty
    | none => if world.implicitlyConverts right left then some left else none

/-- A value, or another where it is `null`. -/
def coalesceWith (world : Universe) (left right : Expr) (sign : Span) : Except CompileError Expr :=
  if !left.ty.acceptsNull then mistyped sign (.coalescedValue left.ty)
  else match coalescedType? world left.ty right.ty with
    | some ty => .ok (coalesce ⟨ty, left.span.join right.span⟩ left (right.castTo ty))
    | none => mistyped sign (.binaryOperands TokenKind.questionQuestion.text left.ty right.ty)

/-- A test of a type, at the keyword that asks for it. -/
def testType (op : TypeTest) (operand : Expr) (target : Ty) (keyword span : Span) :
    Except CompileError Expr :=
  match op with
  | .is => .ok (typeTest ⟨.bool, span⟩ .is target operand)
  | .as =>
    if target.acceptsNull then .ok (typeTest ⟨target, span⟩ .as target operand)
    else mistyped keyword (.testedValueType target)

/-- A cast that was written; nothing is built where the operand has the type already. -/
def castWritten (world : Universe) (operand : Expr) (target : Ty) (opening : Span) :
    Except CompileError Expr :=
  let span := opening.join operand.span
  if !world.castAllowed operand.ty target then mistyped span (.explicitConversion operand.ty target)
  else if operand.ty = target then .ok operand
  else .ok (cast ⟨target, span⟩ operand)

/-- A call of a method of an instance, whose name is written at a place. -/
def callOn (world : Universe) (target : Expr) (name : Token) (args : List Expr) (span : Span) :
    Except CompileError Expr := do
  let method ← found (world.method target.ty name.lexeme (types args) false) name.span target.ty
    (callText name.lexeme (types args))
  return call ⟨method.result, span⟩ method target args

/-- A member of an instance. -/
def memberOf (world : Universe) (target : Expr) (name : Token) (span : Span) :
    Except CompileError Expr := do
  let ref ← found (world.member target.ty name.lexeme false) name.span target.ty name.lexeme
  return member ⟨ref.ty, span⟩ ref target

/-- A call of a static method of a type. -/
def callStatic (world : Universe) (owner : Ty) (name : Token) (args : List Expr) (span : Span) :
    Except CompileError Expr := do
  let method ← found (world.method owner name.lexeme (types args) true) name.span owner
    (callText name.lexeme (types args))
  return staticCall ⟨method.result, span⟩ method args

/-- A static member of a type. -/
def memberStatic (world : Universe) (owner : Ty) (name : Token) (span : Span) :
    Except CompileError Expr := do
  let ref ← found (world.member owner name.lexeme true) name.span owner name.lexeme
  return staticMember ⟨ref.ty, span⟩ ref

/-- A call of a method of the default instance, or of a static method of its type. -/
def callDefault (world : Universe) (receiver : Expr) (name : Token) (args : List Expr)
    (span : Span) : Except CompileError Expr :=
  match world.method receiver.ty name.lexeme (types args) false with
  | some method => .ok (call ⟨method.result, span⟩ method receiver args)
  | none => callStatic world receiver.ty name args span

/-- A member of the default instance, or a static member of its type, if it has one. -/
def memberDefault? (world : Universe) (receiver : Expr) (name : Token) : Option Expr :=
  match world.member receiver.ty name.lexeme false with
  | some ref => some (member ⟨ref.ty, name.span⟩ ref receiver)
  | none =>
    (world.member receiver.ty name.lexeme true).map fun ref =>
      staticMember ⟨ref.ty, name.span⟩ ref

/-- The single item of a list of one. -/
def single (items : List Expr) (span : Span) (fault : TypingFault) : Except CompileError Expr :=
  match items with
  | [item] => .ok item
  | _ => mistyped span fault

/-- An integer where one is needed. -/
def checkIntegral (expr : Expr) (fault : Ty → TypingFault) : Except CompileError Unit :=
  if expr.ty.isIntegral then .ok () else mistyped expr.span (fault expr.ty)

/-- An item of an array, or a call of what indexing goes to. -/
def indexInto (world : Universe) (target : Expr) (args : List Expr) (opening span : Span) :
    Except CompileError Expr :=
  match target.ty.element? with
  | some element => do
    let position ← single args opening .indexCount
    checkIntegral position .indexType
    return index ⟨element, span⟩ target position
  | none => do
    let indexer? := (world.indexer target.ty).filter fun ref =>
      paramsMatch ref.getter.params (types args)
    let indexer ← found indexer? opening target.ty ("this[" ++ Ty.listText (types args) ++ "]")
    return call ⟨indexer.getter.result, span⟩ indexer.getter target args

/-- The method that adds an item to a collection. -/
def addName : String := "Add"

/-- The methods that add items to an object of a type. -/
def addsFor (world : Universe) (ty : Ty) : List Expr → Except CompileError (List MethodRef)
  | [] => .ok []
  | item :: rest => do
    let method ← found (world.method ty addName [item.ty] false) item.span ty
      (callText addName [item.ty])
    let others ← addsFor world ty rest
    return method :: others

/-- The member of a type that an initializer assigns to. -/
def assignable (world : Universe) (ty : Ty) (name : Token) : Except CompileError MemberRef := do
  let ref ← found (world.member ty name.lexeme false) name.span ty name.lexeme
  if ref.setter.isNone && !ref.flags.isWritable then
    mistyped name.span (.readOnly ty ref.name)
  else return ref

/-- The constructor for some arguments. -/
def constructorFor (world : Universe) (ty : Ty) (args : List Expr) (keyword : Span) :
    Except CompileError ConstructorRef :=
  found (world.creator ty (types args)) keyword ty (callText ".ctor" (types args))

/-- The size of a primitive type. -/
def measure (ty : Ty) (span : Span) : Except CompileError Expr :=
  if ty.kind?.isSome then .ok (sizeOf ⟨.int, span⟩ ty) else mistyped span (.unsized ty)

end Formula.Expr
