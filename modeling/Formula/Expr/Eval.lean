import Formula.Expr.Basic
import Formula.Value.Convert
import Formula.Value.Operate

/-! Evaluation of typed trees. Subexpressions are evaluated from left to right against the arguments
and the store; `&&`, `||`, `??` and conditionals evaluate only what decides their value. -/
namespace Formula.Expr

/-- A computation of a running formula. -/
abbrev Run (α : Type) : Type := Action RuntimeError α

/-- Calls what is behind a member. -/
def callNative (native : Native) (this : Option Value) (args : List Value) (declaring : Ty) :
    Run Value :=
  Action.mapError .native (native ⟨this, args, declaring⟩)

/-- A receiver that may be used: one that is not `null`, or any of a nullable type. -/
def checkReceiver (static : Ty) (use : Use) (value : Value) : Except RuntimeError Value :=
  if value.isNull && static.inner?.isNone then .error (.nullReceiver use) else .ok value

/-- The argument at a place. -/
def argumentAt (args : List Value) (ordinal : Nat) : Except RuntimeError Value :=
  match args[ordinal]? with
  | some value => .ok value
  | none => .error (.missingArgument ordinal args.length)

/-- The items of an array. -/
def itemsOf : Value → Except RuntimeError (List Value)
  | .array _ _ items => .ok items
  | found => .error (.notArray found.ty)

/-- The item of an array at a position. A position beyond every integer index counts as the greatest
of them. -/
def itemAt (items : List Value) (position : Value) : Except RuntimeError Value :=
  let index := position.index?.getD IntKind.long.greatest
  match if index < 0 then none else items[index.toNat]? with
  | some value => .ok value
  | none => .error (.indexOutOfRange index items.length)

/-- The length of a new array. -/
def lengthOf (value : Value) : Except RuntimeError Nat :=
  match value.index? with
  | some n => if n < 0 then .error (.overflow .arrayCreation) else .ok n.toNat
  | none => .error (.overflow .arrayCreation)

/-- The size of a type, as a value. -/
def sizeValue (ty : Ty) : Except RuntimeError Value :=
  match ty.kind? with
  | some kind => .ok (.int kind.size)
  | none => .error (.unsized ty)

/-- What a test of a type computes. -/
def testValue (op : TypeTest) (value : Value) (target : Ty) : Value :=
  match op with
  | .is => .bool (value.isInstance target)
  | .as => value.asInstance target

/-- What is done with one value of an initializer. -/
structure Step where
  native : Option Native
  owner : Ty
  name : String

/-- What is done with the values of an initializer, one by one. -/
def steps : Initializer → List Step
  | .none => []
  | .members refs => refs.map fun ref => ⟨ref.setter, ref.owner, ref.name⟩
  | .adds refs => refs.map fun ref => ⟨some ref.native, ref.owner, ref.name⟩

/-- Hands a value to a new object. -/
def takeStep (object value : Value) (step : Step) : Run Unit :=
  match step.native with
  | some native => discard (callNative native (some object) [value] step.owner)
  | none => throw (.native (.other s!"'{step.name}' cannot be assigned"))

mutual
/-- Evaluates a tree. -/
def eval (args : List Value) : Expr → Run Value
  | literal _ value => return value
  | parameter _ ordinal _ => Action.ofExcept (argumentAt args ordinal)
  | unary _ op operand => do
    let value ← eval args operand
    Action.ofExcept (value.operateUnary op)
  | binary _ op left right =>
    match op, Value.operate? op with
    | _, some compute => do
      let a ← eval args left
      let b ← eval args right
      Action.ofExcept (compute a b)
    | op, none => do
      let a ← Action.ofExcept (← eval args left).truth
      -- `&&` is settled by a false operand, `||` by a true one
      if a == (op == .or) then return .bool a
      else return .bool (← Action.ofExcept (← eval args right).truth)
  | conditional _ test yes no => do
    if ← Action.ofExcept (← eval args test).truth then eval args yes else eval args no
  | coalesce info left right => do
    let value ← eval args left
    if value.isNull then eval args right
    else Action.ofExcept (value.cast left.ty info.ty)
  | staticCall _ method operands => do
    let values ← evalAll args operands
    callNative method.native none values method.owner
  | call _ method target operands => do
    let this ← eval args target
    let this ← Action.ofExcept (checkReceiver target.ty (.calling method.name) this)
    let values ← evalAll args operands
    callNative method.native (some this) values method.owner
  | staticMember _ ref => callNative ref.getter none [] ref.owner
  | member _ ref target => do
    let this ← eval args target
    let this ← Action.ofExcept (checkReceiver target.ty (.reading ref.name) this)
    callNative ref.getter (some this) [] ref.owner
  | index _ target position => do
    let array ← eval args target
    let array ← Action.ofExcept (checkReceiver target.ty .indexing array)
    let items ← Action.ofExcept (itemsOf array)
    let at_ ← eval args position
    Action.ofExcept (itemAt items at_)
  | create _ ref operands init values => do
    let given ← evalAll args operands
    let object ← callNative ref.native none given ref.ty
    evalSteps args object (steps init) values
    return object
  | newArray _ element length => do
    let count ← Action.ofExcept (lengthOf (← eval args length))
    Action.newArray element (List.replicate count (Value.defaultOf element))
  | arrayOf _ element items => do
    let values ← evalAll args items
    Action.newArray element values
  | cast info operand => do
    let value ← eval args operand
    Action.ofExcept (value.cast operand.ty info.ty)
  | typeOf _ ty => return .type ty
  | sizeOf _ ty => Action.ofExcept (sizeValue ty)
  | typeTest _ op target operand => do
    let value ← eval args operand
    return testValue op value target

/-- Evaluates trees from left to right. -/
def evalAll (args : List Value) : List Expr → Run (List Value)
  | [] => return []
  | expr :: rest => do
    let value ← eval args expr
    let values ← evalAll args rest
    return value :: values

/-- Evaluates the values of an initializer from left to right and hands each to the new object before
the next is evaluated. -/
def evalSteps (args : List Value) (object : Value) : List Step → List Expr → Run Unit
  | step :: steps, expr :: rest => do
    let value ← eval args expr
    takeStep object value step
    evalSteps args object steps rest
  | _, _ => return ()
end

end Formula.Expr
