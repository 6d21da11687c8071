import Formula.Expr.Eval
import Formula.Reader.Lambda
import Formula.Signature

/-! Compiled functions: formulas bound to a signature, which can be called with values or, where the
signature was made from host shapes, with host values. -/
namespace Formula

/-- How a formula is read. -/
structure Options where
  /-- Where the names of types are looked up that are not found as written, in this order. -/
  namespaces : List String
  /-- The type of a default instance that comes before the declared parameters. -/
  receiver : Option Ty
  /-- Whether the first declared parameter is the default instance, and `receiver` is not used. -/
  firstIsReceiver : Bool
  deriving DecidableEq

/-- A formula that has the shape of its signature: the parameters in force, the body and the type of
the result. -/
structure BoundLambda where
  params : Parameters
  body : Expr
  result : Ty

/-- The default instance, and the parameters that are left for the header. -/
def splitReceiver (signature : Signature) (options : Options) :
    Except CompileError (Option Ty × Option (List ParamSpec)) :=
  if options.firstIsReceiver then
    match signature.params with
    | some (first :: rest) =>
      match first.ty with
      | some ty => .ok (some ty, some rest)
      | none => .error ⟨.signature .untypedDefaultInstance, Span.nowhere⟩
    | _ => .error ⟨.signature .noDefaultInstance, Span.nowhere⟩
  else .ok (options.receiver, signature.params)

/-- The body converted to the declared result. A result that is dropped asks for nothing. -/
def convertResult (world : Universe) (body : Expr) (declared : Option Ty) :
    Except CompileError Expr :=
  match declared with
  | none => .ok body
  | some target =>
    if target.isVoid then .ok body
    else if body.ty.isVoid then .error ⟨.typing (.resultMissing target), body.span⟩
    else if world.implicitlyConverts body.ty target then .ok (body.castTo target)
    else .error ⟨.typing (.resultConversion body.ty target), body.span⟩

/-- Binds a source to a signature. -/
def bindSource (world : Universe) (signature : Signature) (options : Options) (source : String) :
    Except CompileError BoundLambda := do
  let (receiver, declared) ← splitReceiver signature options
  let parsed ← Lambda.parse world options.namespaces declared receiver source
  let body ← convertResult world parsed.body signature.result
  return ⟨parsed.params, body, signature.result.getD body.ty⟩

/-- A compiled function. -/
structure Function where
  source : String
  bound : BoundLambda

namespace Function

/-- Compiles a source against a signature. -/
def compile (world : Universe) (signature : Signature) (options : Options) (source : String) :
    Except CompileError Function := do
  let bound ← bindSource world signature options source
  return ⟨source, bound⟩

/-- The parameters in force. -/
def params (function : Function) : Parameters := function.bound.params

/-- The type of the result. -/
def result (function : Function) : Ty := function.bound.result

/-- How a function reads. -/
def text (function : Function) : String :=
  function.params.text ++ " -> " ++ function.result.text ++ ": " ++ function.source

/-- The first argument from an index on that may not stand for its parameter. -/
def checkArgs : Nat → List Value → List Parameter → Except RuntimeError Unit
  | index, arg :: args, param :: params =>
    if arg.conforms param.ty then checkArgs (index + 1) args params
    else .error (.argumentType index ⟨param.ty.text, arg.ty⟩)
  | _, _, _ => .ok ()

/-- Calls a function with as many arguments as it has parameters, each of its parameter's type. -/
def invoke (function : Function) (args : List Value) : Expr.Run Value := do
  let params := function.params.list
  if args.length ≠ params.length then throw (.argumentCount params.length args.length)
  else
    Action.ofExcept (checkArgs 0 args params)
    let value ← function.bound.body.eval args
    return if function.result.isVoid then .null else value

end Function

/-- A compiled function that is called with host values of some shapes. -/
structure TypedFunction (args : List HostType) (result : HostType) where
  function : Function

namespace TypedFunction

variable {args : List HostType} {result : HostType}

/-- Compiles a source against the signature of the shapes. -/
def compile (args : List HostType) (result : HostType) (world : Universe) (options : Options)
    (source : String) : Except CompileError (TypedFunction args result) := do
  let function ← Function.compile world (.ofShapes args result) options source
  return ⟨function⟩

/-- Calls a function with host values. -/
def call (typed : TypedFunction args result) (given : HostType.Carriers args) :
    Expr.Run result.Carrier := do
  let values ← HostType.toValues args given
  let value ← typed.function.invoke values
  match result.ofValue value with
  | .ok x => return x
  | .error mismatch => throw (.resultType mismatch)

end TypedFunction
end Formula
