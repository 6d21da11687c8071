import Formula.Host
import Formula.Parameters

/-! The shape that a formula is compiled to. -/
namespace Formula

/-- The parameters of a function and the type of its result, as far as they are declared. -/
structure Signature where
  /-- The parameters, or nothing where the header of the formula is to settle them. -/
  params : Option (List ParamSpec)
  /-- The type of the result, or nothing where the body is to settle it. -/
  result : Option Ty
  deriving DecidableEq

namespace Signature

/-- The number of parameters, if they are declared. -/
def arity (signature : Signature) : Option Nat := signature.params.map List.length

/-- Whether every parameter and the result have a declared type. -/
def isFullyTyped (signature : Signature) : Bool :=
  signature.result.isSome && signature.params.any fun params => params.all (·.ty.isSome)

/-- How a declared parameter reads. -/
def paramText (param : ParamSpec) : String :=
  let ty := match param.ty with
    | some ty => ty.text
    | none => "?"
  match param.name with
  | some name => ty ++ " " ++ name
  | none => ty

/-- How a signature reads. -/
def text (signature : Signature) : String :=
  let params := match signature.params with
    | some params => "(" ++ ", ".intercalate (params.map paramText) ++ ")"
    | none => "(..)"
  match signature.result with
  | some ty => params ++ " -> " ++ ty.text
  | none => params

/-- The signature of a host function with arguments and a result of some shapes. -/
def ofShapes (args : List HostType) (result : HostType) : Signature :=
  ⟨some (args.map fun shape => ⟨none, some shape.ty⟩), some result.ty⟩

end Signature
end Formula
