import Formula.Ty

/-! The parameters of a formula: those that a signature declares, and those in force for a body. A
default instance, whose members a body can name without a receiver, is the first of them. -/
namespace Formula

/-- A parameter that a signature declares; a header may name it and give it a type. -/
structure ParamSpec where
  name : Option String
  ty : Option Ty
  deriving DecidableEq

/-- A parameter in force. -/
structure Parameter where
  name : String
  ty : Ty
  ordinal : Nat
  deriving DecidableEq

/-- The parameters in force, and whether the first of them is the default instance. -/
structure Parameters where
  list : List Parameter
  hasInstance : Bool
  deriving DecidableEq

namespace Parameters

/-- The name of the default instance. -/
def instanceName : String := "this"

/-- The default instance alone, or no parameters. -/
def ofInstance : Option Ty → Parameters
  | some ty => ⟨[⟨instanceName, ty, 0⟩], true⟩
  | none => ⟨[], false⟩

/-- One more parameter. -/
def push (params : Parameters) (name : String) (ty : Ty) : Parameters :=
  { params with list := params.list ++ [⟨name, ty, params.list.length⟩] }

/-- The parameter with a name; of several, the last. -/
def find? (params : Parameters) (name : String) : Option Parameter :=
  params.list.reverse.find? (·.name == name)

/-- The default instance. -/
def instance? (params : Parameters) : Option Parameter :=
  if params.hasInstance then params.list.head? else none

/-- The types of the parameters. -/
def types (params : Parameters) : List Ty := params.list.map (·.ty)

/-- How the parameters read. -/
def text (params : Parameters) : String :=
  "(" ++ ", ".intercalate (params.list.map fun p => p.ty.text ++ " " ++ p.name) ++ ")"

end Parameters
end Formula
