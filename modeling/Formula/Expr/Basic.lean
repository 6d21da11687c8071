import Formula.Operator
import Formula.Registry.Universe

/-! The typed tree of a formula. Every node has its type and the span of the text it was read from;
conversions that were chosen while reading are nodes of their own. -/
namespace Formula

/-- What every node has. -/
structure Info where
  ty : Ty
  span : Span

/-- What is done with the values in the braces behind a creation. -/
inductive Initializer where
  | none
  /-- Each value is assigned to a member. -/
  | members (refs : List MemberRef)
  /-- Each value is added by a method. -/
  | adds (refs : List MethodRef)

/-- A typed tree. -/
inductive Expr where
  | literal (info : Info) (value : Value)
  /-- A parameter, by its place among the parameters. -/
  | parameter (info : Info) (ordinal : Nat) (name : String)
  | unary (info : Info) (op : UnaryOp) (operand : Expr)
  | binary (info : Info) (op : BinaryOp) (left right : Expr)
  | conditional (info : Info) (test yes no : Expr)
  /-- The left value converted to the type of the node, or the right if the left is `null`. -/
  | coalesce (info : Info) (left right : Expr)
  | staticCall (info : Info) (method : MethodRef) (args : List Expr)
  | call (info : Info) (method : MethodRef) (target : Expr) (args : List Expr)
  | staticMember (info : Info) (member : MemberRef)
  | member (info : Info) (member : MemberRef) (target : Expr)
  /-- An item of an array. -/
  | index (info : Info) (target position : Expr)
  | create (info : Info) (constructor : ConstructorRef) (args : List Expr)
      (init : Initializer) (values : List Expr)
  /-- An array of default values. -/
  | newArray (info : Info) (element : Ty) (length : Expr)
  | arrayOf (info : Info) (element : Ty) (items : List Expr)
  /-- The operand converted to the type of the node. -/
  | cast (info : Info) (operand : Expr)
  | typeOf (info : Info) (ty : Ty)
  | sizeOf (info : Info) (ty : Ty)
  | typeTest (info : Info) (op : TypeTest) (target : Ty) (operand : Expr)

namespace Expr

/-- What a node has in common with every other. -/
def info : Expr → Info
  | literal info _ | parameter info _ _ | unary info _ _ | binary info _ _ _
  | conditional info _ _ _ | coalesce info _ _ | staticCall info _ _ | call info _ _ _
  | staticMember info _ | member info _ _ | index info _ _ | create info _ _ _ _
  | newArray info _ _ | arrayOf info _ _ | cast info _ | typeOf info _ | sizeOf info _
  | typeTest info _ _ _ => info

/-- The type of a node. -/
def ty (expr : Expr) : Ty := expr.info.ty

/-- The span of a node. -/
def span (expr : Expr) : Span := expr.info.span

/-- The subexpressions of a node, in the order in which they are evaluated. -/
def children : Expr → List Expr
  | literal _ _ | parameter _ _ _ | staticMember _ _ | typeOf _ _ | sizeOf _ _ => []
  | unary _ _ operand | cast _ operand | typeTest _ _ _ operand => [operand]
  | binary _ _ left right | coalesce _ left right => [left, right]
  | conditional _ test yes no => [test, yes, no]
  | staticCall _ _ args => args
  | call _ _ target args => target :: args
  | member _ _ target => [target]
  | index _ target position => [target, position]
  | create _ _ args _ values => args ++ values
  | newArray _ _ length => [length]
  | arrayOf _ _ items => items

mutual
/-- The number of nodes of a tree. -/
def nodeCount : Expr → Nat
  | literal _ _ | parameter _ _ _ | staticMember _ _ | typeOf _ _ | sizeOf _ _ => 1
  | unary _ _ operand | cast _ operand | typeTest _ _ _ operand => 1 + nodeCount operand
  | binary _ _ left right | coalesce _ left right => 1 + nodeCount left + nodeCount right
  | conditional _ test yes no => 1 + nodeCount test + nodeCount yes + nodeCount no
  | staticCall _ _ args => 1 + nodeCounts args
  | call _ _ target args => 1 + nodeCount target + nodeCounts args
  | member _ _ target => 1 + nodeCount target
  | index _ target position => 1 + nodeCount target + nodeCount position
  | create _ _ args _ values => 1 + nodeCounts args + nodeCounts values
  | newArray _ _ length => 1 + nodeCount length
  | arrayOf _ _ items => 1 + nodeCounts items

/-- The number of nodes of several trees. -/
def nodeCounts : List Expr → Nat
  | [] => 0
  | expr :: rest => nodeCount expr + nodeCounts rest
end

/-- The value of a literal. -/
def literal? : Expr → Option Value
  | literal _ value => some value
  | _ => none

/-- The expression converted to a type, which changes nothing if it has that type. -/
def castTo (expr : Expr) (ty : Ty) : Expr :=
  if expr.ty = ty then expr else cast ⟨ty, expr.span⟩ expr

/-- The types of several expressions. -/
def types (exprs : List Expr) : List Ty := exprs.map Expr.ty

end Expr
end Formula
