import Formula.Decimal.Arithmetic
import Formula.Decimal.Convert
import Formula.Decimal.Remainder
import Formula.Floating.Text
import Formula.Floating.Widening
import Formula.Text.Quoted
import Formula.Ty
import Formula.Word

/-! Values that formulas compute. An array is immutable and has an identity of its own besides its
items; an object is a handle to a cell of the store, together with the type it was created as and
the class of the host that backs it. -/
namespace Formula

/-- A class of the host: its name and the names of all its ancestors but the root, nearest first. -/
structure HostClass where
  name : String
  bases : List String
  deriving DecidableEq

/-- A handle to an object: the type it was created as, the class that backs it and its cell. -/
structure Handle where
  ty : Ty
  host : HostClass
  cell : Nat
  deriving DecidableEq

/-- A value. -/
inductive Value where
  | null
  | bool (b : Bool)
  | char (c : Char)
  | integer (kind : IntKind) (n : Word kind)
  | float (x : Float32)
  | double (x : Float)
  | decimal (d : Decimal)
  | string (s : String)
  | type (ty : Ty)
  | array (identity : Nat) (element : Ty) (items : List Value)
  | object (handle : Handle)

instance : Inhabited Value := ⟨.null⟩

/-- Whether an object is of a class or derives from it. A class without arguments admits every
instantiation of its name. -/
def Handle.isInstanceOf (handle : Handle) (name : String) (args : List Ty) : Bool :=
  (match handle.ty with
    | .cls own ownArgs => own == name && (args.isEmpty || ownArgs == args)
    | _ => false)
  || handle.host.bases.contains name

namespace Value

/-- A 32-bit integer value, wrapped into range. -/
def int (n : Int) : Value := integer .int (Word.ofInt .int n)

/-- Whether a value is `null`. -/
def isNull : Value → Bool
  | null => true
  | _ => false

/-- The kind of a primitive value. -/
def kind? : Value → Option Kind
  | bool _ => some .bool
  | char _ => some .char
  | integer kind _ => some (.integer kind)
  | float _ => some .float
  | double _ => some .double
  | decimal _ => some .decimal
  | _ => none

/-- The type of a value; that of `null` for the null reference. -/
def ty : Value → Ty
  | null => .null
  | bool _ => .primitive .bool
  | char _ => .primitive .char
  | integer kind _ => .primitive (.integer kind)
  | float _ => .primitive .float
  | double _ => .primitive .double
  | decimal _ => .primitive .decimal
  | string _ => .string
  | type _ => .named "System.Type"
  | array _ element _ => .array element
  | object handle => handle.ty

/-- Whether a value may stand in a place of a type. -/
def conforms (value : Value) : Ty → Bool
  | .object => true
  | .nullable inner => value.isNull || conforms value inner
  | .primitive kind => value.kind? == some kind
  | .string => match value with
    | null | string _ => true
    | _ => false
  | .array element => match value with
    | null => true
    | array _ own _ => own == element
    | _ => false
  | .cls name args => match value with
    | null => true
    | type _ => name == "System.Type"
    | object handle => handle.isInstanceOf name args
    | _ => false
  | .null => value.isNull
  | .void | .param _ => false

/-- The value that fills new arrays of a type: zero for primitives, `null` for the rest. -/
def defaultOf : Ty → Value
  | .primitive .bool => bool false
  | .primitive .char => char '\x00'
  | .primitive (.integer kind) => integer kind (Word.ofInt kind 0)
  | .primitive .float => float 0
  | .primitive .double => double 0
  | .primitive .decimal => decimal Decimal.zero
  | _ => null

/-- The integer of a value that can index, if it is one that a 64-bit integer holds. -/
def index? : Value → Option Int
  | integer kind n => if kind = .ulong ∧ IntKind.long.greatest < n.val then none else some n.val
  | _ => none

/-- The text of a value, as concatenation and `ToString` give it. -/
def text : Value → String
  | null => ""
  | bool true => "True"
  | bool false => "False"
  | char c => c.toString
  | integer _ n => n.text
  | float x => Floating.text (Floating.widen x)
  | double x => Floating.text x
  | decimal d => d.text
  | string s => s
  | type ty => ty.fullName
  | array _ element _ => element.fullName ++ "[]"
  | object handle => handle.ty.fullName

mutual
/-- A value as it reads in a listing. -/
def listing : Value → String
  | null => "Null"
  | string s => "String(" ++ Text.quoted s ++ ")"
  | array _ _ items => "[" ++ ", ".intercalate (listings items) ++ "]"
  | type ty => "Type(" ++ ty.text ++ ")"
  | object handle => "HostObject(" ++ handle.ty.fullName ++ ")"
  | bool b => "bool(" ++ (bool b).text ++ ")"
  | char c => "char(" ++ (char c).text ++ ")"
  | integer kind n => (Kind.integer kind).keyword ++ "(" ++ n.text ++ ")"
  | float x => "float(" ++ (float x).text ++ ")"
  | double x => "double(" ++ (double x).text ++ ")"
  | decimal d => "decimal(" ++ d.text ++ ")"

/-- The listings of the items of an array. -/
def listings : List Value → List String
  | [] => []
  | item :: rest => listing item :: listings rest
end

/-- Equality as `==` has it: primitives of one kind, texts and types by content, arrays and objects
by identity. -/
def equals : Value → Value → Bool
  | null, null => true
  | bool a, bool b => a == b
  | char a, char b => a == b
  | integer kindA a, integer kindB b => kindA == kindB && a.val == b.val
  | float a, float b => a == b
  | double a, double b => a == b
  | decimal a, decimal b => a.equals b
  | string a, string b => a == b
  | type a, type b => a == b
  | array a _ _, array b _ _ => a == b
  | object a, object b => a.cell == b.cell
  | _, _ => false

/-- The order of two values of one ordered kind, if they have one. -/
def order? : Value → Value → Option Ordering
  | char a, char b => some (compare a.toNat b.toNat)
  | integer kindA a, integer kindB b => if kindA = kindB then some (compare a.val b.val) else none
  | float a, float b => Floating.order32? a b
  | double a, double b => Floating.order? a b
  | decimal a, decimal b => some (a.order b)
  | _, _ => none

end Value
end Formula
