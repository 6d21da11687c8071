import Formula.Digest
import Formula.Kind

/-! Static types. Every node of a formula tree has one, and members are looked up by it. A class is
known by its qualified name alone; a generic definition carries its number of parameters behind a
back quote at the end of the name, and an instantiation lists its arguments. -/
namespace Formula

/-- A type. -/
inductive Ty where
  /-- What a method without a result returns. -/
  | void
  /-- The type of the `null` literal. -/
  | null
  | object
  | string
  | primitive (kind : Kind)
  | nullable (inner : Ty)
  | array (element : Ty)
  | cls (name : String) (args : List Ty)
  /-- A parameter of the generic type that declares a member. -/
  | param (index : Nat)

namespace Ty

mutual
/-- Equality of types is decidable. -/
def decEq : (a b : Ty) → Decidable (a = b)
  | void, b => by cases b <;> first | exact isTrue rfl | exact isFalse nofun
  | null, b => by cases b <;> first | exact isTrue rfl | exact isFalse nofun
  | object, b => by cases b <;> first | exact isTrue rfl | exact isFalse nofun
  | string, b => by cases b <;> first | exact isTrue rfl | exact isFalse nofun
  | primitive a, b => match b with
    | primitive b =>
      if same : a = b then isTrue (same ▸ rfl) else isFalse fun eq => same (by cases eq; rfl)
    | void | null | object | string | nullable _ | array _ | cls _ _ | param _ => isFalse nofun
  | nullable a, b => match b with
    | nullable b => match decEq a b with
      | isTrue same => isTrue (same ▸ rfl)
      | isFalse differ => isFalse fun eq => differ (by cases eq; rfl)
    | void | null | object | string | primitive _ | array _ | cls _ _ | param _ => isFalse nofun
  | array a, b => match b with
    | array b => match decEq a b with
      | isTrue same => isTrue (same ▸ rfl)
      | isFalse differ => isFalse fun eq => differ (by cases eq; rfl)
    | void | null | object | string | primitive _ | nullable _ | cls _ _ | param _ => isFalse nofun
  | cls name args, b => match b with
    | cls name' args' =>
      if sameName : name = name' then
        match decEqList args args' with
        | isTrue sameArgs => isTrue (by rw [sameName, sameArgs])
        | isFalse differ => isFalse fun eq => differ (by cases eq; rfl)
      else isFalse fun eq => sameName (by cases eq; rfl)
    | void | null | object | string | primitive _ | nullable _ | array _ | param _ => isFalse nofun
  | param a, b => match b with
    | param b =>
      if same : a = b then isTrue (same ▸ rfl) else isFalse fun eq => same (by cases eq; rfl)
    | void | null | object | string | primitive _ | nullable _ | array _ | cls _ _ => isFalse nofun

/-- Equality of lists of types is decidable. -/
def decEqList : (as bs : List Ty) → Decidable (as = bs)
  | [], [] => isTrue rfl
  | [], _ :: _ => isFalse nofun
  | _ :: _, [] => isFalse nofun
  | a :: as, b :: bs =>
    match decEq a b with
    | isTrue sameHead =>
      match decEqList as bs with
      | isTrue sameTail => isTrue (by rw [sameHead, sameTail])
      | isFalse differ => isFalse fun eq => differ (by cases eq; rfl)
    | isFalse differ => isFalse fun eq => differ (by cases eq; rfl)
end

instance : DecidableEq Ty := decEq

instance : Inhabited Ty := ⟨object⟩

/-- The type of truth values. -/
abbrev bool : Ty := primitive .bool
/-- The type of characters. -/
abbrev char : Ty := primitive .char
/-- The type of 32-bit integers. -/
abbrev int : Ty := primitive (.integer .int)
/-- The type of 64-bit integers. -/
abbrev long : Ty := primitive (.integer .long)
/-- The type of double-precision numbers. -/
abbrev double : Ty := primitive .double
/-- The type of single-precision numbers. -/
abbrev float : Ty := primitive .float
/-- The type of decimals. -/
abbrev decimal : Ty := primitive .decimal
/-- The class with this name and no arguments. -/
abbrev named (name : String) : Ty := cls name []

/-- The type that a keyword names. -/
def ofKeyword? (word : String) : Option Ty :=
  match Kind.ofKeyword? word with
  | some kind => some (primitive kind)
  | none =>
    if word = "string" then some string
    else if word = "object" then some object
    else none

/-- The built-in type with this qualified name. -/
def builtin? (name : String) : Option Ty :=
  if name = "System.String" then some string
  else if name = "System.Object" then some object
  else if name = "System.Void" then some void
  else (Kind.ofQualifiedName? name).map primitive

/-- The nullable form of a type; a nullable type is its own. -/
def toNullable : Ty → Ty
  | nullable inner => nullable inner
  | inner => nullable inner

/-- The kind of a primitive type. -/
def kind? : Ty → Option Kind
  | primitive kind => some kind
  | _ => none

/-- The place of a primitive type on the ladder of widening. -/
def rank? (ty : Ty) : Option Nat := ty.kind?.bind Kind.rank?

/-- Whether the type is a numeric primitive. -/
def isNumeric : Ty → Bool
  | primitive kind => kind.isNumeric
  | _ => false

/-- Whether the type is an integer primitive. -/
def isIntegral : Ty → Bool
  | primitive kind => kind.isIntegral
  | _ => false

/-- Whether the type is that of truth values. -/
def isBool (ty : Ty) : Bool := ty == bool

/-- Whether the type is that of texts. -/
def isString (ty : Ty) : Bool := ty == string

/-- Whether the type has no values. -/
def isVoid (ty : Ty) : Bool := ty == void

/-- Whether `null` may stand where this type is expected. -/
def acceptsNull : Ty → Bool
  | primitive _ | void | param _ => false
  | _ => true

/-- Primitives and nullables; all else is a reference. -/
def isValueType : Ty → Bool
  | primitive _ | nullable _ => true
  | _ => false

/-- What a nullable type wraps. -/
def inner? : Ty → Option Ty
  | nullable inner => some inner
  | _ => none

/-- A type without its nullable wrapper. -/
def stripped (ty : Ty) : Ty := ty.inner?.getD ty

/-- What an array holds. -/
def element? : Ty → Option Ty
  | array element => some element
  | _ => none

/-- The arguments of an instantiation, or what a nullable type wraps. -/
def args : Ty → List Ty
  | cls _ args => args
  | nullable inner => [inner]
  | _ => []

/-- The name under which the members of a type are registered. -/
def entryName : Ty → String
  | void => "System.Void"
  | null | param _ => ""
  | object => "System.Object"
  | string => "System.String"
  | primitive kind => kind.qualifiedName
  | nullable _ => "System.Nullable`1"
  | array _ => "System.Array"
  | cls name _ => name

/-- The digest of a type; arguments do not enter it. -/
def digest : Ty → Digest
  | null | param _ => Digest.empty
  | ty => Digest.ofType ty.entryName

mutual
/-- Replaces the parameters of a generic type by arguments; a parameter beyond them stays. -/
def substitute (given : List Ty) : Ty → Ty
  | param index => (given[index]?).getD (param index)
  | nullable inner => (substitute given inner).toNullable
  | array element => array (substitute given element)
  | cls name args => cls name (substituteAll given args)
  | void => void
  | null => null
  | object => object
  | string => string
  | primitive kind => primitive kind

/-- Replaces the parameters in each type of a list. -/
def substituteAll (given : List Ty) : List Ty → List Ty
  | [] => []
  | ty :: rest => substitute given ty :: substituteAll given rest
end

/-- The text before the first back quote. -/
def beforeMark (name : String) : String := String.ofList (name.toList.takeWhile (· != '\x60'))

/-- The number of parameters that a class name declares behind its last back quote. -/
def arityOf (name : String) : Nat :=
  let reversed := name.toList.reverse
  match reversed.dropWhile (· != '\x60') with
  | [] => 0
  | _ :: _ =>
    let digits := (reversed.takeWhile (· != '\x60')).reverse
    let digits := match digits with
      | '+' :: rest => rest
      | rest => rest
    if digits.isEmpty || !digits.all Char.isDigit then 0
    else
      let count := digits.foldl (fun total c => total * 10 + (c.toNat - '0'.toNat)) 0
      if count < pow2 64 then count else 0

/-- The text after the last dot. -/
def afterDot (name : String) : String :=
  String.ofList (name.toList.reverse.takeWhile (· != '.')).reverse

/-- A class name without its namespace and its number of parameters. -/
def simpleName (name : String) : String := afterDot (beforeMark name)

/-- Whether a class is a generic definition to which no arguments were given. -/
def isDefinition (name : String) (args : List Ty) : Bool := args.isEmpty && 0 < arityOf name

mutual
/-- The full name, in which every type goes by its qualified name. -/
def fullName : Ty → String
  | null => "null"
  | param index => s!"T{index}"
  | array element => fullName element ++ "[]"
  | nullable inner => "System.Nullable`1[" ++ fullName inner ++ "]"
  | cls name args =>
    if args.isEmpty then name else name ++ "[" ++ ",".intercalate (fullNames args) ++ "]"
  | void => "System.Void"
  | object => "System.Object"
  | string => "System.String"
  | primitive kind => kind.qualifiedName

/-- The full names of a list of types. -/
def fullNames : List Ty → List String
  | [] => []
  | ty :: rest => fullName ty :: fullNames rest
end

mutual
/-- The text of a type as a formula writes it. -/
def text : Ty → String
  | void => "void"
  | null => "null"
  | object => "object"
  | string => "string"
  | primitive kind => kind.keyword
  | nullable inner => text inner ++ "?"
  | array element => text element ++ "[]"
  | param index => s!"T{index}"
  | cls name args =>
    if args.isEmpty then name
    else beforeMark name ++ "<" ++ ", ".intercalate (texts args) ++ ">"

/-- The texts of a list of types. -/
def texts : List Ty → List String
  | [] => []
  | ty :: rest => text ty :: texts rest
end

/-- The texts of a list of types, separated by commas. -/
def listText (types : List Ty) : String := ", ".intercalate (texts types)

end Ty
end Formula
