import Formula.Native

/-! What is registered of a type: its constructors, its overloads of methods, its properties and the
property that indexing goes to. Entries are put together member by member. -/
namespace Formula

/-- The root of all classes. -/
def rootName : String := "System.Object"

/-- The generic definition behind nullable types. -/
def nullableName : String := "System.Nullable`1"

/-- How a registered type may be used. -/
inductive TypeKind where
  /-- Objects of it can be created. -/
  | instantiable
  /-- It has static members only. -/
  | static
  /-- It is built into the language. -/
  | builtin
  deriving DecidableEq

/-- The name of a kind of type. -/
def TypeKind.name : TypeKind → String
  | instantiable => "Class"
  | static => "Static"
  | builtin => "Builtin"

/-- Properties of a member. -/
structure MemberFlags where
  isStatic : Bool
  isField : Bool
  isWritable : Bool
  deriving DecidableEq

namespace MemberFlags

/-- The flags of an instance member. -/
def instanceMember : MemberFlags := ⟨false, false, false⟩

/-- The flags of a static member. -/
def staticMember : MemberFlags := ⟨true, false, false⟩

/-- The flags as a number. -/
def bits (flags : MemberFlags) : Nat :=
  flags.isStatic.toNat + 2 * flags.isField.toNat + 4 * flags.isWritable.toNat

end MemberFlags

/-- An overload of a method or constructor. -/
structure Overload where
  name : String
  params : List Ty
  result : Ty
  flags : MemberFlags
  native : Native

/-- A property or field. -/
structure Property where
  name : String
  ty : Ty
  flags : MemberFlags
  getter : Native
  setter : Option Native

/-- All that is known of one type. -/
structure Entry where
  name : String
  ty : Ty
  kind : TypeKind
  base : Option String
  /-- The property that indexing goes to. -/
  defaultMember : Option String
  constructors : List Overload
  methods : List Overload
  properties : List Property

/-- The name of the method that reads an indexed property. -/
def getterName (property : String) : String := "get_" ++ property

namespace Entry

/-- An entry without members. -/
def new (name : String) (ty : Ty) (kind : TypeKind) (base : Option String) : Entry :=
  ⟨name, ty, kind, base, none, [], [], []⟩

/-- The digest of the entry's name. -/
def digest (entry : Entry) : Digest := Digest.ofType entry.name

/-- The digest of an overload of the entry. -/
def overloadDigest (entry : Entry) (overload : Overload) : Digest :=
  Digest.ofMember entry.digest overload.name (overload.params.map Ty.digest)

/-- The number of generic parameters that the entry's type declares. -/
def arity (entry : Entry) : Nat :=
  match entry.ty with
  | .cls name _ => Ty.arityOf name
  | _ => 0

/-- The overloads of a method, in the order of their registration. -/
def overloads (entry : Entry) (name : String) : List Overload :=
  entry.methods.filter (·.name == name)

/-- The property with a name. -/
def property? (entry : Entry) (name : String) : Option Property :=
  entry.properties.find? (·.name == name)

/-- Gives the entry static members only. -/
def asStatic (entry : Entry) : Entry := { entry with kind := .static }

/-- Makes the entry derive from a type. -/
def derivingFrom (entry : Entry) (base : String) : Entry := { entry with base := some base }

/-- Adds a constructor. -/
def withConstructor (entry : Entry) (params : List Ty) (native : Native) : Entry :=
  { entry with constructors := entry.constructors ++
      [⟨".ctor", params, entry.ty, MemberFlags.instanceMember, native⟩] }

/-- Adds an overload of a method. -/
def withOverload (entry : Entry) (overload : Overload) : Entry :=
  { entry with methods := entry.methods ++ [overload] }

/-- Adds an instance method. -/
def withMethod (entry : Entry) (name : String) (params : List Ty) (result : Ty) (native : Native) :
    Entry :=
  entry.withOverload ⟨name, params, result, MemberFlags.instanceMember, native⟩

/-- Adds a static method. -/
def withStatic (entry : Entry) (name : String) (params : List Ty) (result : Ty) (native : Native) :
    Entry :=
  entry.withOverload ⟨name, params, result, MemberFlags.staticMember, native⟩

/-- Adds a property, which takes the place of one with the same name. A property with a setter is
writable. -/
def withProperty (entry : Entry) (name : String) (ty : Ty) (flags : MemberFlags) (getter : Native)
    (setter : Option Native) : Entry :=
  let flags := { flags with isWritable := flags.isWritable || setter.isSome }
  { entry with properties :=
      entry.properties.filter (·.name != name) ++ [⟨name, ty, flags, getter, setter⟩] }

/-- Adds a property of instances that can only be read. -/
def withReadOnly (entry : Entry) (name : String) (ty : Ty) (getter : Native) : Entry :=
  entry.withProperty name ty MemberFlags.instanceMember getter none

/-- Adds a static field with a fixed value. -/
def withConstant (entry : Entry) (name : String) (shape : HostType) (x : shape.Carrier) : Entry :=
  entry.withProperty name shape.ty ⟨true, true, false⟩ (Native.constant shape x) none

/-- Adds a static method that is a host function. -/
def withFunction (entry : Entry) (name : String) (params : List HostType) (result : HostType)
    (f : Native.Function params result.Carrier) : Entry :=
  entry.withStatic name (params.map HostType.ty) result.ty (Native.static params result f)

/-- Makes indexing go to a property, and adds the method that reads it. -/
def withIndexer (entry : Entry) (property : String) (params : List Ty) (result : Ty)
    (native : Native) : Entry :=
  { entry with defaultMember := some property }.withMethod (getterName property) params result native

end Entry
end Formula
