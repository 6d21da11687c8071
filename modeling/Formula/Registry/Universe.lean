import Formula.Registry.Basic

/-! The questions that reading a formula asks about types, and how a registry answers them. Overloads
are matched by exact parameter types, except that `null` matches every type that admits it. -/
namespace Formula

/-- An overload chosen for a call, with the generic parameters of its owner filled in. -/
structure MethodRef where
  owner : Ty
  name : String
  params : List Ty
  result : Ty
  isStatic : Bool
  native : Native

/-- A property or field chosen for an access. -/
structure MemberRef where
  owner : Ty
  name : String
  ty : Ty
  flags : MemberFlags
  getter : Native
  setter : Option Native

/-- A constructor chosen for a creation. -/
structure ConstructorRef where
  ty : Ty
  params : List Ty
  native : Native

/-- The property that indexing goes to, and the method that reads it. -/
structure IndexerRef where
  property : String
  getter : MethodRef

/-- The types, members and overloads that are known. -/
structure Universe where
  /-- The type with a qualified name. -/
  resolveName : String → Option Ty
  /-- A generic definition closed over arguments. -/
  instantiate : Ty → List Ty → Option Ty
  /-- The member of a type with a name, among the static ones or among those of instances. -/
  member : Ty → String → Bool → Option MemberRef
  /-- The overload for argument types, among the static ones or among those of instances. -/
  method : Ty → String → List Ty → Bool → Option MethodRef
  /-- The constructor for argument types. -/
  creator : Ty → List Ty → Option ConstructorRef
  /-- What indexing goes to. -/
  indexer : Ty → Option IndexerRef
  /-- Whether a value of one type may stand where another is expected. -/
  assignable : Ty → Ty → Bool

/-- Whether argument types match parameter types one by one. -/
def paramsMatch : List Ty → List Ty → Bool
  | [], [] => true
  | param :: params, arg :: args =>
    (param == arg || (arg == .null && param.acceptsNull)) && paramsMatch params args
  | _, _ => false

namespace Registry

/-- An overload seen from the type on which it was found. -/
def methodRef (owner : Ty) (overload : Overload) : MethodRef :=
  { owner, name := overload.name, params := overload.params.map (Ty.substitute owner.args),
    result := overload.result.substitute owner.args, isStatic := overload.flags.isStatic,
    native := overload.native }

/-- The type with a qualified name; built-in names come first. -/
def resolveName (registry : Registry) (name : String) : Option Ty :=
  (Ty.builtin? name).or ((registry.get? name).map (·.ty))

/-- Closes a registered generic definition over as many arguments as it declares; a nullable type is
over a primitive. -/
def instantiate (registry : Registry) (definition : Ty) (args : List Ty) : Option Ty :=
  match definition with
  | .cls name [] =>
    match registry.get? name with
    | none => none
    | some entry =>
      if entry.arity ≠ args.length then none
      else if entry.name = nullableName then
        match args with
        | [.primitive kind] => some (.nullable (.primitive kind))
        | _ => none
      else some (.cls name args)
  | _ => none

/-- The nearest property of a name along the lineage that is static or not, as asked. -/
def member (registry : Registry) (ty : Ty) (name : String) (wantStatic : Bool) : Option MemberRef :=
  (registry.lineage ty).findSome? fun entry =>
    match entry.property? name with
    | some property =>
      if property.flags.isStatic == wantStatic then
        some { owner := ty, name := property.name, ty := property.ty.substitute ty.args,
               flags := property.flags, getter := property.getter, setter := property.setter }
      else none
    | none => none

/-- The nearest overload along the lineage whose parameters match. -/
def method (registry : Registry) (ty : Ty) (name : String) (args : List Ty) (wantStatic : Bool) :
    Option MethodRef :=
  (registry.lineage ty).findSome? fun entry =>
    (((entry.overloads name).filter (·.flags.isStatic == wantStatic)).map (methodRef ty)).find?
      fun ref => paramsMatch ref.params args

/-- The constructor of a type whose parameters match. Only a class that was given all its arguments
has constructors. -/
def creator (registry : Registry) (ty : Ty) (args : List Ty) : Option ConstructorRef :=
  match registry.entryFor? ty with
  | none => none
  | some entry =>
    if entry.kind ≠ .instantiable ∨ entry.arity ≠ ty.args.length then none
    else entry.constructors.findSome? fun overload =>
      let params := overload.params.map (Ty.substitute ty.args)
      if paramsMatch params args then some ⟨ty, params, overload.native⟩ else none

/-- The nearest default member along the lineage, with the first overload of its getter. -/
def indexer (registry : Registry) (ty : Ty) : Option IndexerRef :=
  (registry.lineage ty).findSome? fun entry =>
    match entry.defaultMember with
    | none => none
    | some property =>
      (entry.overloads (getterName property)).head?.map fun overload =>
        ⟨property, methodRef ty overload⟩

/-- Whether a value of one type may stand where another is expected. -/
def assignable (registry : Registry) (source target : Ty) : Bool :=
  if source = target ∨ target = .object then true
  else match source, target with
    | .null, target => target.acceptsNull
    | source, .nullable inner => inner == source
    | .cls name args, .cls name' args' =>
      (args'.isEmpty || args == args') && registry.hierarchy.derivesFrom name name'
    | _, _ => false

/-- The registry as a universe. -/
def toUniverse (registry : Registry) : Universe :=
  { resolveName := registry.resolveName, instantiate := registry.instantiate,
    member := registry.member, method := registry.method, creator := registry.creator,
    indexer := registry.indexer, assignable := registry.assignable }

end Registry
end Formula
