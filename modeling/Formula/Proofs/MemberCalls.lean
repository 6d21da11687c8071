import Formula.Proofs.HostValues
import Formula.Proofs.Lookups

/-! Calls of members by name. A universe answers with the callable of a member; on a registry that is
the callable which the entry of the type declares, if the entry has a member that fits: no ancestor
comes before the type itself. -/
namespace Formula

namespace Universe

/-- Calls a method on a receiver, or a static one where there is none, for arguments of some types. -/
def callMethod (world : Universe) (owner : Ty) (name : String) (types : List Ty)
    (this : Option Value) (args : List Value) : Action NativeError Value :=
  match world.method owner name types this.isNone with
  | some ref => ref.native ⟨this, args, ref.owner⟩
  | none => throw (.other "no overload matches")

/-- Reads a property of a receiver. -/
def readMember (world : Universe) (owner : Ty) (name : String) (this : Value) :
    Action NativeError Value :=
  match world.member owner name false with
  | some ref => ref.getter ⟨some this, [], ref.owner⟩
  | none => throw (.other "no property of this name")

/-- Indexes into a receiver. -/
def index (world : Universe) (owner : Ty) (this : Value) (args : List Value) :
    Action NativeError Value :=
  match world.indexer owner with
  | some ref => ref.getter.native ⟨some this, args, ref.getter.owner⟩
  | none => throw (.other "no property to index")

end Universe

namespace Call

variable {call : Call} {k : Nat} {value : Value} {s : String} {store : Store}

theorem argument_run (given : call.args[k]? = some value) :
    call.argument k store = (.ok value, store) := by
  rw [argument, given]
  rfl

/-- An argument that is an integer is taken as one of its kind. -/
theorem integer_run {kind : IntKind} {n : Word kind}
    (given : call.args[k]? = some (.integer kind n)) :
    call.arg (.primitive (.integer kind)) k store = (.ok n, store) := by
  refine (Action.run_ok (argument_run given)).trans ?_
  cases kind <;> rfl

theorem text_run (given : call.args[k]? = some (.string s)) :
    call.arg .string k store = (.ok s, store) :=
  Action.run_ok (argument_run given)

theorem receiverText_run (of : call.this = some (.string s)) :
    call.receiverText store = (.ok s, store) := by
  have receiver : call.receiver store = (.ok (.string s), store) := by
    rw [Call.receiver, of]
    rfl
  exact Action.run_ok receiver

end Call

namespace Entry

variable {entry : Entry} {name added : String} {params : List Ty} {ty : Ty} {native : Native}

@[simp] theorem overloads_new {kind : TypeKind} {base : Option String} :
    (new added ty kind base).overloads name = [] := rfl

/-- An overload comes behind those that were there. -/
@[simp] theorem overloads_withOverload {overload : Overload} :
    (entry.withOverload overload).overloads name =
      entry.overloads name ++ if overload.name = name then [overload] else [] := by
  by_cases same : overload.name = name <;> simp [overloads, withOverload, same]

@[simp] theorem overloads_withMethod : (entry.withMethod added params ty native).overloads name =
    entry.overloads name ++
      if added = name then [⟨added, params, ty, MemberFlags.instanceMember, native⟩] else [] :=
  overloads_withOverload

@[simp] theorem overloads_withStatic : (entry.withStatic added params ty native).overloads name =
    entry.overloads name ++
      if added = name then [⟨added, params, ty, MemberFlags.staticMember, native⟩] else [] :=
  overloads_withOverload

/-- Indexing adds the overload of its getter. -/
@[simp] theorem overloads_withIndexer :
    (entry.withIndexer added params ty native).overloads name = entry.overloads name ++
      if getterName added = name then
        [⟨getterName added, params, ty, MemberFlags.instanceMember, native⟩] else [] :=
  overloads_withOverload

@[simp] theorem overloads_withReadOnly :
    (entry.withReadOnly added ty native).overloads name = entry.overloads name := rfl

@[simp] theorem overloads_withConstant {shape : HostType} {x : shape.Carrier} :
    (entry.withConstant added shape x).overloads name = entry.overloads name := rfl

end Entry

namespace Registry

variable {registry : Registry} {entry : Entry} {owner : Ty} {name : String} {types : List Ty}
  {this : Option Value} {args : List Value} {overloads : List Overload} {overload : Overload}
  {property : Property}

/-- A call runs the first overload of the type's own entry that takes the arguments. -/
theorem callMethod_eq (registered : registry.entryFor? owner = some entry)
    (declared : entry.overloads name = overloads)
    (first : ((overloads.filter (·.flags.isStatic == this.isNone)).find? fun overload =>
      paramsMatch (overload.params.map (Ty.substitute owner.args)) types) = some overload) :
    registry.toUniverse.callMethod owner name types this args
      = overload.native ⟨this, args, owner⟩ := by
  obtain ⟨rest, lineage⟩ := lineage_begins registered
  have found : registry.method owner name types this.isNone = some (methodRef owner overload) := by
    simp only [method, lineage, List.findSome?_cons, List.find?_map]
    simp only [Function.comp_def, methodRef, declared, first, Option.map_some]
  simp only [Universe.callMethod, toUniverse, found]
  rfl

/-- A property is read through the getter that the type's own entry has. -/
theorem readMember_eq {this : Value} (registered : registry.entryFor? owner = some entry)
    (declared : entry.property? name = some property) (ofInstance : property.flags.isStatic = false) :
    registry.toUniverse.readMember owner name this = property.getter ⟨some this, [], owner⟩ := by
  obtain ⟨rest, lineage⟩ := lineage_begins registered
  have found : registry.member owner name false = some (memberRef owner property) := by
    simp [member, lineage, declared, ofInstance, memberRef]
  simp only [Universe.readMember, toUniverse, found]
  rfl

/-- Indexing runs the first getter of the property that the type's own entry designates. -/
theorem index_eq {this : Value} (registered : registry.entryFor? owner = some entry)
    (designated : entry.defaultMember = some name)
    (declared : entry.overloads (getterName name) = overload :: overloads) :
    registry.toUniverse.index owner this args = overload.native ⟨some this, args, owner⟩ := by
  obtain ⟨rest, lineage⟩ := lineage_begins registered
  have found : registry.indexer owner = some ⟨name, methodRef owner overload⟩ := by
    simp only [indexer, lineage, List.findSome?_cons, designated, declared, List.head?_cons,
      Option.map_some]
  simp only [Universe.index, toUniverse, found]
  rfl

end Registry
end Formula
