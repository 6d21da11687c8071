import Formula.Registry.Universe

/-! What lookups find. Members of a type are looked for along its lineage, and constructors in its own
entry alone; what is found is a member that an entry of the lineage declares, seen from the type. Of
the overloads of a method the first along the lineage is found that accepts the arguments, and
indexing goes to the nearest entry that designates a property. -/
namespace Formula

/-- Whether a method takes arguments of some types. -/
def MethodRef.accepts (args : List Ty) (ref : MethodRef) : Bool := paramsMatch ref.params args

namespace Registry

/-- A property seen from the type on which it was found. -/
def memberRef (owner : Ty) (property : Property) : MemberRef :=
  { owner, name := property.name, ty := property.ty.substitute owner.args, flags := property.flags,
    getter := property.getter, setter := property.setter }

/-- A constructor seen from the type that is created. -/
def constructorRef (owner : Ty) (overload : Overload) : ConstructorRef :=
  ⟨owner, overload.params.map (Ty.substitute owner.args), overload.native⟩

/-- The overloads of a method along the lineage of a type, as they are seen from the type. -/
def overloadsOf (registry : Registry) (ty : Ty) (name : String) (wantStatic : Bool) :
    List MethodRef :=
  (registry.lineage ty).flatMap fun entry =>
    ((entry.overloads name).filter (·.flags.isStatic == wantStatic)).map (methodRef ty)

/-- The nearest entry along the lineage of a type that designates a property to index, and the
property. -/
def designated? (registry : Registry) (ty : Ty) : Option (Entry × String) :=
  (registry.lineage ty).findSome? fun entry => entry.defaultMember.map (entry, ·)

variable {registry : Registry} {ty : Ty} {owner : Entry} {property name : String}
  {overload : Overload} {args : List Ty} {wantStatic : Bool}

/-- A lineage begins with the entry of the type. -/
theorem lineage_begins (registered : registry.entryFor? ty = some owner) :
    ∃ rest, registry.lineage ty = owner :: rest := by
  simp only [lineage, registered]
  split
  case isTrue => exact ⟨_, rfl⟩
  case isFalse => exact ⟨_, rfl⟩

section Origins

theorem method_origin {ref : MethodRef} (found : registry.method ty name args wantStatic = some ref) :
    ∃ entry ∈ registry.lineage ty, ∃ overload ∈ entry.overloads name,
      overload.flags.isStatic = wantStatic ∧ ref.accepts args ∧ ref = methodRef ty overload := by
  obtain ⟨entry, member, chosen⟩ := List.exists_of_findSome?_eq_some found
  obtain ⟨overload, listed, rfl⟩ := List.mem_map.mp (List.mem_of_find?_eq_some chosen)
  obtain ⟨declared, isStatic⟩ := List.mem_filter.mp listed
  exact ⟨entry, member, overload, declared, beq_iff_eq.mp isStatic, List.find?_some chosen, rfl⟩

theorem member_origin {ref : MemberRef} (found : registry.member ty name wantStatic = some ref) :
    ∃ entry ∈ registry.lineage ty, ∃ property, entry.property? name = some property ∧
      property.flags.isStatic = wantStatic ∧ ref = memberRef ty property := by
  obtain ⟨entry, member, chosen⟩ := List.exists_of_findSome?_eq_some found
  refine ⟨entry, member, ?_⟩
  cases declared : entry.property? name with
  | none =>
    rw [declared] at chosen
    cases chosen
  | some property =>
    simp only [declared] at chosen
    by_cases isStatic : property.flags.isStatic == wantStatic
    · rw [if_pos isStatic] at chosen
      cases chosen
      exact ⟨property, rfl, beq_iff_eq.mp isStatic, rfl⟩
    · rw [if_neg isStatic] at chosen
      cases chosen

theorem indexer_origin {ref : IndexerRef} (found : registry.indexer ty = some ref) :
    ∃ entry ∈ registry.lineage ty, entry.defaultMember = some ref.property ∧
      ∃ overload ∈ entry.overloads (getterName ref.property), ref.getter = methodRef ty overload := by
  obtain ⟨entry, member, chosen⟩ := List.exists_of_findSome?_eq_some found
  refine ⟨entry, member, ?_⟩
  cases designated : entry.defaultMember with
  | none =>
    rw [designated] at chosen
    cases chosen
  | some property =>
    rw [designated] at chosen
    obtain ⟨overload, first, rfl⟩ := Option.map_eq_some_iff.mp chosen
    exact ⟨rfl, overload, List.mem_of_head? first, rfl⟩

theorem creator_origin {ref : ConstructorRef} (found : registry.creator ty args = some ref) :
    ∃ entry, registry.entryFor? ty = some entry ∧ entry.kind = .instantiable ∧
      entry.arity = ty.args.length ∧ ∃ overload ∈ entry.constructors,
        paramsMatch ref.params args ∧ ref = constructorRef ty overload := by
  unfold creator at found
  cases declared : registry.entryFor? ty with
  | none =>
    rw [declared] at found
    cases found
  | some entry =>
    simp only [declared] at found
    by_cases unable : entry.kind ≠ .instantiable ∨ entry.arity ≠ ty.args.length
    · rw [if_pos unable] at found
      cases found
    · rw [if_neg unable] at found
      obtain ⟨kind, arity⟩ := not_or.mp unable
      obtain ⟨overload, listed, chosen⟩ := List.exists_of_findSome?_eq_some found
      by_cases matched : paramsMatch (overload.params.map (Ty.substitute ty.args)) args
      · rw [if_pos matched] at chosen
        cases chosen
        exact ⟨entry, rfl, Decidable.not_not.mp kind, Decidable.not_not.mp arity, overload, listed,
          matched, rfl⟩
      · rw [if_neg matched] at chosen
        cases chosen

end Origins

section Choice

theorem method_eq_find : registry.method ty name args wantStatic =
    (registry.overloadsOf ty name wantStatic).find? (·.accepts args) := by
  rw [overloadsOf, List.find?_flatMap]
  rfl

theorem mem_overloadsOf (member : owner ∈ registry.lineage ty)
    (listed : overload ∈ owner.overloads name) (isStatic : overload.flags.isStatic = wantStatic) :
    methodRef ty overload ∈ registry.overloadsOf ty name wantStatic := by
  apply List.mem_flatMap.mpr
  refine ⟨owner, member, List.mem_map_of_mem (List.mem_filter.mpr ⟨listed, ?_⟩)⟩
  rw [isStatic]
  exact beq_self_eq_true _

theorem mem_of_designated (nearest : registry.designated? ty = some (owner, property)) :
    owner ∈ registry.lineage ty := by
  obtain ⟨entry, member, found⟩ := List.exists_of_findSome?_eq_some nearest
  obtain ⟨designated, -, same⟩ := Option.map_eq_some_iff.mp found
  cases same
  exact member

/-- Indexing goes to the nearest property that is designated, and takes the first overload of its
getter. -/
theorem indexer_of_designated (nearest : registry.designated? ty = some (owner, property))
    (first : (owner.overloads (getterName property)).head? = some overload) :
    registry.indexer ty = some ⟨property, methodRef ty overload⟩ := by
  obtain ⟨front, entry, behind, parts, found, before⟩ := List.findSome?_eq_some_iff.mp nearest
  obtain ⟨designated, isDesignated, same⟩ := Option.map_eq_some_iff.mp found
  cases same
  apply List.findSome?_eq_some_iff.mpr
  refine ⟨front, owner, behind, parts, ?_, ?_⟩
  · simp only [isDesignated, first, Option.map_some]
  · intro other member
    have none := Option.map_eq_none_iff.mp (before other member)
    simp only [none]

end Choice

end Registry
end Formula
