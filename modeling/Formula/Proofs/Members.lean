import Formula.Proofs.Ancestry
import Formula.Proofs.Lookups

/-! What members look like from the type on which they are looked up. A member is declared in terms of
the parameters of the entry that declares it, and these are filled in order by the arguments of the
type on which it is found, wherever in the lineage that is. A parameter is left in what is found
exactly where the declaration mentions one that the type has no argument for; an entry with no more
parameters than the type has arguments leaves none. -/
namespace Formula

namespace Ty

mutual
/-- The parameters of declaring types that a type mentions. -/
def placeholders : Ty → List Nat
  | param index => [index]
  | nullable inner => placeholders inner
  | array element => placeholders element
  | cls _ args => placeholdersAll args
  | void | null | object | string | primitive _ => []

/-- The parameters that the types of a list mention. -/
def placeholdersAll : List Ty → List Nat
  | [] => []
  | ty :: rest => placeholders ty ++ placeholdersAll rest
end

/-- A type that mentions no parameter. -/
def Closed (ty : Ty) : Prop := ty.placeholders = []

instance (ty : Ty) : Decidable ty.Closed := inferInstanceAs (Decidable (_ = _))

variable {given types : List Ty} {ty : Ty} {index : Nat}

theorem mem_placeholdersAll :
    index ∈ placeholdersAll types ↔ ∃ ty ∈ types, index ∈ ty.placeholders := by
  induction types with
  | nil => simp [placeholdersAll]
  | cons ty types ih => simp [placeholdersAll, ih]

@[simp] theorem placeholders_toNullable (ty : Ty) : ty.toNullable.placeholders = ty.placeholders := by
  cases ty <;> rfl

theorem Closed.notMem (closed : ty.Closed) : index ∉ ty.placeholders := by
  rw [closed]
  exact List.not_mem_nil

/-- What an instantiation has for arguments is closed if the instantiation is. -/
theorem Closed.args (closed : ty.Closed) : ∀ arg ∈ ty.args, arg.Closed := by
  intro arg member
  cases ty with
  | nullable inner =>
    obtain rfl := List.mem_singleton.mp member
    exact closed
  | cls name args =>
    apply List.eq_nil_iff_forall_not_mem.mpr
    intro index mentioned
    exact closed.notMem (mem_placeholdersAll.mpr ⟨arg, member, mentioned⟩)
  | _ => cases member

mutual
/-- Closed arguments leave the parameters that they do not reach, and no others. -/
theorem mem_placeholders_substitute (closed : ∀ arg ∈ given, arg.Closed) : (ty : Ty) →
    (index ∈ (ty.substitute given).placeholders ↔ index ∈ ty.placeholders ∧ given.length ≤ index)
  | param own => by
    simp only [substitute, placeholders, List.mem_singleton]
    by_cases reached : own < given.length
    · have filled : index ∉ (given[own]).placeholders :=
        (closed _ (List.getElem_mem reached)).notMem
      rw [List.getElem?_eq_getElem reached, Option.getD_some]
      constructor
      · exact fun mentioned => absurd mentioned filled
      · rintro ⟨rfl, beyond⟩
        exact absurd reached (Nat.not_lt.mpr beyond)
    · rw [List.getElem?_eq_none (Nat.not_lt.mp reached), Option.getD_none]
      simp only [placeholders, List.mem_singleton]
      constructor
      · rintro rfl
        exact ⟨rfl, Nat.not_lt.mp reached⟩
      · exact And.left
  | nullable inner => by
    rw [substitute, placeholders_toNullable]
    exact mem_placeholders_substitute closed inner
  | array element => mem_placeholders_substitute closed element
  | cls _ args => mem_placeholders_substituteAll closed args
  | void | null | object | string | primitive _ => by simp [substitute, placeholders]

theorem mem_placeholders_substituteAll (closed : ∀ arg ∈ given, arg.Closed) : (types : List Ty) →
    (index ∈ placeholdersAll (substituteAll given types) ↔
      index ∈ placeholdersAll types ∧ given.length ≤ index)
  | [] => by simp [substituteAll, placeholdersAll]
  | ty :: rest => by
    simp only [substituteAll, placeholdersAll, List.mem_append]
    rw [mem_placeholders_substitute closed ty, mem_placeholders_substituteAll closed rest, or_and_right]
end

end Ty

/-- The types that a method shows. -/
def MethodRef.types (ref : MethodRef) : List Ty := ref.owner :: ref.result :: ref.params

/-- The types that a property or field shows. -/
def MemberRef.types (ref : MemberRef) : List Ty := [ref.owner, ref.ty]

/-- The types that a constructor shows. -/
def ConstructorRef.types (ref : ConstructorRef) : List Ty := ref.ty :: ref.params

/-- The types that an overload is declared with. -/
def Overload.types (overload : Overload) : List Ty := overload.result :: overload.params

namespace Entry

/-- The types that the members of an entry are declared with. -/
def memberTypes (entry : Entry) : List Ty :=
  entry.constructors.flatMap (·.params) ++ entry.methods.flatMap Overload.types ++
    entry.properties.map (·.ty)

/-- The members of an entry mention parameters of the entry only. -/
def WellScoped (entry : Entry) : Prop :=
  ∀ ty ∈ entry.memberTypes, ∀ index ∈ ty.placeholders, index < entry.arity

instance (entry : Entry) : Decidable entry.WellScoped :=
  inferInstanceAs
    (Decidable (∀ ty ∈ entry.memberTypes, ∀ index ∈ ty.placeholders, index < entry.arity))

variable {entry : Entry} {name : String} {overload : Overload} {property : Property}

theorem memberTypes_constructor (listed : overload ∈ entry.constructors) :
    overload.params ⊆ entry.memberTypes := by
  intro ty member
  simp only [memberTypes, List.mem_append, List.mem_flatMap]
  exact .inl (.inl ⟨overload, listed, member⟩)

theorem memberTypes_overload (listed : overload ∈ entry.overloads name) :
    overload.types ⊆ entry.memberTypes := by
  intro ty member
  simp only [memberTypes, List.mem_append, List.mem_flatMap]
  exact .inl (.inr ⟨overload, (List.mem_filter.mp listed).1, member⟩)

theorem memberTypes_property (found : entry.property? name = some property) :
    [property.ty] ⊆ entry.memberTypes := by
  intro ty member
  obtain rfl := List.mem_singleton.mp member
  simp only [memberTypes, List.mem_append, List.mem_map]
  exact .inr ⟨property, List.mem_of_find?_eq_some found, rfl⟩

end Entry

/-- How a number of arguments fills the types that an entry with a number of parameters declares. -/
structure Filled (given arity : Nat) (declared shown : List Ty) : Prop where
  left : ∀ index, (∃ ty ∈ shown, index ∈ ty.placeholders) ↔
    given ≤ index ∧ ∃ ty ∈ declared, index ∈ ty.placeholders
  closed : arity ≤ given → ∀ ty ∈ shown, ty.Closed

namespace Registry

variable {entry : Entry} {ty : Ty}

/-- The closed arguments of a type fill what an entry declares. -/
theorem filled_of_declared {declared : List Ty} (wellScoped : entry.WellScoped) (closed : ty.Closed)
    (among : declared ⊆ entry.memberTypes) :
    Filled ty.args.length entry.arity declared (ty :: declared.map (Ty.substitute ty.args)) := by
  have left : ∀ index,
      (∃ shown ∈ ty :: declared.map (Ty.substitute ty.args), index ∈ shown.placeholders) ↔
        ty.args.length ≤ index ∧ ∃ shown ∈ declared, index ∈ shown.placeholders := by
    intro index
    constructor
    · rintro ⟨shown, member, mentioned⟩
      rcases List.mem_cons.mp member with rfl | member
      · exact absurd mentioned closed.notMem
      · obtain ⟨origin, listed, rfl⟩ := List.mem_map.mp member
        obtain ⟨mentions, beyond⟩ := (Ty.mem_placeholders_substitute closed.args origin).mp mentioned
        exact ⟨beyond, origin, listed, mentions⟩
    · rintro ⟨beyond, origin, listed, mentions⟩
      have remains := (Ty.mem_placeholders_substitute closed.args origin).mpr ⟨mentions, beyond⟩
      exact ⟨_, List.mem_cons_of_mem _ (List.mem_map_of_mem listed), remains⟩
  refine ⟨left, fun enough shown member => ?_⟩
  apply List.eq_nil_iff_forall_not_mem.mpr
  intro index mentioned
  obtain ⟨beyond, origin, listed, mentions⟩ := (left index).mp ⟨shown, member, mentioned⟩
  have below := wellScoped origin (among listed) index mentions
  omega

/-- Where the members of every registered entry mention parameters of that entry only, the
constructors of a closed type are closed. Of its other members those are closed that are declared by
an entry with no more parameters than the type has arguments; and in each a parameter is left exactly
where its declaration mentions one beyond the arguments. -/
theorem registerAll_members_filled {entries : List Entry}
    (wellScoped : ∀ entry ∈ (Registry.empty.registerAll entries).entries, entry.WellScoped)
    (closed : ty.Closed) :
    let registry := Registry.empty.registerAll entries
    (∀ args ref, registry.creator ty args = some ref → ∀ shown ∈ ref.types, shown.Closed) ∧
      (∀ name wantStatic ref, registry.member ty name wantStatic = some ref →
        ∃ entry ∈ registry.lineage ty, ∃ property, entry.property? name = some property ∧
          ref = memberRef ty property ∧ Filled ty.args.length entry.arity [property.ty] ref.types) ∧
      (∀ name args wantStatic ref, registry.method ty name args wantStatic = some ref →
        ∃ entry ∈ registry.lineage ty, ∃ overload ∈ entry.overloads name,
          ref = methodRef ty overload ∧ Filled ty.args.length entry.arity overload.types ref.types) ∧
      ∀ ref, registry.indexer ty = some ref →
        ∃ entry ∈ registry.lineage ty, entry.defaultMember = some ref.property ∧
          ∃ overload ∈ entry.overloads (getterName ref.property), ref.getter = methodRef ty overload ∧
            Filled ty.args.length entry.arity overload.types ref.getter.types := by
  intro registry
  have inLineage : ∀ entry ∈ registry.lineage ty, entry.WellScoped :=
    fun entry member => wellScoped entry (lineage_registered entry member)
  refine ⟨?creators, ?members, ?methods, ?indexers⟩
  case creators =>
    intro args ref resolved
    obtain ⟨entry, declared, -, all, overload, listed, -, rfl⟩ := creator_origin resolved
    have filled := filled_of_declared (wellScoped entry (mem_of_get? declared)) closed
      (Entry.memberTypes_constructor listed)
    exact filled.closed (Nat.le_of_eq all)
  case members =>
    intro name wantStatic ref resolved
    obtain ⟨entry, member, property, declared, -, rfl⟩ := member_origin resolved
    exact ⟨entry, member, property, declared, rfl,
      filled_of_declared (inLineage entry member) closed (Entry.memberTypes_property declared)⟩
  case methods =>
    intro name args wantStatic ref resolved
    obtain ⟨entry, member, overload, listed, -, -, rfl⟩ := method_origin resolved
    exact ⟨entry, member, overload, listed, rfl,
      filled_of_declared (inLineage entry member) closed (Entry.memberTypes_overload listed)⟩
  case indexers =>
    intro ref resolved
    obtain ⟨entry, member, designated, overload, listed, same⟩ := indexer_origin resolved
    refine ⟨entry, member, designated, overload, listed, same, ?_⟩
    rw [same]
    exact filled_of_declared (inLineage entry member) closed (Entry.memberTypes_overload listed)

/-- A generic class that derives from another: what its base declares is closed on an instantiation
of it. -/
theorem registerAll_members_filled_ring :
    let native : Native := fun call => call.receiver
    let box := (Registry.empty.newClass "Box`1").withMethod "Get" [.array (.param 0)] (.param 0) native
    let ring := (Registry.empty.newClass "Ring`1").derivingFrom "Box`1"
    let registry := Registry.empty.registerAll [box, ring]
    let ty := Ty.cls "Ring`1" [.nullable .int]
    let args := [Ty.array (.nullable .int)]
    (∀ entry ∈ registry.entries, entry.WellScoped) ∧ ty.Closed ∧
      ∃ ref, registry.method ty "Get" args false = some ref ∧
        ref.types = [ty, .nullable .int, .array (.nullable .int)] ∧ ∀ shown ∈ ref.types, shown.Closed := by
  intro native box ring registry ty args
  have wellScoped : ∀ entry ∈ registry.entries, entry.WellScoped := by decide +kernel
  have closed : ty.Closed := by decide +kernel
  have resolved : (registry.method ty "Get" args false).map MethodRef.types =
      some [ty, .nullable .int, .array (.nullable .int)] := by decide +kernel
  obtain ⟨ref, found, types⟩ := Option.map_eq_some_iff.mp resolved
  obtain ⟨entry, member, overload, -, -, filled⟩ :=
    (registerAll_members_filled wellScoped closed).2.2.1 "Get" args false ref found
  have narrow : ∀ entry ∈ registry.lineage ty, entry.arity ≤ ty.args.length := by decide +kernel
  exact ⟨wellScoped, closed, ref, found, types, filled.closed (narrow entry member)⟩

/-- A class without parameters that derives from a generic class has members with a parameter left. -/
theorem registerAll_members_unfilled :
    let native : Native := fun call => call.receiver
    let box := (Registry.empty.newClass "Box`1").withMethod "Get" [] (.param 0) native
    let crate := (Registry.empty.newClass "Crate").derivingFrom "Box`1"
    let registry := Registry.empty.registerAll [box, crate]
    let ty := Ty.named "Crate"
    (∀ entry ∈ registry.entries, entry.WellScoped) ∧ ty.Closed ∧
      (∃ own, registry.entryFor? ty = some own ∧ own.arity = ty.args.length) ∧
      ∃ ref, registry.method ty "Get" [] false = some ref ∧ ref.types = [ty, .param 0] ∧
        ¬ (Ty.param 0).Closed := by
  intro native box crate registry ty
  have wellScoped : ∀ entry ∈ registry.entries, entry.WellScoped := by decide +kernel
  have closed : ty.Closed := by decide +kernel
  have declared : (registry.entryFor? ty).map Entry.arity = some ty.args.length := by decide +kernel
  have resolved : (registry.method ty "Get" [] false).map MethodRef.types = some [ty, .param 0] := by
    decide +kernel
  have left : ¬ (Ty.param 0).Closed := by decide
  obtain ⟨ref, found, types⟩ := Option.map_eq_some_iff.mp resolved
  exact ⟨wellScoped, closed, Option.map_eq_some_iff.mp declared, ref, found, types, left⟩

end Registry
end Formula
