import Formula.Expr.Build
import Formula.Proofs.Ancestry
import Formula.Proofs.Lookups

/-! Indexing beside calls of the getter. Indexing goes to the nearest entry of a lineage that
designates a property, takes the first overload of its getter and only then asks whether the arguments
match. A call of the getter by name takes the first overload along the lineage that does match. Both
come to the same for all arguments just if the overload that indexing takes comes first for calls too,
and covers every other. -/
namespace Formula

section Matching

variable {a b c : List Ty}

theorem paramsMatch_self (params : List Ty) : paramsMatch params params := by
  induction params with
  | nil => rfl
  | cons param params ih => simp [paramsMatch, ih]

/-- What matches the types of parameters that match others matches those. -/
theorem paramsMatch_trans (first : paramsMatch a b) (second : paramsMatch b c) : paramsMatch a c := by
  induction a generalizing b c with
  | nil =>
    cases b with
    | nil => exact second
    | cons => cases first
  | cons x a ih =>
    cases b with
    | nil => cases first
    | cons y b =>
      cases c with
      | nil => cases second
      | cons z c =>
        simp only [paramsMatch, Bool.and_eq_true, Bool.or_eq_true, beq_iff_eq] at first second ⊢
        refine ⟨?_, ih first.2 second.2⟩
        obtain rfl | ⟨rfl, accepts⟩ := first.1
        · exact second.1
        · rcases second.1 with rfl | ⟨rfl, -⟩
          · exact .inr ⟨rfl, accepts⟩
          · exact .inr ⟨rfl, accepts⟩

end Matching

/-- What a call of a method comes to: its callable, its parameters and its result. -/
def MethodRef.callee (ref : MethodRef) : Native × List Ty × Ty := (ref.native, ref.params, ref.result)

section Choices

variable {candidates rest : List MethodRef} {single : Option MethodRef} {first other getter : MethodRef}
  {args : List Ty}

theorem MethodRef.accepts_own (ref : MethodRef) : ref.accepts ref.params := paramsMatch_self _

/-- If the first of several candidates covers the others, none of those is ever chosen. -/
theorem find_of_covers
    (covers : ∀ other ∈ first :: rest, paramsMatch first.params other.params) :
    (first :: rest).find? (·.accepts args) = (some first).filter (·.accepts args) := by
  by_cases accepted : first.accepts args
  · rw [List.find?_cons_of_pos accepted, Option.filter_some_pos accepted]
  · rw [Option.filter_some_neg (Bool.eq_false_iff.mpr accepted)]
    apply List.find?_eq_none.mpr
    intro other member takes
    exact accepted (paramsMatch_trans (covers other member) takes)

/-- Methods that come to the same accept the same. -/
theorem filter_congr (same : getter.callee = first.callee) :
    ((some getter).filter (·.accepts args)).map MethodRef.callee =
      ((some first).filter (·.accepts args)).map MethodRef.callee := by
  have params : getter.params = first.params := congrArg (·.2.1) same
  simp only [Option.filter_some, MethodRef.accepts, params]
  split
  · exact congrArg some same
  · rfl

/-- A single candidate that is chosen whenever one of several is, accepts what any of them does. -/
theorem exists_accepting
    (agree : ∀ args, (single.filter (·.accepts args)).map MethodRef.callee =
      (candidates.find? (·.accepts args)).map MethodRef.callee)
    (member : other ∈ candidates) :
    ∃ getter, single = some getter ∧ paramsMatch getter.params other.params := by
  have taken : (candidates.find? (·.accepts other.params)).isSome :=
    List.find?_isSome.mpr ⟨other, member, other.accepts_own⟩
  have kept : (single.filter (·.accepts other.params)).isSome := by
    rw [← Option.isSome_map (f := MethodRef.callee), agree, Option.isSome_map]
    exact taken
  obtain ⟨getter, isKept⟩ := Option.isSome_iff_exists.mp kept
  exact ⟨getter, Option.filter_eq_some_iff.mp isKept⟩

/-- A single candidate and the first of several that accepts come to the same for all arguments just
if the candidate is the first of them, and this covers the others. -/
theorem filter_agrees_find_iff :
    (∀ args, (single.filter (·.accepts args)).map MethodRef.callee =
        (candidates.find? (·.accepts args)).map MethodRef.callee) ↔
      candidates.head?.map MethodRef.callee = single.map MethodRef.callee ∧
        ∀ first ∈ candidates.head?, ∀ other ∈ candidates, paramsMatch first.params other.params := by
  cases candidates with
  | nil =>
    cases single with
    | none => simp
    | some getter =>
      constructor
      · intro agree
        have own := agree getter.params
        rw [Option.filter_some_pos getter.accepts_own] at own
        cases own
      · rintro ⟨⟨⟩, -⟩
  | cons first rest =>
    constructor
    · intro agree
      obtain ⟨getter, rfl, -⟩ := exists_accepting agree List.mem_cons_self
      have own := agree first.params
      rw [List.find?_cons_of_pos first.accepts_own] at own
      obtain ⟨ref, kept, same⟩ := Option.map_eq_some_iff.mp own
      obtain ⟨isGetter, -⟩ := Option.filter_eq_some_iff.mp kept
      cases isGetter
      refine ⟨congrArg some same.symm, ?_⟩
      intro head isHead other member
      cases isHead
      obtain ⟨ref, isGetter, accepted⟩ := exists_accepting agree member
      cases isGetter
      have params : getter.params = first.params := congrArg (·.2.1) same
      rwa [params] at accepted
    · rintro ⟨isFirst, covers⟩ args
      obtain ⟨getter, rfl, same⟩ := Option.map_eq_some_iff.mp isFirst.symm
      rw [find_of_covers (covers first rfl)]
      exact filter_congr same

end Choices

namespace Registry

/-- The getter that indexing takes is the first to be found by its name, and no other of that name
can be reached. -/
structure IndexesAlone (registry : Registry) (ty : Ty) (property : String) : Prop where
  first : (registry.overloadsOf ty (getterName property) false).head?.map MethodRef.callee =
    (registry.indexer ty).map (·.getter.callee)
  covers : ∀ first ∈ (registry.overloadsOf ty (getterName property) false).head?,
    ∀ other ∈ registry.overloadsOf ty (getterName property) false,
      paramsMatch first.params other.params

variable {registry : Registry} {ty : Ty} {owner : Entry} {property : String} {overload : Overload}

/-- A getter that is the only method of its name along the lineage is found alike by both. -/
theorem indexesAlone_of_only (nearest : registry.designated? ty = some (owner, property))
    (first : (owner.overloads (getterName property)).head? = some overload)
    (ofInstance : overload.flags.isStatic = false)
    (only : (registry.overloadsOf ty (getterName property) false).length = 1) :
    registry.IndexesAlone ty property := by
  obtain ⟨ref, single⟩ := List.length_eq_one_iff.mp only
  have listed := mem_overloadsOf (mem_of_designated nearest) (List.mem_of_head? first) ofInstance
  rw [single] at listed
  obtain rfl := List.mem_singleton.mp listed
  constructor
  · rw [single, indexer_of_designated nearest first]
    rfl
  · rw [single]
    intro head isHead other member
    cases isHead
    obtain rfl := List.mem_singleton.mp member
    exact paramsMatch_self _

end Registry

namespace Expr

/-- Two expressions both fail to compile, or are calls of the same method on the same operands. -/
def SameCall : Except CompileError Expr → Except CompileError Expr → Prop
  | .ok (.call _ first target args), .ok (.call _ second target' args') =>
    first.native = second.native ∧ first.params = second.params ∧ first.result = second.result ∧
      target = target' ∧ args = args'
  | .error _, .error _ => True
  | _, _ => False

variable {world : Universe} {target : Expr} {name : Token} {args : List Expr} {opening span span' : Span}

/-- A call of what a lookup found, or the lookup's failure. -/
def callFound (answer : Option MethodRef) (fault : CompileError) (target : Expr) (args : List Expr)
    (span : Span) : Except CompileError Expr :=
  match answer with
  | some method => .ok (call ⟨method.result, span⟩ method target args)
  | none => .error fault

theorem callOn_eq : callOn world target name args span =
    callFound (world.method target.ty name.lexeme (types args) false)
      ⟨.memberNotFound target.ty (callText name.lexeme (types args)), name.span⟩ target args span := by
  unfold callOn
  cases world.method target.ty name.lexeme (types args) false <;> rfl

theorem indexInto_eq (notArray : target.ty.element? = none) :
    indexInto world target args opening span =
      callFound (((world.indexer target.ty).map (·.getter)).filter (·.accepts (types args)))
        ⟨.memberNotFound target.ty ("this[" ++ Ty.listText (types args) ++ "]"), opening⟩
        target args span := by
  unfold indexInto
  rw [notArray]
  cases world.indexer target.ty with
  | none => rfl
  | some ref =>
    cases accepted : paramsMatch ref.getter.params (types args) with
    | true =>
      simp only [Option.filter_some, Option.map_some, MethodRef.accepts, accepted]
      rfl
    | false =>
      simp only [Option.filter_some, Option.map_some, MethodRef.accepts, accepted]
      rfl

theorem sameCall_iff {first second : Option MethodRef} {fault fault' : CompileError} :
    SameCall (callFound first fault target args span) (callFound second fault' target args span') ↔
      first.map MethodRef.callee = second.map MethodRef.callee := by
  cases first with
  | none =>
    cases second with
    | none => simp [callFound, SameCall]
    | some => simp [callFound, SameCall]
  | some =>
    cases second with
    | none => simp [callFound, SameCall]
    | some => simp [callFound, SameCall, MethodRef.callee]

/-- Indexing what is no array compiles just if the arguments match the first overload of the getter
that the nearest designation names. -/
theorem indexInto_ok_iff {registry : Registry} {owner : Entry} {property : String}
    {overload : Overload} {e : Expr} (notArray : target.ty.element? = none)
    (nearest : registry.designated? target.ty = some (owner, property))
    (first : (owner.overloads (getterName property)).head? = some overload) :
    indexInto registry.toUniverse target args opening span = .ok e ↔
      (Registry.methodRef target.ty overload).accepts (types args) ∧
        e = call ⟨overload.result.substitute target.ty.args, span⟩
          (Registry.methodRef target.ty overload) target args := by
  have indexed : registry.toUniverse.indexer target.ty = some _ :=
    Registry.indexer_of_designated nearest first
  rw [indexInto_eq notArray, indexed, Option.map_some]
  cases accepted : (Registry.methodRef target.ty overload).accepts (types args) with
  | true =>
    rw [Option.filter_some_pos accepted]
    simp [callFound, Registry.methodRef, eq_comm]
  | false =>
    rw [Option.filter_some_neg accepted]
    simp [callFound]

/-- Indexing agrees with calls of a method for all arguments just if the two lookups agree for all
types of arguments. -/
theorem sameCalls_iff {registry : Registry} {method : String}
    (notArray : target.ty.element? = none) :
    (∀ args (name : Token) opening span span', name.lexeme = method →
      SameCall (indexInto registry.toUniverse target args opening span)
        (callOn registry.toUniverse target name args span')) ↔
      ∀ argTypes, (((registry.indexer target.ty).map (·.getter)).filter
          (·.accepts argTypes)).map MethodRef.callee =
        ((registry.overloadsOf target.ty method false).find?
          (·.accepts argTypes)).map MethodRef.callee := by
  constructor
  · intro agree argTypes
    -- Parameters of a formula can have any types.
    let args := argTypes.map fun ty => parameter ⟨ty, target.span⟩ 0 ""
    have typed : types args = argTypes := by simp [args, types, ty, info, Function.comp_def]
    have same := agree args (Token.word .identifier method target.span) target.span target.span
      target.span rfl
    rw [indexInto_eq notArray, callOn_eq, sameCall_iff, typed] at same
    rw [← Registry.method_eq_find]
    exact same
  · intro agree args name opening span span' named
    rw [indexInto_eq notArray, callOn_eq, sameCall_iff, named]
    exact (agree (types args)).trans (congrArg _ Registry.method_eq_find.symm)

/-- What is no array is indexed by the first overload of the getter that the nearest designation
names, where that accepts the arguments. This agrees for all arguments with calling a getter by name
just if that overload is the first of the name along the lineage and covers every other. -/
theorem indexInto_agrees_iff {entries : List Entry} {property : String}
    (notArray : target.ty.element? = none) :
    let registry := Registry.empty.registerAll entries
    let world := registry.toUniverse
    (∀ owner overload, registry.designated? target.ty = some (owner, property) →
        (owner.overloads (getterName property)).head? = some overload →
        ∀ args opening span e, indexInto world target args opening span = .ok e ↔
          (Registry.methodRef target.ty overload).accepts (types args) ∧
            e = call ⟨overload.result.substitute target.ty.args, span⟩
              (Registry.methodRef target.ty overload) target args) ∧
      ((∀ args (name : Token) opening span span', name.lexeme = getterName property →
        SameCall (indexInto world target args opening span) (callOn world target name args span')) ↔
          registry.IndexesAlone target.ty property) := by
  intro registry world
  constructor
  · intro owner overload nearest first args opening span e
    exact indexInto_ok_iff notArray nearest first
  · rw [sameCalls_iff notArray, filter_agrees_find_iff, Option.map_map]
    constructor
    · exact fun both => ⟨both.1, both.2⟩
    · exact fun alone => ⟨alone.first, alone.covers⟩

/-- A class with a single getter is indexed as the getter is called. -/
theorem indexInto_agrees_iff_box :
    let native : Native := fun call => call.argument 0
    let box := (Registry.empty.newClass "Box").withIndexer "Item" [.int] .string native
    let world := (Registry.empty.registerAll [box]).toUniverse
    let target := parameter ⟨.named "Box", Span.nowhere⟩ 0 "x"
    let name := Token.word .identifier "get_Item" Span.nowhere
    target.ty.element? = none ∧
      ∀ args, SameCall (indexInto world target args Span.nowhere Span.nowhere)
        (callOn world target name args Span.nowhere) := by
  intro native box world target name
  have notArray : target.ty.element? = none := rfl
  have alone : (Registry.empty.registerAll [box]).IndexesAlone target.ty "Item" := by
    have nearest : ((Registry.empty.registerAll [box]).designated? target.ty).map
        (fun found => (found.2, (found.1.overloads "get_Item").map (·.flags.isStatic))) =
          some ("Item", [false]) := by decide +kernel
    obtain ⟨⟨owner, property⟩, designated, same⟩ := Option.map_eq_some_iff.mp nearest
    obtain ⟨rfl, flags⟩ := Prod.mk.inj same
    obtain ⟨overload, getters, ofInstance⟩ := List.map_eq_singleton_iff.mp flags
    have first : (owner.overloads "get_Item").head? = some overload := by rw [getters]; rfl
    exact Registry.indexesAlone_of_only designated first ofInstance (by decide +kernel)
  exact ⟨notArray, fun args =>
    (indexInto_agrees_iff notArray).2.mpr alone args name Span.nowhere Span.nowhere Span.nowhere rfl⟩

/-- A method that has the name of the getter, and comes before it, keeps indexing from the getter, which
can still be called. -/
theorem indexInto_loses_getter :
    let native : Native := fun call => call.argument 0
    let box := ((Registry.empty.newClass "Box").withMethod "get_Item" [.string] .int native).withIndexer
      "Item" [.int] .int native
    let registry := Registry.empty.registerAll [box]
    let target := parameter ⟨.named "Box", Span.nowhere⟩ 0 "x"
    let args := [literal ⟨.int, Span.nowhere⟩ (.int 1)]
    let name := Token.word .identifier "get_Item" Span.nowhere
    target.ty.element? = none ∧ (registry.designated? target.ty).map (·.2) = some "Item" ∧
      (callOn registry.toUniverse target name args Span.nowhere).isOk = true ∧
      (indexInto registry.toUniverse target args Span.nowhere Span.nowhere).isOk = false := by
  intro native box registry target args name
  exact ⟨rfl, by decide +kernel, by decide +kernel, by decide +kernel⟩

end Expr
end Formula
