import Formula.Proofs.Ancestry
import Formula.Proofs.Resolution

/-! Where a call without a result is used as a value. Arithmetic, joined texts, conditions, indices and
methods whose parameters have values do not take one. It is let through wherever the type asked for is
its own or the root, and wherever none is asked for: on both sides of an equality, under a cast to the
root, before `is` and `as`, behind `??` with nothing on the left, and beside `null` as a branch, which
makes its type nullable. -/
namespace Formula

/-- What is left of a type without its nullable wrappers. -/
def Ty.core : Ty → Ty
  | nullable inner => core inner
  | ty => ty

section Conversions

variable {registry : Registry} {source target left right ty : Ty}

theorem Ty.stripped_eq_void : ty.stripped = .void ↔ ty = .void ∨ ty = .nullable .void := by
  cases ty <;> simp [Ty.stripped, Ty.inner?]

theorem Ty.core_stripped (ty : Ty) : ty.stripped.core = ty.core := by
  cases ty <;> rfl

/-- Beside `null`, the nullable form of void comes of this form and of void. -/
theorem Ty.admitting_eq_nullable_void
    (same : (if ty.acceptsNull then ty else ty.toNullable) = .nullable .void) :
    ty.stripped = .void := by
  rw [Ty.stripped_eq_void]
  obtain ⟨-, kept⟩ | ⟨-, wrapped⟩ := Ty.admitting_cases ty
  · exact .inr (kept.symm.trans same)
  · exact .inl (Ty.nullable.inj (wrapped.symm.trans same))

theorem promote_core (promoted : promote left right = some ty) : ty.core ≠ .void := by
  have numeric := (@promote_fits Registry.empty.toUniverse _ _ _ promoted).1
  cases ty <;> simp [Ty.isNumeric, Ty.core] at numeric ⊢

theorem Registry.assignable_from_void :
    registry.assignable .void target ↔ target = .void ∨ target = .object ∨ target = .nullable .void := by
  cases target <;> simp [Registry.assignable]

theorem Registry.assignable_to_void : registry.assignable source .void ↔ source = .void := by
  cases source <;> simp [Registry.assignable, Ty.acceptsNull]

namespace Universe

/-- Without being asked, void is converted to its nullable forms only. -/
theorem implicitlyConverts_from_void : (target : Ty) →
    (registry.toUniverse.implicitlyConverts .void target ↔ target.core = .void)
  | .nullable inner => by
    have wrapped := implicitlyConverts_from_void inner
    simp [implicitlyConverts_nullable, Ty.stripped, Ty.inner?, Ty.core, wrapped]
  | .void | .null | .object | .string | .primitive _ | .array _ | .cls _ _ | .param _ => by
    rw [implicitlyConverts_plain rfl]
    simp [widens, Ty.rank?, Ty.kind?, Ty.isVoid, Ty.core]

theorem implicitlyConverts_to_void :
    registry.toUniverse.implicitlyConverts source .void ↔ source = .void := by
  rw [implicitlyConverts_plain rfl]
  have kept : registry.toUniverse.assignable source .void ↔ source = .void :=
    Registry.assignable_to_void
  simp [widens, Ty.rank?, Ty.kind?, Ty.isVoid, kept]

theorem implicitlyConverts_to_nullable_void :
    registry.toUniverse.implicitlyConverts source (.nullable .void) ↔
      source = .null ∨ source = .void ∨ source = .nullable .void := by
  rw [implicitlyConverts_nullable]
  simp only [Bool.or_eq_true, beq_iff_eq, implicitlyConverts_to_void, Ty.stripped_eq_void]
  tauto

theorem castAllowedPlain_from_void :
    registry.toUniverse.castAllowedPlain .void target ↔ target = .void ∨ target = .object := by
  have kept : registry.toUniverse.assignable .void target ↔ _ := Registry.assignable_from_void
  have back : registry.toUniverse.assignable target .void ↔ _ := Registry.assignable_to_void
  cases target <;> simp [castAllowedPlain, isNumberLike, Ty.isNumeric, Ty.isValueType, kept, back]

theorem castAllowedPlain_to_void :
    registry.toUniverse.castAllowedPlain source .void ↔ source = .void ∨ source = .object := by
  have kept : registry.toUniverse.assignable source .void ↔ _ := Registry.assignable_to_void
  have back : registry.toUniverse.assignable .void source ↔ _ := Registry.assignable_from_void
  cases source <;>
    simp [castAllowedPlain, isNumberLike, Ty.isNumeric, Ty.isValueType, Ty.acceptsNull, kept, back]

/-- A cast that is written of void makes the root, or void, under any wrappers. -/
theorem castAllowed_from_void : (target : Ty) →
    (registry.toUniverse.castAllowed .void target ↔ target.core = .void ∨ target.core = .object)
  | .nullable inner => by
    have wrapped := castAllowed_from_void inner
    simpa [castAllowed, castAllowedTo, Ty.core] using wrapped
  | .void | .null | .object | .string | .primitive _ | .array _ | .cls _ _ | .param _ => by
    rw [castAllowed_plain rfl, castAllowedTo_plain rfl, castAllowedPlain_from_void]
    simp [Ty.core]

/-- Of void only its nullable forms and the root can be made. -/
theorem conversion_from_void (allowed : registry.toUniverse.implicitlyConverts .void target ∨
      registry.toUniverse.castAllowed .void target) :
    target.core = .void ∨ target.core = .object := by
  rw [implicitlyConverts_from_void, castAllowed_from_void] at allowed
  exact allowed.elim .inl id

/-- Void is made, by a cast that is written, of the root and of void, under any wrappers. -/
theorem castAllowed_to_void : (source : Ty) →
    (registry.toUniverse.castAllowed source .void ↔ source.core = .void ∨ source.core = .object)
  | .nullable inner => by
    have wrapped := castAllowed_to_void inner
    simpa [castAllowed, Ty.stripped, Ty.inner?, Ty.core] using wrapped
  | .void | .null | .object | .string | .primitive _ | .array _ | .cls _ _ | .param _ => by
    rw [castAllowed_plain rfl, castAllowedTo_plain rfl, castAllowedPlain_to_void]
    simp [Ty.core]

/-- The nullable form of void is made of `null`, and of whatever void is made of. -/
theorem castAllowed_to_nullable_void (differs : source ≠ .nullable .void) :
    registry.toUniverse.castAllowed source (.nullable .void) ↔
      source = .null ∨ source.core = .void ∨ source.core = .object := by
  cases source with
  | nullable inner =>
    have beneath := @castAllowed_to_void registry inner
    simpa [castAllowed, Ty.stripped, Ty.inner?, Ty.core, Ne.symm differs] using beneath
  | _ =>
    rw [castAllowed_plain rfl, castAllowedTo, castAllowedTo_plain rfl, Bool.or_eq_true,
      castAllowedPlain_to_void]
    simp [Ty.core]

/-- The nullable form of void is made of `null`, of void and of the root. -/
theorem conversion_to_nullable_void (differs : source ≠ .nullable .void)
    (allowed : registry.toUniverse.implicitlyConverts source (.nullable .void) ∨
      registry.toUniverse.castAllowed source (.nullable .void)) :
    source = .null ∨ source.core = .void ∨ source.core = .object := by
  rw [implicitlyConverts_to_nullable_void, castAllowed_to_nullable_void differs] at allowed
  obtain (isNull | rfl | same) | written := allowed
  · exact .inl isNull
  · exact .inr (.inl rfl)
  · exact absurd same differs
  · exact written

/-- The branches of a conditional whose type is the nullable form of void. -/
theorem unify_eq_nullable_void
    (common : registry.toUniverse.unify left right = some (.nullable .void)) :
    (left = .null ∨ left.stripped = .void) ∧ (right = .null ∨ right.stripped = .void) ∧
      (left = right → left = .nullable .void) := by
  unfold unify at common
  split at common
  case isTrue same =>
    cases same
    cases common
    exact ⟨.inr rfl, .inr rfl, fun _ => rfl⟩
  case isFalse differ =>
    have distinct : left = right → left = .nullable .void := fun same => absurd same differ
    split at common
    case isTrue isNull =>
      exact ⟨.inl isNull, .inr (Ty.admitting_eq_nullable_void (Option.some.inj common)), distinct⟩
    case isFalse =>
      split at common
      case isTrue isNull =>
        exact ⟨.inr (Ty.admitting_eq_nullable_void (Option.some.inj common)), .inl isNull, distinct⟩
      case isFalse =>
        split at common
        case isTrue => exact absurd rfl (promote_core common)
        case isFalse =>
          split at common
          case isTrue converts =>
            cases common
            obtain isNull | given := implicitlyConverts_to_nullable_void.mp converts
            · exact ⟨.inr rfl, .inl isNull, distinct⟩
            · exact ⟨.inr rfl, .inr (Ty.stripped_eq_void.mpr given), distinct⟩
          case isFalse =>
            split at common
            case isTrue converts =>
              cases common
              obtain isNull | given := implicitlyConverts_to_nullable_void.mp converts
              · exact ⟨.inl isNull, .inr rfl, distinct⟩
              · exact ⟨.inr (Ty.stripped_eq_void.mpr given), .inr rfl, distinct⟩
            case isFalse => cases common

/-- What `??` makes of void or a nullable form has nothing or such a form on the left. -/
theorem coalescedType_core (empty : ty.core = .void)
    (coalesced : Expr.coalescedType? registry.toUniverse left right = some ty) :
    left = .null ∨ left.core = .void := by
  unfold Expr.coalescedType? at coalesced
  split at coalesced
  case isTrue replaced =>
    cases coalesced
    obtain isNull | rfl | rfl := replaced
    · exact .inl isNull
    · exact .inr ((Ty.core_stripped left).symm.trans empty)
    · exact .inr empty
  case isFalse =>
    split at coalesced
    case isTrue =>
      cases coalesced
      exact .inr empty
    case isFalse =>
      split at coalesced
      case h_1 promoted =>
        cases coalesced
        exact absurd empty (promote_core promoted)
      case h_2 =>
        split at coalesced
        case isTrue =>
          cases coalesced
          exact .inr empty
        case isFalse => cases coalesced

end Universe
end Conversions

namespace Expr

/-- The subexpressions whose values a node uses. The branches of a conditional are its own value. -/
def used : Expr → List Expr
  | conditional _ test _ _ => [test]
  | e => e.children

/-- A subexpression without a value is used. -/
def UsesVoid (e : Expr) : Prop := ∃ part ∈ e.used, part.ty = .void

instance (e : Expr) : Decidable e.UsesVoid :=
  inferInstanceAs (Decidable (∃ part ∈ e.used, part.ty = .void))

end Expr

/-- Values in braces are assigned to a member without values, or added by a method that asks for such. -/
def Initializer.TakesVoid : Initializer → Prop
  | none => False
  | members refs => ∃ ref ∈ refs, ref.ty = .void
  | adds refs => ∃ ref ∈ refs, .void ∈ ref.params

namespace Expr

/-- The nodes that let an operand without a value through. -/
def TakesVoid (registry : Registry) : Expr → Prop
  | binary _ op left right => op.family = .equality ∧ left.ty = .void ∧ right.ty = .void
  | cast info operand => operand.ty = .void ∧ (info.ty.core = .void ∨ info.ty.core = .object)
  | typeTest _ _ _ operand => operand.ty = .void
  | coalesce _ left right => (left.ty = .null ∨ left.ty.core = .void) ∧ right.ty = .void
  | staticCall _ method _ => .void ∈ method.params
  | call _ method target _ =>
    .void ∈ method.params ∨ target.ty = .void ∧ registry.contains "System.Void"
  | member _ _ target => target.ty = .void ∧ registry.contains "System.Void"
  | create _ ref _ init _ => .void ∈ ref.params ∨ init.TakesVoid
  | arrayOf _ element items => element = .void ∧ items ≠ []
  | _ => False

/-- The nodes whose type is the nullable form of void: it was declared or written somewhere, or a
conversion makes it. -/
def MakesVoidNullable : Expr → Prop
  | parameter info _ _ => info.ty = .nullable .void
  | conditional info _ yes no => info.ty = .nullable .void ∧ ∃ first second : Expr,
    yes = first.castTo info.ty ∧ no = second.castTo info.ty ∧
      (first.ty = .null ∨ first.ty.stripped = .void) ∧
      (second.ty = .null ∨ second.ty.stripped = .void) ∧
      (first.ty = second.ty → first.ty = .nullable .void)
  | coalesce _ left right => (left.ty = .null ∨ left.ty.core = .void) ∧ right.ty = .nullable .void
  | staticCall _ method _ | call _ method _ _ => method.result = .nullable .void
  | staticMember _ ref | member _ ref _ => ref.ty = .nullable .void
  | index _ target _ => target.ty = .array (.nullable .void)
  | create _ ref _ _ _ => ref.ty = .nullable .void
  | cast info operand => info.ty = .nullable .void ∧
    (operand.ty = .null ∨ operand.ty.core = .void ∨ operand.ty.core = .object)
  | typeTest _ op target _ => op = .as ∧ target = .nullable .void
  | _ => False

end Expr

section Operands

variable {ty left right : Ty} {family : OperatorFamily}

theorem Ty.primitive_of_isNumeric (numeric : ty.isNumeric) : ∃ kind, ty = .primitive kind := by
  cases ty <;> first | exact ⟨_, rfl⟩ | cases numeric

theorem Ty.primitive_of_isIntegral (integral : ty.isIntegral) : ∃ kind, ty = .primitive kind := by
  cases ty <;> first | exact ⟨_, rfl⟩ | cases integral

theorem UnaryOp.Takes.primitive {op : UnaryOp} (takes : op.Takes ty) :
    ∃ kind, ty = .primitive kind := by
  cases op with
  | negate => cases ty <;> first | exact ⟨_, rfl⟩ | cases takes
  | not => exact ⟨.bool, takes⟩
  | complement => exact Ty.primitive_of_isIntegral takes

/-- Only equality takes operands that are not primitive. -/
theorem OperatorFamily.Takes.operands (takes : family.Takes left right ty) :
    family = .equality ∧ left = right ∨
      (∃ kind, left = .primitive kind) ∧ ∃ kind, right = .primitive kind := by
  cases family with
  | equality => exact .inl ⟨rfl, takes.1⟩
  | arithmetic =>
    obtain ⟨first, second, numeric⟩ := takes
    have primitive := Ty.primitive_of_isNumeric numeric
    exact .inr ⟨first ▸ primitive, second ▸ primitive⟩
  | relational =>
    obtain ⟨same, ordered, -⟩ := takes
    have primitive : ∃ kind, left = .primitive kind :=
      ordered.elim Ty.primitive_of_isNumeric fun isChar => ⟨.char, isChar⟩
    exact .inr ⟨primitive, same ▸ primitive⟩
  | bitwise =>
    obtain ⟨first, second, bits⟩ := takes
    have primitive : ∃ kind, ty = .primitive kind :=
      bits.elim Ty.primitive_of_isIntegral fun same => ⟨.bool, same⟩
    exact .inr ⟨first ▸ primitive, second ▸ primitive⟩
  | logical => exact .inr ⟨⟨.bool, takes.1⟩, ⟨.bool, takes.2.1⟩⟩
  | shift =>
    obtain ⟨-, integral, same⟩ := takes
    exact .inr ⟨Ty.primitive_of_isIntegral integral, ⟨_, same⟩⟩

theorem OperatorFamily.Takes.result (takes : family.Takes left right ty) :
    ∃ kind, ty = .primitive kind := by
  cases family with
  | equality => exact ⟨.bool, takes.2⟩
  | arithmetic => exact Ty.primitive_of_isNumeric takes.2.2
  | relational => exact ⟨.bool, takes.2.2⟩
  | bitwise => exact takes.2.2.elim Ty.primitive_of_isIntegral fun same => ⟨.bool, same⟩
  | logical => exact ⟨.bool, takes.2.2⟩
  | shift =>
    obtain ⟨rfl, integral, -⟩ := takes
    exact Ty.primitive_of_isIntegral integral

/-- Equality takes operands without values, and then two of them. -/
theorem OperatorFamily.Takes.void_iff (takes : family.Takes left right ty) :
    (left = .void ∨ right = .void) ↔ family = .equality ∧ left = .void ∧ right = .void := by
  constructor
  · intro either
    obtain ⟨equality, rfl⟩ | ⟨⟨_, rfl⟩, ⟨_, rfl⟩⟩ := takes.operands
    · exact ⟨equality, either.elim id id, either.elim id id⟩
    · simp at either
  · exact fun both => .inl both.2.1

/-- Some argument has no value just if some parameter asks for none. -/
theorem Expr.Meet.void_iff {params : List Ty} {args : List Expr} (met : Expr.Meet params args) :
    (∃ arg ∈ args, arg.ty = .void) ↔ .void ∈ params := by
  rw [← List.mem_map (f := Expr.ty)]
  change Ty.void ∈ Expr.types args ↔ _
  unfold Expr.Meet at met
  generalize Expr.types args = types at met ⊢
  induction met with
  | nil => rfl
  | @cons param arg _ _ meets _ ih =>
    rw [List.mem_cons, List.mem_cons, ih]
    have same : Ty.void = arg ↔ Ty.void = param := by
      obtain rfl | ⟨rfl, accepts⟩ := meets
      · rfl
      · cases param <;> simp [Ty.acceptsNull] at accepts ⊢
    rw [same]

theorem Initializer.Takes.void_iff {init : Initializer} {values : List Expr}
    (takes : init.Takes values) : (∃ value ∈ values, value.ty = .void) ↔ init.TakesVoid := by
  cases takes with
  | none => simp [Initializer.TakesVoid]
  | members same =>
    unfold Initializer.TakesVoid
    induction same with
    | nil => simp
    | cons fits _ ih => simp [ih, fits.1]
  | adds given =>
    unfold Initializer.TakesVoid
    induction given with
    | nil => simp
    | cons fits _ ih =>
      have one := fits.1.void_iff
      simp only [List.mem_cons, List.not_mem_nil, or_false, exists_eq_left] at one
      simp only [List.mem_cons, exists_eq_or_imp, ih, one]

end Operands

namespace Registry

variable {registry : Registry} {ty : Ty} {name : String} {args : List Ty} {static : Bool}

theorem contains_of_lineage {entry : Entry} (listed : entry ∈ registry.lineage ty) :
    registry.contains ty.entryName := by
  unfold lineage at listed
  split at listed
  case h_1 => cases listed
  case h_2 entry found => exact Option.isSome_iff_exists.mpr ⟨entry, found⟩

end Registry

namespace Expr

variable {registry : Registry} {scope : Scope} {e : Expr}

/-- A receiver without a value is one for which something is registered under the name of void. -/
theorem contains_of_receiver {target : Expr} {entry : Entry} (isVoid : target.ty = .void)
    (listed : entry ∈ registry.lineage target.ty) : registry.contains "System.Void" := by
  rw [isVoid] at listed
  exact Registry.contains_of_lineage listed

theorem contains_of_called {info : Info} {method : MethodRef} {target : Expr} {args : List Expr}
    (resolved : Resolved registry.toUniverse (call info method target args))
    (isVoid : target.ty = .void) : registry.contains "System.Void" := by
  obtain ⟨name, types, found⟩ | ⟨indexer, found⟩ := resolved
  · obtain ⟨entry, listed, -⟩ := Registry.method_origin found
    exact contains_of_receiver isVoid listed
  · obtain ⟨entry, listed, -⟩ := Registry.indexer_origin found
    exact contains_of_receiver isVoid listed

theorem contains_of_member {info : Info} {ref : MemberRef} {target : Expr}
    (resolved : Resolved registry.toUniverse (member info ref target))
    (isVoid : target.ty = .void) : registry.contains "System.Void" := by
  obtain ⟨name, found⟩ := resolved
  obtain ⟨entry, listed, -⟩ := Registry.member_origin found
  exact contains_of_receiver isVoid listed

/-- A node that obeys the typing discipline uses a subexpression without a value just where nothing
keeps it out. -/
theorem usesVoid_iff (world : scope.world = registry.toUniverse) (typed : WellTyped scope e)
    (resolved : Resolved registry.toUniverse e) : e.UsesVoid ↔ e.TakesVoid registry := by
  cases typed with
  | literal | parameter | staticMember | typeOf | sizeOf =>
    simp [UsesVoid, used, children, TakesVoid]
  | unary operand takes =>
    obtain ⟨kind, primitive⟩ := takes.primitive
    simp [UsesVoid, used, children, TakesVoid, primitive]
  | binary left right takes =>
    simpa [UsesVoid, used, children, TakesVoid] using takes.void_iff
  | conditional _ _ _ truth => simp [UsesVoid, used, TakesVoid, truth]
  | @coalesce _ _ l r left right nullable same =>
    have some : l.ty ≠ .void := fun isVoid => by rw [isVoid] at nullable; cases nullable
    simp only [UsesVoid, used, children, TakesVoid, List.mem_cons, List.not_mem_nil, or_false,
      exists_eq_or_imp, exists_eq_left, some, false_or]
    constructor
    · intro isVoid
      obtain ⟨given, coalesced⟩ := resolved
      have empty := congrArg Ty.core (same.symm.trans isVoid)
      exact ⟨Universe.coalescedType_core empty coalesced, isVoid⟩
    · exact And.right
  | staticCall _ given _ => exact given.void_iff
  | call target _ given found =>
    simp only [UsesVoid, used, children, TakesVoid, List.mem_cons, exists_eq_or_imp, given.void_iff]
    constructor
    · rintro (isVoid | asked)
      · exact .inr ⟨isVoid, contains_of_called resolved isVoid⟩
      · exact .inl asked
    · rintro (asked | ⟨isVoid, -⟩)
      · exact .inr asked
      · exact .inl isVoid
  | member target _ =>
    simp only [UsesVoid, used, children, TakesVoid, List.mem_singleton, exists_eq_left]
    constructor
    · exact fun isVoid => ⟨isVoid, contains_of_member resolved isVoid⟩
    · exact And.left
  | @index _ _ t p target position array integral =>
    have some : p.ty ≠ .void := fun isVoid => by rw [isVoid] at integral; cases integral
    simp [UsesVoid, used, children, TakesVoid, array, some]
  | create _ given _ filled =>
    simp only [UsesVoid, used, children, TakesVoid, List.mem_append, or_and_right, exists_or,
      given.void_iff, filled.void_iff]
  | @newArray _ _ l length integral =>
    have some : l.ty ≠ .void := fun isVoid => by rw [isVoid] at integral; cases integral
    simp [UsesVoid, used, children, TakesVoid, some]
  | @arrayOf _ _ items contents same =>
    simp only [UsesVoid, used, children, TakesVoid]
    constructor
    · rintro ⟨item, member, isVoid⟩
      exact ⟨(same item member).symm.trans isVoid, List.ne_nil_of_mem member⟩
    · rintro ⟨isVoid, some⟩
      obtain ⟨item, member⟩ := List.exists_mem_of_ne_nil items some
      exact ⟨item, member, (same item member).trans isVoid⟩
  | @cast ty _ e operand differs allowed =>
    simp only [UsesVoid, used, children, TakesVoid, List.mem_singleton, exists_eq_left]
    constructor
    · intro isVoid
      rw [isVoid, world] at allowed
      exact ⟨isVoid, Universe.conversion_from_void allowed⟩
    · exact And.left
  | is operand => simp [UsesVoid, used, children, TakesVoid]
  | as operand _ => simp [UsesVoid, used, children, TakesVoid]

/-- A node that obeys the typing discipline has the nullable form of void just where that was declared,
written or made by a conversion. -/
theorem ty_eq_nullable_void_iff (world : scope.world = registry.toUniverse)
    (typed : WellTyped scope e) (resolved : Resolved registry.toUniverse e) :
    e.ty = .nullable .void ↔ e.MakesVoidNullable := by
  cases typed with
  | @literal _ value constant =>
    have plain : value.ty ≠ .nullable .void := by
      obtain rfl | ⟨text, rfl⟩ | primitive := constant
      · nofun
      · nofun
      · cases value <;> simp [Value.kind?, Value.ty] at primitive ⊢
    exact iff_of_false plain id
  | parameter | staticCall | call | staticMember | member | create => rfl
  | unary operand takes =>
    obtain ⟨kind, primitive⟩ := takes.primitive
    exact iff_of_false (fun isVoid => nomatch primitive.symm.trans isVoid) id
  | binary left right takes =>
    obtain ⟨kind, primitive⟩ := takes.result
    exact iff_of_false (fun isVoid => nomatch primitive.symm.trans isVoid) id
  | @conditional _ _ _ _ _ _ _ _ truth first second =>
    constructor
    · intro isVoid
      obtain ⟨yes, no, given, other, common⟩ := resolved
      have common := common.trans (congrArg some isVoid)
      exact ⟨isVoid, yes, no, given, other, Universe.unify_eq_nullable_void common⟩
    · exact And.left
  | @coalesce _ _ l r left right nullable same =>
    constructor
    · intro isVoid
      obtain ⟨given, coalesced⟩ := resolved
      have empty := congrArg Ty.core isVoid
      exact ⟨Universe.coalescedType_core empty coalesced, same.trans isVoid⟩
    · exact fun both => same.symm.trans both.2
  | index target position array integral =>
    change _ = _ ↔ Expr.ty _ = _
    rw [array, Ty.array.injEq]
    rfl
  | newArray | arrayOf | typeOf | sizeOf => simp [MakesVoidNullable, ty, info, Reader.typeClass]
  | @cast ty _ e operand differs allowed =>
    constructor
    · intro isVoid
      replace isVoid : ty = .nullable .void := isVoid
      rw [isVoid, world] at allowed
      rw [isVoid] at differs
      exact ⟨isVoid, Universe.conversion_to_nullable_void differs allowed⟩
    · exact And.left
  | is operand => simp [MakesVoidNullable, ty, info]
  | as operand _ => simp [MakesVoidNullable, ty, info]

end Expr

namespace Lambda

variable {registry : Registry} {namespaces : List String} {declared : Option (List ParamSpec)}
  {receiver : Option Ty} {source : String} {lambda : Lambda}

/-- Where a subexpression without a value is used and where the nullable form of void comes from, at
every node of every formula that is read. -/
theorem parse_void (parsed :
      Lambda.parse registry.toUniverse namespaces declared receiver source = .ok lambda) :
    ∀ e : Expr, e.In lambda.body →
      (e.UsesVoid ↔ e.TakesVoid registry) ∧ (e.ty = .nullable .void ↔ e.MakesVoidNullable) := by
  intro e inside
  obtain ⟨numbered, s, t, proper, reads⟩ := parse_reads parsed
  have typed := (reads.typed registry.toUniverse_lawful numbered proper).inside inside
  have resolved := reads.resolved e inside
  exact ⟨Expr.usesVoid_iff rfl typed resolved, Expr.ty_eq_nullable_void_iff rfl typed resolved⟩

/-- A class with a method that has no result. -/
def logClass (registry : Registry) : Entry :=
  (registry.newClass "Log").withStatic "Clear" [] .void fun _ => return .null

/-- Beside `null`, a call without a result is a branch. -/
theorem parse_void_branch :
    let registry := Registry.empty.registerAll [logClass Registry.empty]
    ∃ lambda, Lambda.parse registry.toUniverse [] (some []) none "true ? null : Log.Clear()" =
        .ok lambda ∧ lambda.body.ty = .nullable .void ∧ lambda.body.MakesVoidNullable := by
  intro registry
  obtain ⟨lambda, parsed, made⟩ : ∃ lambda, Lambda.parse registry.toUniverse [] (some []) none
      "true ? null : Log.Clear()" = .ok lambda ∧ lambda.body.ty = .nullable .void :=
    exists_ok_that (by decide +kernel)
  exact ⟨lambda, parsed, made, (parse_void parsed lambda.body .self).2.mp made⟩

/-- Equality compares two calls that have no results. -/
theorem parse_void_compared :
    let registry := Registry.empty.registerAll [logClass Registry.empty]
    ∃ lambda, Lambda.parse registry.toUniverse [] (some []) none "Log.Clear() == Log.Clear()" =
        .ok lambda ∧ lambda.body.UsesVoid := by
  intro registry
  exact exists_ok_that (by decide +kernel)

end Lambda
end Formula
