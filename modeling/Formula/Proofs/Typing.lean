import Formula.Proofs.Grammar
import Formula.Proofs.Lookups
import Mathlib.Data.List.Forall2

/-! The typing discipline of trees, as one rule for each kind of node. The rules ask what the types of
the parts have to be, whatever way of reading put the node together; that each way of putting nodes
together meets them is proved here for the nodes and in `ReaderTyping` for the reader. -/
namespace Formula

/-- A value that a literal denotes: `null`, a text or a primitive. -/
def Value.IsConstant (value : Value) : Prop :=
  value = .null ∨ (∃ s, value = .string s) ∨ value.kind?.isSome

/-- An operand that an operator before it takes. -/
def UnaryOp.Takes : UnaryOp → Ty → Prop
  | negate, operand => operand.kind?.any Kind.isSigned
  | not, operand => operand = .bool
  | complement, operand => operand.isIntegral

/-- Operands that the operators of a family take, and their result. -/
def OperatorFamily.Takes : OperatorFamily → (left right result : Ty) → Prop
  | arithmetic, left, right, result => left = result ∧ right = result ∧ result.isNumeric
  | relational, left, right, result =>
    left = right ∧ (left.isNumeric ∨ left = .char) ∧ result = .bool
  | equality, left, right, result => left = right ∧ result = .bool
  | bitwise, left, right, result =>
    left = result ∧ right = result ∧ (result.isIntegral ∨ result = .bool)
  | logical, left, right, result => left = .bool ∧ right = .bool ∧ result = .bool
  | shift, left, right, result => left = result ∧ left.isIntegral ∧ right = .int

/-- An argument type is the parameter type, or that of `null` where the parameter admits it. -/
def Ty.Meets (param arg : Ty) : Prop := arg = param ∨ arg = .null ∧ param.acceptsNull

/-- Arguments that meet parameters one by one. -/
abbrev Expr.Meet (params : List Ty) (args : List Expr) : Prop :=
  List.Forall₂ Ty.Meets params (Expr.types args)

/-- A type that can be written: a name that resolves, a generic type closed over such types, a
nullable form or an array. -/
inductive Scope.Denotes (scope : Scope) : Ty → Prop where
  | name {name : String} (nonempty : name ≠ "") (resolved : scope.resolveName name = some ty) :
      Denotes scope ty
  | generic {args : List Ty} (written : ∀ arg ∈ args, Denotes scope arg)
      (resolved : scope.resolveGeneric name args = some ty) : Denotes scope ty
  | nullable (inner : Denotes scope ty) :
      Denotes scope (if ty.acceptsNull then ty else ty.toNullable)
  | array (element : Denotes scope ty) : Denotes scope (.array ty)

/-- Values in braces that fit what is done with them: each has the type of the member that it is
assigned to, or meets the parameters of the method that adds it. -/
inductive Initializer.Takes : Initializer → List Expr → Prop where
  | none : Takes .none []
  | members {refs : List MemberRef} {values : List Expr}
      (same : List.Forall₂ (fun ref value => value.ty = ref.ty ∧ ref.flags.isStatic = false)
        refs values) : Takes (.members refs) values
  | adds {refs : List MethodRef} {values : List Expr}
      (given : List.Forall₂ (fun ref value => Expr.Meet ref.params [value] ∧ ref.isStatic = false)
        refs values) : Takes (.adds refs) values

/-- A tree that obeys the typing discipline at every node. -/
inductive WellTyped (scope : Scope) : Expr → Prop where
  | literal (constant : value.IsConstant) : WellTyped scope (.literal ⟨value.ty, span⟩ value)
  | parameter (declared : scope.params.list[ordinal]? = some ⟨name, ty, ordinal⟩) :
      WellTyped scope (.parameter ⟨ty, span⟩ ordinal name)
  | unary {e : Expr} (operand : WellTyped scope e) (takes : op.Takes e.ty) :
      WellTyped scope (.unary ⟨e.ty, span⟩ op e)
  | binary {l r : Expr} (left : WellTyped scope l) (right : WellTyped scope r)
      (takes : op.family.Takes l.ty r.ty result) : WellTyped scope (.binary ⟨result, span⟩ op l r)
  | conditional {t y n : Expr} (test : WellTyped scope t) (yes : WellTyped scope y)
      (no : WellTyped scope n) (truth : t.ty = .bool) (first : y.ty = ty) (second : n.ty = ty) :
      WellTyped scope (.conditional ⟨ty, span⟩ t y n)
  | coalesce {l r : Expr} (left : WellTyped scope l) (right : WellTyped scope r)
      (nullable : l.ty.acceptsNull) (same : r.ty = ty) : WellTyped scope (.coalesce ⟨ty, span⟩ l r)
  | staticCall {args : List Expr} (operands : ∀ arg ∈ args, WellTyped scope arg)
      (given : Expr.Meet method.params args) (static : method.isStatic = true) :
      WellTyped scope (.staticCall ⟨method.result, span⟩ method args)
  | call {t : Expr} {args : List Expr} (target : WellTyped scope t)
      (operands : ∀ arg ∈ args, WellTyped scope arg) (given : Expr.Meet method.params args)
      (found : method.isStatic = false ∨
        ∃ indexer, scope.world.indexer t.ty = some indexer ∧ indexer.getter = method) :
      WellTyped scope (.call ⟨method.result, span⟩ method t args)
  | staticMember (static : ref.flags.isStatic = true) :
      WellTyped scope (.staticMember ⟨ref.ty, span⟩ ref)
  | member {t : Expr} (target : WellTyped scope t) (ofInstance : ref.flags.isStatic = false) :
      WellTyped scope (.member ⟨ref.ty, span⟩ ref t)
  | index {t p : Expr} (target : WellTyped scope t) (position : WellTyped scope p)
      (array : t.ty = .array element) (integral : p.ty.isIntegral) :
      WellTyped scope (.index ⟨element, span⟩ t p)
  | create {args values : List Expr} {init : Initializer}
      (operands : ∀ arg ∈ args, WellTyped scope arg)
      (given : Expr.Meet ref.params args) (contents : ∀ value ∈ values, WellTyped scope value)
      (filled : init.Takes values) : WellTyped scope (.create ⟨ref.ty, span⟩ ref args init values)
  | newArray {l : Expr} (length : WellTyped scope l) (integral : l.ty.isIntegral)
      (written : scope.Denotes element) :
      WellTyped scope (.newArray ⟨.array element, span⟩ element l)
  | arrayOf {items : List Expr} (contents : ∀ item ∈ items, WellTyped scope item)
      (same : ∀ item ∈ items, item.ty = element) :
      WellTyped scope (.arrayOf ⟨.array element, span⟩ element items)
  /-- A conversion that was needed or asked for is one that may be made. -/
  | cast {e : Expr} (operand : WellTyped scope e) (differs : e.ty ≠ ty)
      (allowed : scope.world.implicitlyConverts e.ty ty ∨ scope.world.castAllowed e.ty ty) :
      WellTyped scope (.cast ⟨ty, span⟩ e)
  | typeOf : WellTyped scope (.typeOf ⟨Reader.typeClass, span⟩ ty)
  | sizeOf (sized : ty.kind?.isSome) : WellTyped scope (.sizeOf ⟨.int, span⟩ ty)
  | is {e : Expr} (operand : WellTyped scope e) :
      WellTyped scope (.typeTest ⟨.bool, span⟩ .is target e)
  | as {e : Expr} (operand : WellTyped scope e) (nullable : target.acceptsNull) :
      WellTyped scope (.typeTest ⟨target, span⟩ .as target e)

/-- The answers of a universe fit the questions. -/
structure Universe.Lawful (world : Universe) : Prop where
  method : world.method ty name args static = some ref →
    List.Forall₂ Ty.Meets ref.params args ∧ ref.isStatic = static
  member : world.member ty name static = some ref → ref.flags.isStatic = static
  creator : world.creator ty args = some ref → List.Forall₂ Ty.Meets ref.params args ∧ ref.ty = ty
  toObject : world.assignable source .object
  ofNull : target.acceptsNull → world.assignable .null target

theorem paramsMatch_meets {params args : List Ty} (matched : paramsMatch params args) :
    List.Forall₂ Ty.Meets params args := by
  fun_induction paramsMatch params args with
  | case1 => exact .nil
  | case2 param params arg args ih =>
    simp only [Bool.and_eq_true, Bool.or_eq_true, beq_iff_eq] at matched
    obtain ⟨same | ⟨isNull, accepts⟩, rest⟩ := matched
    · exact .cons (.inl same.symm) (ih rest)
    · exact .cons (.inr ⟨isNull, accepts⟩) (ih rest)
  | case3 => cases matched

namespace Registry

variable {registry : Registry} {ty : Ty} {name : String} {args : List Ty} {static : Bool}

theorem method_fits {ref : MethodRef} (found : registry.method ty name args static = some ref) :
    List.Forall₂ Ty.Meets ref.params args ∧ ref.isStatic = static := by
  obtain ⟨_, -, overload, -, isStatic, accepted, rfl⟩ := method_origin found
  exact ⟨paramsMatch_meets accepted, isStatic⟩

theorem member_fits {ref : MemberRef} (found : registry.member ty name static = some ref) :
    ref.flags.isStatic = static := by
  obtain ⟨_, -, property, -, isStatic, rfl⟩ := member_origin found
  exact isStatic

theorem creator_fits {ref : ConstructorRef} (found : registry.creator ty args = some ref) :
    List.Forall₂ Ty.Meets ref.params args ∧ ref.ty = ty := by
  obtain ⟨_, -, -, -, overload, -, matched, rfl⟩ := creator_origin found
  exact ⟨paramsMatch_meets matched, rfl⟩

theorem toUniverse_lawful (registry : Registry) : registry.toUniverse.Lawful where
  method := method_fits
  member := member_fits
  creator := creator_fits
  toObject := by simp [toUniverse, assignable]
  ofNull {target} accepts := by
    by_cases same : .null = target ∨ target = .object
    · simp [toUniverse, assignable, same]
    · simp [toUniverse, assignable, same, accepts]

end Registry

namespace Universe

variable {world : Universe} {source target left right ty : Ty}

theorem implicitlyConverts_nullable {inner : Ty} :
    world.implicitlyConverts source (.nullable inner) =
      (source == .nullable inner || source == .null
        || world.implicitlyConverts source.stripped inner) := by
  rw [implicitlyConverts]

theorem implicitlyConverts_plain (plain : target.inner? = none) :
    world.implicitlyConverts source target =
      (source == target || widens source target
        || (!source.isVoid && world.assignable source target)) := by
  cases target <;> first | rfl | cases plain

@[simp] theorem implicitlyConverts_self (ty : Ty) : world.implicitlyConverts ty ty := by
  cases plain : ty.inner? with
  | none => simp [implicitlyConverts_plain plain]
  | some inner =>
    cases ty <;> cases plain
    simp [implicitlyConverts_nullable]

/-- A type may stand for its nullable form, also where it is nullable itself. -/
theorem implicitlyConverts_wrapped : (ty : Ty) → world.implicitlyConverts ty (.nullable ty)
  | .nullable inner => by
    have wrapped := implicitlyConverts_wrapped inner
    simp [implicitlyConverts_nullable, Ty.stripped, Ty.inner?, wrapped]
  | .void | .null | .object | .string | .primitive _ | .array _ | .cls _ _ | .param _ => by
    simp [implicitlyConverts_nullable, Ty.stripped, Ty.inner?]

theorem implicitlyConverts_of_widens (wider : widens source target) :
    world.implicitlyConverts source target := by
  have plain : target.inner? = none := by
    cases target <;> first | rfl | simp [widens, Ty.rank?, Ty.kind?] at wider
  simp [implicitlyConverts_plain plain, wider]

theorem castAllowedTo_plain (plain : target.inner? = none) :
    world.castAllowedTo source target = world.castAllowedPlain source target := by
  cases target <;> first | rfl | cases plain

theorem castAllowed_plain (plain : source.inner? = none) :
    world.castAllowed source target = world.castAllowedTo source target := by
  cases source <;> first | rfl | cases plain

/-- A cast of an operand that is not nullable, wrapper by wrapper of the target. -/
private theorem castAllowedTo_eq (plain : source.inner? = none) : world.castAllowedTo source target =
    if source = target ∨ source = .object ∨ target = .object then true
    else if source = .null then target.acceptsNull
    else if isNumberLike source && isNumberLike target then true
    else if target.inner?.isSome then world.castAllowedTo source target.stripped
    else if source.isValueType || target.isValueType then false
    else world.assignable source target || world.assignable target source := by
  cases target with
  | nullable target =>
    have differs : source ≠ .nullable target := by
      rintro rfl
      cases plain
    rw [castAllowedTo]
    by_cases root : source = .object
    · simp [root]
    · by_cases isNull : source = .null
      · simp [isNull, Ty.acceptsNull]
      · simp [root, isNull, differs, isNumberLike, Ty.isNumeric, Ty.stripped, Ty.inner?]
  | _ =>
    rw [castAllowedTo_plain rfl, castAllowedPlain]
    simp [Ty.inner?]

/-- When a cast may be written. Wrappers come off both types together, as long as one has any, and
every pair of types that comes up on the way may already settle it. -/
theorem castAllowed_eq (source target : Ty) : world.castAllowed source target =
    if source = target ∨ source = .object ∨ target = .object then true
    else if source = .null then target.acceptsNull
    else if isNumberLike source && isNumberLike target then true
    else if source.inner?.isSome || target.inner?.isSome then
      world.castAllowed source.stripped target.stripped
    else if source.isValueType || target.isValueType then false
    else world.assignable source target || world.assignable target source := by
  cases source with
  | nullable source =>
    rw [castAllowed]
    by_cases same : target = .nullable source
    · simp [same]
    · by_cases root : target = .object
      · simp [root]
      · simp [same, Ne.symm same, root, isNumberLike, Ty.isNumeric, Ty.stripped, Ty.inner?]
  | _ => rw [castAllowed_plain rfl, castAllowedTo_eq rfl, ← castAllowed_plain rfl]; rfl

/-- A cast takes a wrapper off. -/
theorem castAllowed_stripped : (ty : Ty) → world.castAllowed ty ty.stripped
  | .nullable inner => by
    have beneath := castAllowed_stripped inner
    simp [castAllowed, Ty.stripped, Ty.inner?] at beneath ⊢
    simp [beneath]
  | .void | .null | .object | .string | .primitive _ | .array _ | .cls _ _ | .param _ => by
    simp [castAllowed_eq, Ty.stripped, Ty.inner?]

namespace Lawful

theorem convertsNull (lawful : world.Lawful) (accepts : target.acceptsNull) :
    world.implicitlyConverts .null target := by
  cases plain : target.inner? with
  | none => simp [implicitlyConverts_plain plain, Ty.isVoid, lawful.ofNull accepts]
  | some inner =>
    cases target <;> cases plain
    simp [implicitlyConverts_nullable]

theorem convertsObject (lawful : world.Lawful) (some : source.isVoid = false) :
    world.implicitlyConverts source .object := by
  simp [implicitlyConverts_plain (show Ty.object.inner? = none from rfl), some, lawful.toObject]

end Lawful

end Universe

section Promotion

variable {world : Universe} {left right ty operand result : Ty}

theorem isNumeric_of_rank {rank : Nat} (ranked : ty.rank? = some rank) : ty.isNumeric := by
  cases ty with
  | primitive kind =>
    cases kind <;> first | rfl | cases ranked
  | _ => cases ranked

/-- Arithmetic computes at a number type that both operands widen to. -/
theorem promote_fits (promoted : promote left right = some ty) :
    ty.isNumeric ∧ world.implicitlyConverts left ty ∧ world.implicitlyConverts right ty := by
  unfold promote at promoted
  split at promoted
  case isTrue same =>
    cases promoted
    obtain ⟨rfl, numeric⟩ := same
    exact ⟨numeric, by simp, by simp⟩
  case isFalse =>
    split at promoted
    case h_1 l r leftRank rightRank =>
      cases promoted
      split
      case isTrue above =>
        refine ⟨isNumeric_of_rank leftRank, by simp, Universe.implicitlyConverts_of_widens ?_⟩
        simpa [widens, leftRank, rightRank] using above
      case isFalse below =>
        refine ⟨isNumeric_of_rank rightRank, Universe.implicitlyConverts_of_widens ?_, by simp⟩
        simp only [widens, leftRank, rightRank, decide_eq_true_eq]
        omega
    case h_2 => cases promoted

/-- What is compared with its nullable form is compared as that, unless it is nullable itself: then the
other loses a wrapper. -/
private theorem comparedWrapped_fits (ty : Ty) :
    (world.implicitlyConverts (.nullable ty) ty.toNullable ∨
      world.castAllowed (.nullable ty) ty.toNullable) ∧ world.implicitlyConverts ty ty.toNullable := by
  cases ty with
  | nullable inner => exact ⟨.inr (Universe.castAllowed_stripped _), by simp [Ty.toNullable]⟩
  | _ => exact ⟨.inl (by simp [Ty.toNullable]), Universe.implicitlyConverts_wrapped _⟩

/-- The type at which equality is tested is one that both operands may be made. -/
theorem equalityOperand_fits (lawful : world.Lawful)
    (operands : equalityOperand left right = some ty) :
    (world.implicitlyConverts left ty ∨ world.castAllowed left ty) ∧
      (world.implicitlyConverts right ty ∨ world.castAllowed right ty) := by
  unfold equalityOperand at operands
  split at operands
  case isTrue same => cases operands; subst same; simp
  case isFalse =>
    split at operands
    case isTrue isNull =>
      split at operands
      case isTrue accepts =>
        cases operands
        exact ⟨.inl (isNull ▸ lawful.convertsNull accepts), by simp⟩
      case isFalse => cases operands
    case isFalse =>
      split at operands
      case isTrue isNull =>
        split at operands
        case isTrue accepts =>
          cases operands
          exact ⟨by simp, .inl (isNull ▸ lawful.convertsNull accepts)⟩
        case isFalse => cases operands
      case isFalse =>
        split at operands
        case isTrue wraps =>
          cases operands
          obtain ⟨wrapped, plain⟩ := @comparedWrapped_fits world right
          exact ⟨wraps ▸ wrapped, .inl plain⟩
        case isFalse =>
          split at operands
          case isTrue wraps =>
            cases operands
            obtain ⟨wrapped, plain⟩ := @comparedWrapped_fits world left
            exact ⟨.inl plain, wraps ▸ wrapped⟩
          case isFalse =>
            split at operands
            case isTrue references =>
              cases operands
              simp only [Bool.and_eq_true, Bool.not_eq_true'] at references
              exact ⟨.inl (lawful.convertsObject references.1.2),
                .inl (lawful.convertsObject references.2)⟩
            case isFalse => cases operands

/-- The type at which an operator takes its operands is one that it takes and that both may be made. -/
theorem operandTypes_fit {op : BinaryOp} (lawful : world.Lawful)
    (operands : Expr.operandTypes? op left right = some (operand, result)) :
    op.family.Takes operand operand result ∧
      (world.implicitlyConverts left operand ∨ world.castAllowed left operand) ∧
      (world.implicitlyConverts right operand ∨ world.castAllowed right operand) := by
  unfold Expr.operandTypes? at operands
  split at operands <;> rename_i family <;> rw [family]
  case h_1 =>
    obtain ⟨ty, promoted, same⟩ := Option.map_eq_some_iff.mp operands
    cases same
    obtain ⟨numeric, converts⟩ := promote_fits promoted
    exact ⟨⟨rfl, rfl, numeric⟩, .inl converts.1, .inl converts.2⟩
  case h_2 =>
    split at operands
    case isTrue both =>
      cases operands
      obtain ⟨rfl, ordered⟩ := both
      exact ⟨⟨rfl, ordered, rfl⟩, by simp, by simp⟩
    case isFalse => cases operands
  case h_3 =>
    obtain ⟨ty, compared, same⟩ := Option.map_eq_some_iff.mp operands
    cases same
    exact ⟨⟨rfl, rfl⟩, equalityOperand_fits lawful compared⟩
  case h_4 =>
    split at operands
    case isTrue both =>
      cases operands
      obtain ⟨rfl, bits⟩ := both
      exact ⟨⟨rfl, rfl, by simpa [Ty.isBool] using bits⟩, by simp, by simp⟩
    case isFalse => cases operands
  case h_5 =>
    split at operands
    case isTrue both =>
      cases operands
      simp only [Ty.isBool, beq_iff_eq] at both
      obtain ⟨rfl, rfl⟩ := both
      exact ⟨⟨rfl, rfl, rfl⟩, by simp, by simp⟩
    case isFalse => cases operands
  case h_6 => cases operands

/-- A type that admits `null` is made to by nothing, every other by its nullable form. -/
theorem Ty.admitting_cases (ty : Ty) :
    ty.acceptsNull ∧ (if ty.acceptsNull then ty else ty.toNullable) = ty ∨
      ty.acceptsNull = false ∧ (if ty.acceptsNull then ty else ty.toNullable) = .nullable ty := by
  cases ty with
  | primitive | void | param => exact .inr ⟨rfl, rfl⟩
  | null | object | string | nullable | array | cls => exact .inl ⟨rfl, rfl⟩

/-- Beside a branch that is `null`, the other takes its nullable form, if it does not admit `null`. -/
private theorem nullBranch (lawful : world.Lawful) (ty : Ty) :
    world.implicitlyConverts .null (if ty.acceptsNull then ty else ty.toNullable) ∧
      world.implicitlyConverts ty (if ty.acceptsNull then ty else ty.toNullable) := by
  obtain ⟨accepts, same⟩ | ⟨-, wrapped⟩ := Ty.admitting_cases ty
  · rw [same]
    exact ⟨lawful.convertsNull accepts, by simp⟩
  · rw [wrapped]
    exact ⟨lawful.convertsNull rfl, Universe.implicitlyConverts_wrapped ty⟩

/-- Both branches convert to their common type. -/
theorem unify_fits (lawful : world.Lawful) (common : world.unify left right = some ty) :
    world.implicitlyConverts left ty ∧ world.implicitlyConverts right ty := by
  unfold Universe.unify at common
  split at common
  case isTrue same => cases common; subst same; simp
  case isFalse =>
    split at common
    case isTrue isNull =>
      cases common
      subst isNull
      exact nullBranch lawful right
    case isFalse =>
      split at common
      case isTrue isNull =>
        cases common
        subst isNull
        exact (nullBranch lawful left).symm
      case isFalse =>
        split at common
        case isTrue => exact (promote_fits common).2
        case isFalse =>
          split at common
          case isTrue converts => cases common; exact ⟨by simp, converts⟩
          case isFalse =>
            split at common
            case isTrue converts => cases common; exact ⟨converts, by simp⟩
            case isFalse => cases common

/-- The right side of `??` converts to the type of the whole. -/
theorem coalescedType_fits (lawful : world.Lawful) (accepts : left.acceptsNull)
    (coalesced : Expr.coalescedType? world left right = some ty) :
    world.implicitlyConverts right ty := by
  unfold Expr.coalescedType? at coalesced
  split at coalesced
  case isTrue => cases coalesced; simp
  case isFalse =>
    split at coalesced
    case isTrue isNull =>
      cases coalesced
      subst isNull
      exact lawful.convertsNull accepts
    case isFalse =>
      split at coalesced
      case h_1 promoted =>
        cases coalesced
        exact (promote_fits promoted).2.2
      case h_2 =>
        split at coalesced
        case isTrue converts => cases coalesced; exact converts
        case isFalse => cases coalesced

end Promotion

/-- A sequence comes to a result where its first part comes to one and the second to the whole. -/
theorem except_then {ε α β : Type} {first : Except ε α} {rest : α → Except ε β} {b : β} :
    (first >>= rest) = .ok b ↔ ∃ a, first = .ok a ∧ rest a = .ok b := by
  cases first with
  | error e => simp [bind, Except.bind]
  | ok a => simp [bind, Except.bind]

/-- A result of which something can be checked is there. -/
theorem exists_ok_that {ε α : Type} {result : Except ε α} {holds : α → Prop} [DecidablePred holds]
    (checks : (result.toOption.any fun a => decide (holds a)) = true) :
    ∃ a, result = .ok a ∧ holds a := by
  cases result with
  | error e => cases checks
  | ok a => exact ⟨a, rfl, by simpa [Except.toOption] using checks⟩

namespace Expr

variable {scope : Scope} {e e' left right target : Expr} {args : List Expr} {ty : Ty}
  {name : Token} {span sign : Span}

@[simp] theorem castTo_ty (e : Expr) (ty : Ty) : (e.castTo ty).ty = ty := by
  unfold castTo
  split
  case isTrue same => exact same
  case isFalse => rfl

theorem castTo_allowed (typed : WellTyped scope e)
    (allowed : scope.world.implicitlyConverts e.ty ty ∨ scope.world.castAllowed e.ty ty) :
    WellTyped scope (e.castTo ty) := by
  unfold castTo
  split
  case isTrue => exact typed
  case isFalse differs => exact .cast typed differs allowed

theorem castTo_typed (typed : WellTyped scope e)
    (converts : scope.world.implicitlyConverts e.ty ty) : WellTyped scope (e.castTo ty) :=
  castTo_allowed typed (.inl converts)

theorem convertImplicit_typed (typed : WellTyped scope e)
    (built : convertImplicit scope.world e ty = .ok e') : WellTyped scope e' ∧ e'.ty = ty := by
  unfold convertImplicit at built
  split at built
  case isTrue converts =>
    cases built
    exact ⟨castTo_typed typed converts, castTo_ty e ty⟩
  case isFalse => cases built

theorem convertAll_typed {items : List Expr} (typed : ∀ arg ∈ args, WellTyped scope arg)
    (built : convertAll scope.world ty args = .ok items) :
    ∀ item ∈ items, WellTyped scope item ∧ item.ty = ty := by
  induction args generalizing items with
  | nil =>
    cases built
    simp
  | cons arg args ih =>
    obtain ⟨first, head, built⟩ := except_then.mp built
    obtain ⟨others, tail, built⟩ := except_then.mp built
    cases built
    intro item member
    rcases List.mem_cons.mp member with rfl | member
    · exact convertImplicit_typed (typed arg List.mem_cons_self) head
    · exact ih (fun arg inside => typed arg (List.mem_cons_of_mem _ inside)) tail item member

theorem applySign_typed {sign : Token} (typed : WellTyped scope e)
    (built : applySign sign e = .ok e') : WellTyped scope e' := by
  unfold applySign at built
  split at built
  case h_1 => cases built; exact typed
  case h_2 op chosen =>
    cases built
    refine .unary typed ?_
    unfold unaryOp? at chosen
    split at chosen
    case h_1 => split at chosen <;> simp at chosen
    case h_2 =>
      split at chosen
      case isTrue signed => cases chosen; exact signed
      case isFalse => cases chosen
    case h_3 | h_4 =>
      split at chosen
      case isTrue truth =>
        cases chosen
        simpa [Ty.isBool, UnaryOp.Takes] using truth
      case isFalse =>
        split at chosen
        case isTrue integral => cases chosen; exact integral
        case isFalse => cases chosen
    case h_5 => cases chosen
  case h_3 => cases built

theorem concat_typed (lawful : scope.world.Lawful) (typedLeft : WellTyped scope left)
    (typedRight : WellTyped scope right) (built : concat scope.world left right sign = .ok e) :
    WellTyped scope e := by
  unfold concat at built
  split at built
  case isTrue => cases built
  case isFalse nonvoid =>
    obtain ⟨method, resolved, built⟩ := except_then.mp built
    cases built
    obtain ⟨met, static⟩ := lawful.method (Reader.found_ok.mp resolved)
    simp only [Bool.or_eq_true, not_or, Bool.not_eq_true] at nonvoid
    refine .staticCall ?_ (by simpa [Meet, types] using met) static
    simp only [List.mem_cons, List.not_mem_nil, or_false, forall_eq_or_imp, forall_eq]
    exact ⟨castTo_typed typedLeft (lawful.convertsObject nonvoid.1),
      castTo_typed typedRight (lawful.convertsObject nonvoid.2)⟩

theorem applyOperator_typed {op : BinaryOp} (lawful : scope.world.Lawful)
    (typedLeft : WellTyped scope left) (typedRight : WellTyped scope right)
    (built : applyOperator scope.world op left right sign = .ok e) : WellTyped scope e := by
  unfold applyOperator at built
  simp only at built
  split at built
  case isTrue => exact concat_typed lawful typedLeft typedRight built
  case isFalse =>
    split at built
    case isTrue shifts =>
      split at built
      case isTrue both =>
        cases built
        refine .binary typedLeft typedRight ?_
        rw [shifts]
        exact ⟨rfl, both.1, both.2⟩
      case isFalse => cases built
    case isFalse =>
      split at built
      case h_1 operand result chosen =>
        cases built
        obtain ⟨takes, first, second⟩ := operandTypes_fit lawful chosen
        refine .binary (castTo_allowed typedLeft first) (castTo_allowed typedRight second) ?_
        simpa using takes
      case h_2 => cases built

theorem choose_typed {test yes no : Expr} (lawful : scope.world.Lawful)
    (typedTest : WellTyped scope test) (typedYes : WellTyped scope yes)
    (typedNo : WellTyped scope no) (truth : test.ty.isBool)
    (built : choose scope.world test yes no = .ok e) : WellTyped scope e := by
  unfold choose at built
  split at built
  case h_1 ty common =>
    cases built
    obtain ⟨first, second⟩ := unify_fits lawful common
    exact .conditional typedTest (castTo_typed typedYes first) (castTo_typed typedNo second)
      (by simpa [Ty.isBool] using truth) (castTo_ty yes ty) (castTo_ty no ty)
  case h_2 => cases built

theorem coalesceWith_typed (lawful : scope.world.Lawful) (typedLeft : WellTyped scope left)
    (typedRight : WellTyped scope right)
    (built : coalesceWith scope.world left right sign = .ok e) : WellTyped scope e := by
  unfold coalesceWith at built
  split at built
  case isTrue => cases built
  case isFalse accepts =>
    simp only [Bool.not_eq_true', Bool.not_eq_false] at accepts
    split at built
    case h_1 ty coalesced =>
      cases built
      have converts := coalescedType_fits lawful accepts coalesced
      exact .coalesce typedLeft (castTo_typed typedRight converts) accepts (castTo_ty right ty)
    case h_2 => cases built

theorem testType_typed {op : TypeTest} {keyword : Span} (typed : WellTyped scope e)
    (built : testType op e ty keyword span = .ok e') : WellTyped scope e' := by
  unfold testType at built
  split at built
  case h_1 => cases built; exact .is typed
  case h_2 =>
    split at built
    case isTrue accepts => cases built; exact .as typed accepts
    case isFalse => cases built

theorem castWritten_typed (typed : WellTyped scope e)
    (built : castWritten scope.world e ty span = .ok e') : WellTyped scope e' := by
  unfold castWritten at built
  simp only at built
  split at built
  case isTrue => cases built
  case isFalse allowed =>
    split at built
    case isTrue => cases built; exact typed
    case isFalse differs =>
      cases built
      exact .cast typed differs (.inr (by simpa using allowed))

theorem callOn_typed (lawful : scope.world.Lawful) (typed : WellTyped scope target)
    (typedArgs : ∀ arg ∈ args, WellTyped scope arg)
    (built : callOn scope.world target name args span = .ok e) : WellTyped scope e := by
  obtain ⟨method, resolved, built⟩ := except_then.mp built
  cases built
  obtain ⟨met, ofInstance⟩ := lawful.method (Reader.found_ok.mp resolved)
  exact .call typed typedArgs met (.inl ofInstance)

theorem memberOf_typed (lawful : scope.world.Lawful) (typed : WellTyped scope target)
    (built : memberOf scope.world target name span = .ok e) : WellTyped scope e := by
  obtain ⟨ref, resolved, built⟩ := except_then.mp built
  cases built
  exact .member typed (lawful.member (Reader.found_ok.mp resolved))

theorem callStatic_typed (lawful : scope.world.Lawful)
    (typedArgs : ∀ arg ∈ args, WellTyped scope arg)
    (built : callStatic scope.world ty name args span = .ok e) : WellTyped scope e := by
  obtain ⟨method, resolved, built⟩ := except_then.mp built
  cases built
  obtain ⟨met, static⟩ := lawful.method (Reader.found_ok.mp resolved)
  exact .staticCall typedArgs met static

theorem memberStatic_typed (lawful : scope.world.Lawful)
    (built : memberStatic scope.world ty name span = .ok e) : WellTyped scope e := by
  obtain ⟨ref, resolved, built⟩ := except_then.mp built
  cases built
  exact .staticMember (lawful.member (Reader.found_ok.mp resolved))

theorem callDefault_typed (lawful : scope.world.Lawful) (typed : WellTyped scope target)
    (typedArgs : ∀ arg ∈ args, WellTyped scope arg)
    (built : callDefault scope.world target name args span = .ok e) : WellTyped scope e := by
  unfold callDefault at built
  split at built
  case h_1 method found =>
    cases built
    obtain ⟨met, ofInstance⟩ := lawful.method found
    exact .call typed typedArgs met (.inl ofInstance)
  case h_2 => exact callStatic_typed lawful typedArgs built

theorem memberDefault_typed (lawful : scope.world.Lawful) (typed : WellTyped scope target)
    (built : memberDefault? scope.world target name = some e) : WellTyped scope e := by
  unfold memberDefault? at built
  split at built
  case h_1 ref found =>
    cases built
    exact .member typed (lawful.member found)
  case h_2 =>
    obtain ⟨ref, found, same⟩ := Option.map_eq_some_iff.mp built
    cases same
    exact .staticMember (lawful.member found)

theorem indexInto_typed {opening : Span} (typed : WellTyped scope target)
    (typedArgs : ∀ arg ∈ args, WellTyped scope arg)
    (built : indexInto scope.world target args opening span = .ok e) : WellTyped scope e := by
  unfold indexInto at built
  split at built
  case h_1 element array =>
    obtain ⟨position, one, built⟩ := except_then.mp built
    obtain ⟨⟨⟩, integral, built⟩ := except_then.mp built
    cases built
    rw [Reader.single_ok.mp one] at typedArgs
    have array : target.ty = .array element := by
      cases ty : target.ty <;> rw [ty] at array <;> cases array
      rfl
    exact .index typed (typedArgs position List.mem_cons_self) array
      (Reader.checkIntegral_ok.mp integral)
  case h_2 =>
    obtain ⟨indexer, resolved, built⟩ := except_then.mp built
    cases built
    obtain ⟨found, matched⟩ := Option.filter_eq_some_iff.mp (Reader.found_ok.mp resolved)
    exact .call typed typedArgs (paramsMatch_meets matched) (.inr ⟨indexer, found, rfl⟩)

theorem addsFor_fit {methods : List MethodRef} (lawful : scope.world.Lawful)
    (built : addsFor scope.world ty args = .ok methods) :
    List.Forall₂ (fun ref value => Meet ref.params [value] ∧ ref.isStatic = false)
      methods args := by
  induction args generalizing methods with
  | nil => cases built; exact .nil
  | cons item rest ih =>
    obtain ⟨method, resolved, built⟩ := except_then.mp built
    obtain ⟨others, tail, built⟩ := except_then.mp built
    cases built
    exact .cons (lawful.method (Reader.found_ok.mp resolved)) (ih tail)

theorem assignable_fits {ref : MemberRef} (lawful : scope.world.Lawful)
    (built : assignable scope.world ty name = .ok ref) : ref.flags.isStatic = false := by
  obtain ⟨found, resolved, built⟩ := except_then.mp built
  split at built
  case isTrue => cases built
  case isFalse =>
    cases built
    exact lawful.member (Reader.found_ok.mp resolved)

theorem measure_typed (built : measure ty span = .ok e) : WellTyped scope e := by
  unfold measure at built
  split at built
  case isTrue sized => cases built; exact .sizeOf sized
  case isFalse => cases built

end Expr
end Formula
