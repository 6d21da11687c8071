import Formula.Proofs.Ancestry
import Formula.Proofs.Typing

/-! Implicit conversion as a relation between types. `Converts` has one rule for each reason for which
an expression of one type may stand where another is expected; that the rules are what a registry
answers is proved once, and everything else is said of the rules. They may be chained, a cast may be
written wherever one of them applies, and the type of two branches is the least that both convert
to. -/
namespace Formula

namespace Ty

/-- A type that values can have and whose nullable forms do not nest. -/
structure Regular (ty : Ty) : Prop where
  valued : ty.stripped ≠ .void
  single : ty.stripped.inner? = none

instance (ty : Ty) : Decidable ty.Regular :=
  decidable_of_iff (ty.stripped ≠ .void ∧ ty.stripped.inner? = none)
    ⟨fun both => ⟨both.1, both.2⟩, fun regular => ⟨regular.valued, regular.single⟩⟩

variable {ty : Ty}

theorem stripped_of_plain (plain : ty.inner? = none) : ty.stripped = ty := by
  rw [stripped, plain, Option.getD_none]

@[simp] theorem stripped_nullable (inner : Ty) : (nullable inner).stripped = inner := rfl

theorem Regular.ne_void (regular : ty.Regular) : ty ≠ .void := by
  rintro rfl
  exact regular.valued rfl

theorem Regular.stripped_stripped (regular : ty.Regular) : ty.stripped.stripped = ty.stripped :=
  stripped_of_plain regular.single

theorem Regular.stripped (regular : ty.Regular) : ty.stripped.Regular where
  valued := by
    rw [regular.stripped_stripped]
    exact regular.valued
  single := by
    rw [regular.stripped_stripped]
    exact regular.single

/-- A type with a rank is primitive. -/
theorem primitive_of_rank {rank : Nat} (ranked : ty.rank? = some rank) :
    ∃ kind, ty = .primitive kind ∧ kind.rank? = some rank := by
  cases ty with
  | primitive kind => exact ⟨kind, rfl, ranked⟩
  | _ => cases ranked

end Ty

theorem widens_iff {source target : Ty} :
    widens source target ↔
      ∃ low high, source.rank? = some low ∧ target.rank? = some high ∧ low ≤ high := by
  unfold widens
  cases source.rank? with
  | none => simp
  | some low =>
    cases target.rank? with
    | none => simp
    | some high => simp

theorem primitives_of_widens {source target : Ty} (wider : widens source target) :
    ∃ low high, source = .primitive low ∧ target = .primitive high := by
  obtain ⟨_, _, lowRank, highRank, -⟩ := widens_iff.mp wider
  obtain ⟨low, isLow, -⟩ := Ty.primitive_of_rank lowRank
  obtain ⟨high, isHigh, -⟩ := Ty.primitive_of_rank highRank
  exact ⟨low, high, isLow, isHigh⟩

theorem widens_trans {a b c : Ty} (first : widens a b) (second : widens b c) : widens a c := by
  obtain ⟨low, middle, lowRank, middleRank, below⟩ := widens_iff.mp first
  obtain ⟨middle', high, middleRank', highRank, above⟩ := widens_iff.mp second
  rw [middleRank] at middleRank'
  cases middleRank'
  exact widens_iff.mpr ⟨low, high, lowRank, highRank, below.trans above⟩

namespace Registry

/-- The reasons for which an expression of one type may stand where another is expected. -/
inductive Converts (registry : Registry) : Ty → Ty → Prop where
  | refl : Converts registry ty ty
  | widen (wider : widens source target) : Converts registry source target
  | object (valued : source ≠ .void) : Converts registry source .object
  | null (accepts : target.acceptsNull) : Converts registry .null target
  /-- What stands for a type stands for its nullable form, and so does what wraps it. -/
  | lift (inner : Converts registry source.stripped target) :
      Converts registry source (.nullable target)
  /-- A class stands for a base, and for a generic base only with the arguments of that base. -/
  | derive (given : args' = [] ∨ args = args')
      (derives : registry.hierarchy.derivesFrom name name') :
      Converts registry (.cls name args) (.cls name' args')

variable {registry : Registry} {source target a b c : Ty}

/-- What a registry assigns to a type that is not nullable converts to it by one of the rules. -/
private theorem converts_of_assignable (valued : source ≠ .void) (plain : target.inner? = none)
    (assigned : registry.assignable source target) : registry.Converts source target := by
  unfold assignable at assigned
  split at assigned
  case isTrue known =>
    obtain rfl | rfl := known
    · exact .refl
    · exact .object valued
  case isFalse =>
    split at assigned
    case h_1 => exact .null assigned
    case h_2 => cases plain
    case h_3 =>
      simp only [Bool.and_eq_true, Bool.or_eq_true, List.isEmpty_iff, beq_iff_eq] at assigned
      exact .derive assigned.1 assigned.2
    case h_4 => cases assigned

/-- The rules are what a registry answers. -/
theorem converts_iff :
    registry.toUniverse.implicitlyConverts source target ↔ registry.Converts source target := by
  constructor
  · intro answered
    fun_induction registry.toUniverse.implicitlyConverts source target with
    | case1 source inner ih =>
      simp only [Bool.or_eq_true, beq_iff_eq] at answered
      obtain (rfl | rfl) | lifted := answered
      · exact .refl
      · exact .null rfl
      · exact .lift (ih lifted)
    | case2 source target plain =>
      have plain : target.inner? = none := by
        cases target with
        | nullable inner => exact absurd rfl (plain inner)
        | _ => rfl
      simp only [Bool.or_eq_true, beq_iff_eq, Bool.and_eq_true, Bool.not_eq_true'] at answered
      obtain (rfl | wider) | ⟨valued, assigned⟩ := answered
      · exact .refl
      · exact .widen wider
      · apply converts_of_assignable _ plain assigned
        rintro rfl
        cases valued
  · intro rule
    have lawful := registry.toUniverse_lawful
    induction rule with
    | refl => exact Universe.implicitlyConverts_self _
    | widen wider => exact Universe.implicitlyConverts_of_widens wider
    | object valued => exact lawful.convertsObject (by simpa [Ty.isVoid] using valued)
    | null accepts => exact lawful.convertsNull accepts
    | lift _ ih => simp [Universe.implicitlyConverts_nullable, ih]
    | derive given derives =>
      rw [Universe.implicitlyConverts_plain rfl]
      simp [toUniverse, assignable, Ty.isVoid, given, derives]

namespace Converts

/-- What comes to be a ranked type stands no higher on the ladder. -/
theorem widens {rank : Nat} (rule : registry.Converts source target)
    (ranked : target.rank? = some rank) : Formula.widens source target := by
  cases rule with
  | refl => exact widens_iff.mpr ⟨rank, rank, ranked, ranked, le_rfl⟩
  | widen wider => exact wider
  | object | lift | derive => cases ranked
  | null accepts =>
    obtain ⟨kind, rfl, -⟩ := Ty.primitive_of_rank ranked
    cases accepts

theorem eq_null (rule : registry.Converts source .null) : source = .null := by
  cases rule with
  | refl | null => rfl
  | widen wider =>
    obtain ⟨_, _, -, same⟩ := primitives_of_widens wider
    cases same

/-- Nothing that admits `null` comes to be a type that does not. -/
theorem acceptsNull (rule : registry.Converts source target) (accepts : source.acceptsNull) :
    target.acceptsNull := by
  cases rule with
  | refl => exact accepts
  | null accepts => exact accepts
  | object | lift | derive => rfl
  | widen wider =>
    obtain ⟨_, _, rfl, -⟩ := primitives_of_widens wider
    cases accepts

/-- Beneath their nullable forms two types convert as they do with them, unless one is that of
`null`, which no nullable form wraps. -/
theorem stripped (rule : registry.Converts a b) (valued : b = .object → a.stripped ≠ .void)
    (some : a ≠ .null) :
    registry.Converts a.stripped b.stripped := by
  cases rule with
  | refl => exact .refl
  | widen wider =>
    obtain ⟨_, _, rfl, rfl⟩ := primitives_of_widens wider
    exact .widen wider
  | object => exact .object (valued rfl)
  | null => exact absurd rfl some
  | lift inner => exact inner
  | derive given derives => exact .derive given derives

/-- Two conversions one after the other are never more than one. -/
theorem trans (derives : ∀ {x y z}, registry.hierarchy.derivesFrom x y →
      registry.hierarchy.derivesFrom y z → registry.hierarchy.derivesFrom x z)
    (regular : a.Regular) (first : registry.Converts a b) (second : registry.Converts b c) :
    registry.Converts a c := by
  induction second generalizing a with
  | refl => exact first
  | widen wider =>
    obtain ⟨_, _, middle, -, -⟩ := widens_iff.mp wider
    exact .widen (widens_trans (first.widens middle) wider)
  | object => exact .object regular.ne_void
  | null accepts =>
    obtain rfl := first.eq_null
    exact .null accepts
  | lift _ ih =>
    by_cases isNull : a = .null
    · subst isNull
      exact .null rfl
    · exact .lift (ih regular.stripped (first.stripped (fun _ => regular.valued) isNull))
  | derive given above =>
    cases first with
    | refl => exact .derive given above
    | widen wider =>
      obtain ⟨_, _, -, same⟩ := primitives_of_widens wider
      cases same
    | null => exact .null rfl
    | derive given' below =>
      refine .derive ?_ (derives below above)
      obtain none | rfl := given
      · exact .inl none
      · exact given'

theorem castAllowedPlain (rule : registry.Converts source target) (plain : target.inner? = none) :
    registry.toUniverse.castAllowedPlain source target := by
  unfold Universe.castAllowedPlain
  cases rule with
  | refl => simp
  | object => simp
  | widen wider =>
    obtain ⟨_, _, low, high, -⟩ := widens_iff.mp wider
    have fromNumber : Universe.isNumberLike source := by
      simp [Universe.isNumberLike, isNumeric_of_rank low]
    have toNumber : Universe.isNumberLike target := by
      simp [Universe.isNumberLike, isNumeric_of_rank high]
    obtain ⟨_, rfl, -⟩ := Ty.primitive_of_rank low
    simp [fromNumber, toNumber]
  | null accepts => simp [accepts]
  | lift => cases plain
  | derive given derives =>
    simp [Universe.isNumberLike, Ty.isNumeric, Ty.isValueType, toUniverse, assignable, given, derives]

/-- A cast may be written wherever a conversion is made. -/
theorem castAllowed (rule : registry.Converts source target) :
    registry.toUniverse.castAllowed source target := by
  induction rule with
  | refl => simp [Universe.castAllowed_eq]
  | object => simp [Universe.castAllowed_eq]
  | null accepts => simp [Universe.castAllowed_eq, accepts]
  | widen wider =>
    obtain ⟨_, _, rfl, rfl⟩ := primitives_of_widens wider
    exact (Converts.widen wider).castAllowedPlain rfl
  | derive given derives => exact (Converts.derive given derives).castAllowedPlain rfl
  | lift _ ih =>
    rw [Universe.castAllowed_eq]
    simp [Ty.acceptsNull, Ty.inner?, ih]

/-- What both `null` and a type without `null` convert to is converted to from its nullable form. -/
theorem ofNullable (rule : registry.Converts a b) (refuses : a.acceptsNull = false)
    (fromNull : registry.Converts .null b) : registry.Converts (.nullable a) b := by
  have accepts := fromNull.acceptsNull rfl
  have plain : a.stripped = a := by
    cases a with
    | nullable => cases refuses
    | _ => rfl
  cases rule with
  | refl =>
    rw [refuses] at accepts
    cases accepts
  | widen wider =>
    obtain ⟨_, _, -, rfl⟩ := primitives_of_widens wider
    cases accepts
  | object =>
    refine .object ?_
    rintro ⟨⟩
  | lift inner =>
    rw [plain] at inner
    exact .lift inner
  | null | derive => cases refuses

end Converts

/-- After any registrations implicit conversion is reflexive, two conversions one after the other
are no more than one, and a cast may be written wherever a conversion is made. -/
theorem registerAll_conversions_chain (entries : List Entry) {a b c : Ty} :
    let world := (Registry.empty.registerAll entries).toUniverse
    world.implicitlyConverts a a ∧
      (a.Regular → world.implicitlyConverts a b → world.implicitlyConverts b c →
        world.implicitlyConverts a c) ∧
      (b.Regular → world.implicitlyConverts a b → world.castAllowed a b) := by
  intro world
  have inStep := inStep_empty.registerAll entries
  refine ⟨Universe.implicitlyConverts_self a, ?chain, ?castable⟩
  case chain =>
    intro regular first second
    apply converts_iff.mpr
    exact (converts_iff.mp first).trans inStep.derivesFrom_trans regular (converts_iff.mp second)
  case castable =>
    exact fun _ made => (converts_iff.mp made).castAllowed

/-- A class, its base and the base of that, which was registered after a class with a missing base. -/
theorem registerAll_conversions_chain_shapes :
    let shape := (Registry.empty.newClass "Shape").derivingFrom "Figure"
    let circle := (Registry.empty.newClass "Circle").derivingFrom "Shape"
    let entries := [shape, Registry.empty.newClass "Figure", shape, circle]
    let world := (Registry.empty.registerAll entries).toUniverse
    (Ty.named "Circle").Regular ∧ (Ty.named "Shape").Regular ∧
      world.implicitlyConverts (.named "Circle") (.named "Shape") ∧
      world.implicitlyConverts (.named "Shape") (.nullable (.named "Figure")) ∧
      world.implicitlyConverts (.named "Circle") (.nullable (.named "Figure")) ∧
      world.castAllowed (.named "Circle") (.named "Shape") := by
  intro shape circle entries world
  have circleRegular : (Ty.named "Circle").Regular := by decide +kernel
  have shapeRegular : (Ty.named "Shape").Regular := by decide +kernel
  have first : world.implicitlyConverts (.named "Circle") (.named "Shape") := by decide +kernel
  have second : world.implicitlyConverts (.named "Shape") (.nullable (.named "Figure")) := by
    decide +kernel
  obtain ⟨-, chain, castable⟩ := registerAll_conversions_chain entries (a := .named "Circle")
    (b := .named "Shape") (c := .nullable (.named "Figure"))
  exact ⟨circleRegular, shapeRegular, first, second, chain circleRegular first second,
    castable shapeRegular first⟩

end Registry

/-- A type to which two types convert, and which converts to every other such type. -/
structure Universe.LeastCommon (world : Universe) (a b c : Ty) : Prop where
  left : world.implicitlyConverts a c
  right : world.implicitlyConverts b c
  least : ∀ d, world.implicitlyConverts a d → world.implicitlyConverts b d →
    world.implicitlyConverts c d

section Branches

variable {world : Universe} {a b c : Ty}

/-- Arithmetic computes at the type of one of its operands. -/
theorem promote_either (promoted : promote a b = some c) : c = a ∨ c = b := by
  unfold promote at promoted
  by_cases same : a = b ∧ a.isNumeric
  · rw [if_pos same] at promoted
    cases promoted
    exact .inl rfl
  · rw [if_neg same] at promoted
    split at promoted
    case h_1 l r _ _ =>
      cases promoted
      by_cases above : r ≤ l
      · exact .inl (if_pos above)
      · exact .inr (if_neg above)
    case h_2 => cases promoted

/-- Two types with a place on the ladder are operands of arithmetic. -/
theorem exists_promote (left : a.rank?.isSome) (right : b.rank?.isSome) :
    ∃ c, promote a b = some c := by
  obtain ⟨l, isLeft⟩ := Option.isSome_iff_exists.mp left
  obtain ⟨r, isRight⟩ := Option.isSome_iff_exists.mp right
  unfold promote
  by_cases same : a = b ∧ a.isNumeric
  · rw [if_pos same]
    exact ⟨a, rfl⟩
  · rw [if_neg same, isLeft, isRight]
    exact ⟨_, rfl⟩

/-- The common type of two branches is that of one of them, or the nullable form of one beside
`null`. -/
theorem unify_cases (common : world.unify a b = some c) :
    c = a ∨ c = b ∨ (a = .null ∧ b.acceptsNull = false ∧ c = .nullable b) ∨
      (b = .null ∧ a.acceptsNull = false ∧ c = .nullable a) := by
  unfold Universe.unify at common
  by_cases same : a = b
  · rw [if_pos same] at common
    cases common
    exact .inl rfl
  rw [if_neg same] at common
  by_cases leftNull : a = .null
  · rw [if_pos leftNull] at common
    cases common
    obtain ⟨-, kept⟩ | ⟨refuses, wrapped⟩ := Ty.admitting_cases b
    · exact .inr (.inl kept)
    · exact .inr (.inr (.inl ⟨leftNull, refuses, wrapped⟩))
  rw [if_neg leftNull] at common
  by_cases rightNull : b = .null
  · rw [if_pos rightNull] at common
    cases common
    obtain ⟨-, kept⟩ | ⟨refuses, wrapped⟩ := Ty.admitting_cases a
    · exact .inl kept
    · exact .inr (.inr (.inr ⟨rightNull, refuses, wrapped⟩))
  rw [if_neg rightNull] at common
  by_cases ranked : a.rank?.isSome ∧ b.rank?.isSome
  · rw [if_pos ranked] at common
    exact (promote_either common).imp id .inl
  rw [if_neg ranked] at common
  by_cases toLeft : world.implicitlyConverts b a
  · rw [if_pos toLeft] at common
    cases common
    exact .inl rfl
  rw [if_neg toLeft] at common
  by_cases toRight : world.implicitlyConverts a b
  · rw [if_pos toRight] at common
    cases common
    exact .inr (.inl rfl)
  · rw [if_neg toRight] at common
    cases common

/-- Two branches of which one converts to the other have a common type. -/
theorem exists_unify (converts : world.implicitlyConverts a b ∨ world.implicitlyConverts b a) :
    ∃ c, world.unify a b = some c := by
  unfold Universe.unify
  by_cases same : a = b
  · exact ⟨a, if_pos same⟩
  rw [if_neg same]
  by_cases leftNull : a = .null
  · exact ⟨_, if_pos leftNull⟩
  rw [if_neg leftNull]
  by_cases rightNull : b = .null
  · exact ⟨_, if_pos rightNull⟩
  rw [if_neg rightNull]
  by_cases ranked : a.rank?.isSome ∧ b.rank?.isSome
  · rw [if_pos ranked]
    exact exists_promote ranked.1 ranked.2
  rw [if_neg ranked]
  by_cases toLeft : world.implicitlyConverts b a
  · exact ⟨a, if_pos toLeft⟩
  · rw [if_neg toLeft]
    exact ⟨b, if_pos (converts.resolve_right toLeft)⟩

/-- The type of two branches is the least to which both convert, and there is one whenever either
branch converts to the type of the other. -/
theorem unify_leastCommon (registry : Registry) (a b : Ty) :
    (∀ c, registry.toUniverse.unify a b = some c → registry.toUniverse.LeastCommon a b c) ∧
      (registry.toUniverse.implicitlyConverts a b ∨ registry.toUniverse.implicitlyConverts b a →
        ∃ c, registry.toUniverse.unify a b = some c) := by
  refine ⟨fun c common => ?least, exists_unify⟩
  obtain ⟨left, right⟩ := unify_fits registry.toUniverse_lawful common
  refine ⟨left, right, fun d fromLeft fromRight => ?_⟩
  obtain rfl | rfl | ⟨rfl, refuses, rfl⟩ | ⟨rfl, refuses, rfl⟩ := unify_cases common
  · exact fromLeft
  · exact fromRight
  · rw [Registry.converts_iff] at fromLeft fromRight ⊢
    exact fromRight.ofNullable refuses fromLeft
  · rw [Registry.converts_iff] at fromLeft fromRight ⊢
    exact fromLeft.ofNullable refuses fromRight

/-- A number beside `null`, and two classes of which one derives from the other. -/
theorem unify_leastCommon_shapes :
    let shape := Registry.empty.newClass "Shape"
    let circle := (Registry.empty.newClass "Circle").derivingFrom "Shape"
    let registry := Registry.empty.registerAll [shape, circle]
    let world := registry.toUniverse
    world.unify .null .int = some (.nullable .int) ∧
      world.LeastCommon .null .int (.nullable .int) ∧
      world.implicitlyConverts (.named "Circle") (.named "Shape") ∧
      ∃ c, world.unify (.named "Circle") (.named "Shape") = some c := by
  intro shape circle registry world
  have common : world.unify .null .int = some (.nullable .int) := by decide +kernel
  have derives : world.implicitlyConverts (.named "Circle") (.named "Shape") := by decide +kernel
  exact ⟨common, (unify_leastCommon registry .null .int).1 _ common, derives,
    (unify_leastCommon registry (.named "Circle") (.named "Shape")).2 (.inl derives)⟩

end Branches
end Formula
