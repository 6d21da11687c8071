import Formula.Proofs.ConvertedValues

/-! Three tests of a value against a type: `is`, `as`, and a cast out of a box, which is a value whose
static type is `object`. A cast between numbers converts, but a box is no number, so nothing comes out
of it that was not put in. What a value is an instance of is said once, by rules that follow the type;
each of the tests decides just that, and they differ only in what they do with `null`. -/
namespace Formula.Value

/-- A value is an instance of a type. There is no rule for `null`, and none for types without values of
their own. -/
inductive IsA : Value → Ty → Prop where
  | object {value : Value} (some : value.isNull = false) : IsA value .object
  | nullable {value : Value} {inner : Ty} (isA : IsA value inner) : IsA value (.nullable inner)
  | primitive {value : Value} {kind : Kind} (own : value.kind? = some kind) :
      IsA value (.primitive kind)
  | string (s : String) : IsA (.string s) .string
  | array (identity : Nat) (element : Ty) (items : List Value) :
      IsA (.array identity element items) (.array element)
  | type (ty : Ty) (args : List Ty) : IsA (.type ty) (.cls "System.Type" args)
  | descendant {handle : Handle} {name : String} {args : List Ty}
      (derives : handle.isInstanceOf name args) : IsA (.object handle) (.cls name args)

variable {value result : Value} {target : Ty}

theorem isNull_iff : value.isNull ↔ value = null := by
  cases value <;> simp [isNull]

theorem IsA.ne_null (isA : value.IsA target) : value ≠ null := by
  induction isA with
  | object some =>
    rintro rfl
    cases some
  | nullable _ ih => exact ih
  | primitive own =>
    rintro rfl
    cases own
  | string | array | type | descendant => nofun

/-- Of values other than `null`, those conform to a type that are instances of it. -/
theorem conforms_iff_isA (some : value.isNull = false) : value.conforms target ↔ value.IsA target := by
  fun_induction conforms value target with
  | case1 => exact ⟨fun _ => .object some, fun _ => rfl⟩
  | case2 inner ih =>
    simp only [some, Bool.false_or, ih]
    exact ⟨.nullable, fun | .nullable isA => isA⟩
  | case3 kind =>
    rw [beq_iff_eq]
    exact ⟨.primitive, fun | .primitive own => own⟩
  | case4 isNull | case7 _ isNull | case10 _ _ isNull =>
    subst isNull
    cases some
  | case5 s isString =>
    subst isString
    exact ⟨fun _ => .string s, fun _ => rfl⟩
  | case6 _ noString => exact ⟨nofun, fun | .string s => absurd rfl (noString s)⟩
  | case8 element identity own items isArray =>
    subst isArray
    rw [beq_iff_eq]
    constructor
    · rintro rfl
      exact .array identity own items
    · rintro ⟨⟩
      rfl
  | case9 element _ noArray =>
    exact ⟨nofun, fun | .array identity _ items => absurd rfl (noArray identity element items)⟩
  | case11 name args ty isType =>
    subst isType
    rw [beq_iff_eq]
    constructor
    · rintro rfl
      exact .type ty args
    · rintro ⟨⟩
      rfl
  | case12 name args handle isObject =>
    subst isObject
    exact ⟨.descendant, fun | .descendant derives => derives⟩
  | case13 _ _ _ noType noObject =>
    refine ⟨nofun, ?_⟩
    rintro ⟨⟩
    · exact absurd rfl (noType _)
    · exact absurd rfl (noObject _)
  | case14 =>
    rw [some]
    exact ⟨nofun, nofun⟩
  | case15 | case16 => exact ⟨nofun, nofun⟩

theorem isInstance_iff : value.isInstance target ↔ value.IsA target := by
  cases isNull : value.isNull with
  | true =>
    obtain rfl := isNull_iff.mp isNull
    exact ⟨nofun, fun isA => absurd rfl isA.ne_null⟩
  | false => simp only [isInstance, isNull, Bool.not_false, Bool.true_and, conforms_iff_isA isNull]

theorem asInstance_ne_null_iff : value.asInstance target ≠ null ↔ value.IsA target := by
  rw [asInstance, ← isInstance_iff]
  by_cases holds : value.isInstance target
  · rw [if_pos holds]
    exact iff_of_true (isInstance_iff.mp holds).ne_null holds
  · rw [if_neg holds]
    exact iff_of_false (not_not.mpr rfl) holds

/-- A value other than `null` comes out of a box as it is, or not at all. -/
theorem cast_boxed (some : value.isNull = false) : value.cast .object target =
    if value.conforms target then .ok value else .error (.invalidCast value.ty target) := by
  by_cases conforms : value.conforms target
  · rw [if_pos conforms]
    exact cast_kept some (conforms_stripped some conforms)
  · rw [if_neg conforms]
    have other : ¬ value.conforms target.stripped := fun own => conforms (conforms_of_stripped own)
    unfold cast
    rw [some]
    simp only [Bool.false_eq_true, ↓reduceIte]
    split
    case h_1 toObject => exact absurd (toObject ▸ rfl) other
    case h_2 kind isPrimitive =>
      rw [isPrimitive] at other
      -- The static type of a box is not that of a number.
      have box : (Ty.stripped .object).kind?.isSome = false := rfl
      simp only [box, Bool.false_eq_true, ↓reduceIte, other]
    case h_3 => exact if_neg other

/-- A box that is empty gives `null` where the target admits it, and nothing else. -/
theorem cast_empty : null.cast .object target =
    if target.acceptsNull then .ok null else .error (.nullConversion target) := rfl

theorem cast_boxed_iff :
    value.cast .object target = .ok result ∧ result ≠ null ↔ value.IsA target ∧ result = value := by
  cases isNull : value.isNull with
  | true =>
    obtain rfl := isNull_iff.mp isNull
    rw [cast_empty]
    refine iff_of_false ?_ fun both => both.1.ne_null rfl
    split
    case isTrue =>
      rintro ⟨⟨⟩, some⟩
      exact some rfl
    case isFalse =>
      rintro ⟨⟨⟩, -⟩
  | false =>
    rw [cast_boxed isNull, ← conforms_iff_isA isNull]
    split
    case isTrue conforms =>
      constructor
      · rintro ⟨⟨⟩, -⟩
        exact ⟨conforms, rfl⟩
      · rintro ⟨-, rfl⟩
        refine ⟨rfl, ?_⟩
        rintro rfl
        cases isNull
    case isFalse other => exact iff_of_false nofun fun both => other both.1

/-- The three tests agree on every value and type. Where they hold, `as` and the cast give the value
itself; and of `null`, which is an instance of nothing, the cast makes `null` just if the type admits
it. -/
theorem tests_agree (value : Value) (target : Ty) :
    (value.isInstance target ↔ value.asInstance target ≠ null) ∧
      (value.isInstance target ↔
        ∃ result, value.cast .object target = .ok result ∧ result ≠ null) ∧
      (value.isInstance target →
        value.asInstance target = value ∧ value.cast .object target = .ok value) ∧
      null.isInstance target = false ∧ null.asInstance target = null ∧
      (∀ result, null.cast .object target = .ok result → result = null) ∧
      ((null.cast .object target).isOk ↔ target.acceptsNull) := by
  refine ⟨?_, ?_, ?_, rfl, rfl, ?_, ?_⟩
  · rw [isInstance_iff, asInstance_ne_null_iff]
  · rw [isInstance_iff]
    constructor
    · intro isA
      exact ⟨value, cast_boxed_iff.mpr ⟨isA, rfl⟩⟩
    · rintro ⟨result, comes⟩
      exact (cast_boxed_iff.mp comes).1
  · intro holds
    exact ⟨if_pos holds, (cast_boxed_iff.mpr ⟨isInstance_iff.mp holds, rfl⟩).1⟩
  · intro result comes
    by_contra some
    exact (cast_boxed_iff.mp ⟨comes, some⟩).1.ne_null rfl
  · rw [cast_empty]
    cases target.acceptsNull with
    | true => exact iff_of_true rfl rfl
    | false => exact iff_of_false nofun nofun

end Formula.Value
