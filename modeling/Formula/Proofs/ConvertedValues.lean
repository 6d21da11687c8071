import Formula.Proofs.Conversions
import Formula.Proofs.ValueTyping

/-! What an implicit conversion does to a value. A value that fits the type converted from fits the
type converted to, as it is or as a number of another kind; only a floating number may be out of range
for a decimal. Nothing checks that an object may stand for the bases of its class when it is made, so
that is asked of the value here. -/
namespace Formula

/-- Every integer of a fixed width is a decimal. -/
theorem Decimal.ofInt?_word {kind : IntKind} (word : Word kind) : ∃ d, ofInt? word.val = some d := by
  have range : -(pow2 64 : Int) ≤ kind.least ∧ kind.greatest ≤ pow2 64 := by
    cases kind <;> decide
  have lower := word.least_le
  have upper := word.le_greatest
  have fits : word.val.natAbs < pow2 96 := by
    have wide : pow2 64 < pow2 96 := by decide
    omega
  exact ⟨_, dif_pos ⟨fits, Nat.zero_le 28⟩⟩

namespace Value

variable {value : Value} {source target ty : Ty} {low high : Kind}

theorem conforms_null_iff : Value.null.conforms ty ↔ ty.acceptsNull := by
  constructor
  · intro conforms
    cases ty <;> first | rfl | cases conforms
  · exact conforms_null

theorem conforms_stripped (some : value.isNull = false) (conforms : value.conforms ty) :
    value.conforms ty.stripped := by
  cases ty with
  | nullable inner => simpa [Value.conforms, some] using conforms
  | _ => exact conforms

/-- An integer converts to every kind on the ladder. -/
theorem ofInteger_ranked {width : IntKind} {rank : Nat} (n : Word width)
    (ranked : high.rank? = some rank) :
    ∃ result, ofInteger n.val high = .ok result ∧ result.kind? = some high := by
  cases high with
  | bool | char => cases ranked
  | integer | float | double => exact ⟨_, rfl, rfl⟩
  | decimal =>
    obtain ⟨d, inRange⟩ := Decimal.ofInt?_word n
    exact ⟨.decimal d, by rw [ofInteger, inRange, ofDecimal?], rfl⟩

/-- A floating number converts to every kind on the ladder, unless it is out of range for a
decimal. -/
theorem ofFloating_ranked {rank : Nat} (x : Float) (ranked : high.rank? = some rank) :
    (∃ result, ofFloating x high = .ok result ∧ result.kind? = some high) ∨
      ofFloating x high = .error (.overflow .conversion) ∧ high = .decimal := by
  cases high with
  | bool | char => cases ranked
  | integer | float | double => exact .inl ⟨_, rfl, rfl⟩
  | decimal =>
    cases converted : Decimal.ofDouble? x with
    | none => exact .inr ⟨by rw [ofFloating, converted, ofDecimal?], rfl⟩
    | some d => exact .inl ⟨.decimal d, by rw [ofFloating, converted, ofDecimal?], rfl⟩

/-- Along the ladder only a floating number that is out of range for a decimal fails to convert. -/
theorem toKind_widens (own : value.kind? = some low)
    (wider : widens (.primitive low) (.primitive high)) :
    (∃ result, value.toKind high = .ok result ∧ result.kind? = some high ∧
        (result = value ∨ low ≠ high)) ∨
      value.toKind high = .error (.overflow .conversion) ∧ (low = .float ∨ low = .double) ∧
        high = .decimal := by
  by_cases same : low = high
  · subst same
    exact .inl ⟨value, if_pos own, own, .inl rfl⟩
  · obtain ⟨lowRank, highRank, isLow, isHigh, below⟩ := widens_iff.mp wider
    have other : value.kind? ≠ some high := by
      rw [own]
      exact fun equal => same (Option.some.inj equal)
    have notBool : high ≠ .bool := by
      rintro rfl
      cases isHigh
    unfold toKind
    rw [if_neg other, if_neg notBool]
    cases value with
    | integer width n =>
      obtain ⟨result, made, kind⟩ := ofInteger_ranked n isHigh
      exact .inl ⟨result, made, kind, .inr same⟩
    | float x =>
      cases own
      obtain ⟨result, made, kind⟩ | ⟨failed, isDecimal⟩ := ofFloating_ranked (Floating.widen x) isHigh
      · exact .inl ⟨result, made, kind, .inr same⟩
      · exact .inr ⟨failed, .inl rfl, isDecimal⟩
    | double x =>
      cases own
      obtain ⟨result, made, kind⟩ | ⟨failed, isDecimal⟩ := ofFloating_ranked x isHigh
      · exact .inl ⟨result, made, kind, .inr same⟩
      · exact .inr ⟨failed, .inr rfl, isDecimal⟩
    | decimal d =>
      -- Nothing stands above the decimals.
      cases own
      cases isLow
      cases high with
      | decimal => exact absurd rfl same
      | integer width => cases width <;> cases isHigh <;> omega
      | float | double | bool | char => cases isHigh <;> omega
    | bool | char =>
      cases own
      cases isLow
    | null | string | type | array | object => cases own

/-- A value that is one of the target, and no number of another kind, is kept as it is. -/
theorem cast_kept (some : value.isNull = false) (conforms : value.conforms target.stripped) :
    value.cast source target = .ok value := by
  unfold cast
  rw [some]
  simp only [Bool.false_eq_true, ↓reduceIte]
  split
  case h_1 => rfl
  case h_2 kind isPrimitive =>
    rw [isPrimitive] at conforms
    have own : value.kind? = .some kind := by simpa [Value.conforms] using conforms
    by_cases numeric : source.stripped.kind?.isSome
    · rw [if_pos numeric]
      exact if_pos own
    · rw [if_neg numeric]
      exact if_pos conforms
  case h_3 => exact if_pos conforms

/-- A value that is of a class is also of every class from which a registry derives that class, where
the arguments are the same or left out. -/
def Heeds (value : Value) (registry : Registry) : Prop :=
  ∀ name args name' args', registry.hierarchy.derivesFrom name name' → args' = [] ∨ args = args' →
    value.conforms (.cls name args) → value.conforms (.cls name' args')

variable {registry : Registry}

/-- A value of one type is a value of a type that it converts to, or a number that widens. -/
theorem conforms_of_converts (rule : registry.Converts source target)
    (plain : target.inner? = none) (heeds : value.Heeds registry) (some : value.isNull = false)
    (conforms : value.conforms source) :
    value.conforms target ∨
      ∃ low high, source = .primitive low ∧ target = .primitive high ∧ widens source target := by
  cases rule with
  | refl => exact .inl conforms
  | object => exact .inl rfl
  | derive given derives => exact .inl (heeds _ _ _ _ derives given conforms)
  | widen wider =>
    obtain ⟨low, high, rfl, rfl⟩ := primitives_of_widens wider
    exact .inr ⟨low, high, rfl, rfl, wider⟩
  | null =>
    have isNull : value.isNull := conforms
    rw [some] at isNull
    cases isNull
  | lift => cases plain

/-- How the conversion of a value comes out: with a value of the target, which is the value itself
except between two kinds of number, or out of range where a floating number becomes a decimal. -/
def Arrives (value : Value) (source target : Ty) : Except RuntimeError Value → Prop
  | .ok result => result.conforms target ∧
      (result = value ∨ ∃ low high, source.stripped = .primitive low ∧
        target.stripped = .primitive high ∧ low ≠ high)
  | .error e => e = .overflow .conversion ∧
      (source.stripped = .float ∨ source.stripped = .double) ∧ target.stripped = .decimal

/-- A conversion between nested nullable forms aside, what is converted implicitly arrives. -/
theorem cast_implicit (converts : registry.toUniverse.implicitlyConverts source target)
    (single : target.stripped.inner? = none) (heeds : value.Heeds registry)
    (conforms : value.conforms source) : value.Arrives source target (value.cast source target) := by
  have rule := Registry.converts_iff.mp converts
  by_cases isNull : value.isNull
  · obtain rfl : value = .null := by
      cases value <;> first | rfl | cases isNull
    have accepts := rule.acceptsNull (conforms_null_iff.mp conforms)
    rw [cast, if_pos isNull, if_pos accepts]
    exact ⟨conforms_null accepts, .inl rfl⟩
  · have some : value.isNull = false := by simpa using isNull
    have own := conforms_stripped some conforms
    have valued : source.stripped ≠ .void := by
      intro isVoid
      rw [isVoid] at own
      cases own
    have notNull : source ≠ .null := by
      rintro rfl
      exact isNull conforms
    have beneath := rule.stripped (fun _ => valued) notNull
    obtain kept | ⟨low, high, isLow, isHigh, wider⟩ :=
      conforms_of_converts beneath single heeds some own
    · rw [cast_kept some kept]
      exact ⟨conforms_of_stripped kept, .inl rfl⟩
    · have numeric : value.cast source target = value.toKind high := by
        simp [cast, some, isLow, isHigh, Ty.kind?]
      rw [isLow] at own
      rw [isLow, isHigh] at wider
      have kind : value.kind? = .some low := by simpa [Value.conforms] using own
      rw [numeric]
      obtain ⟨result, made, resultKind, same⟩ | ⟨failed, floating, isDecimal⟩ :=
        toKind_widens kind wider
      · rw [made]
        constructor
        · apply conforms_of_stripped
          rw [isHigh]
          simp [Value.conforms, resultKind]
        · exact same.imp id fun differs => ⟨low, high, isLow, isHigh, differs⟩
      · rw [failed]
        refine ⟨rfl, ?_, by rw [isHigh, isDecimal]⟩
        rw [isLow]
        exact floating.imp (congrArg Ty.primitive) (congrArg Ty.primitive)

/-- An object of a class that stands for its base, where that is made to admit `null`. -/
theorem cast_implicit_shape :
    let circle := (Registry.empty.newClass "Circle").derivingFrom "Shape"
    let registry := Registry.empty.registerAll [Registry.empty.newClass "Shape", circle]
    let value := Value.object ⟨.named "Circle", ⟨"Circle", ["Shape"]⟩, 0⟩
    registry.toUniverse.implicitlyConverts (.named "Circle") (.nullable (.named "Shape")) ∧
      value.Heeds registry ∧ value.conforms (.named "Circle") ∧
      value.Arrives (.named "Circle") (.nullable (.named "Shape"))
        (value.cast (.named "Circle") (.nullable (.named "Shape"))) := by
  intro circle registry value
  have converts : registry.toUniverse.implicitlyConverts (.named "Circle")
      (.nullable (.named "Shape")) := by decide +kernel
  have heeds : value.Heeds registry := by
    intro name args name' args' derives given conforms
    have known : ∀ base ∈ registry.hierarchy.nodes, base = "Shape" ∨ base = "Circle" := by
      decide +kernel
    have seen := derives
    simp only [Hierarchy.derivesFrom, Bool.and_eq_true, Hierarchy.contains_iff] at seen
    obtain rfl | rfl := known name' seen.1.2
    · simp [value, Value.conforms, Handle.isInstanceOf]
    · obtain rfl | rfl := known name seen.1.1
      · have above : registry.hierarchy.derivesFrom "Shape" "Circle" = false := by decide +kernel
        rw [above] at derives
        cases derives
      · have none : args = [] := by
          cases args with
          | nil => rfl
          | cons => simp [value, Value.conforms, Handle.isInstanceOf] at conforms
        obtain rfl : args' = [] := given.elim id fun same => same.symm.trans none
        simp [value, Value.conforms, Handle.isInstanceOf]
  exact ⟨converts, heeds, by decide +kernel,
    cast_implicit converts rfl heeds (by decide +kernel)⟩

/-- A type is only of its own class, so where that class has been given a base a type does not stand
for it; and a number is not taken through two nullable forms at once. -/
theorem cast_implicit_fails :
    let types := (Registry.empty.newClass "System.Type").derivingFrom "Model"
    let registry := Registry.empty.registerAll [Registry.empty.newClass "Model", types]
    (registry.toUniverse.implicitlyConverts (.named "System.Type") (.named "Model") ∧
        (Value.type .int).conforms (.named "System.Type") ∧
        (Value.type .int).cast (.named "System.Type") (.named "Model") =
          .error (.invalidCast (.named "System.Type") (.named "Model"))) ∧
      registry.toUniverse.implicitlyConverts .int (.nullable (.nullable .long)) ∧
        (Value.int 1).conforms .int ∧
        (Value.int 1).cast .int (.nullable (.nullable .long)) =
          .error (.invalidCast .int (.nullable (.nullable .long))) := by
  intro types registry
  refine ⟨⟨by decide +kernel, by decide +kernel, rfl⟩, by decide +kernel, by decide +kernel, rfl⟩

end Value
end Formula
