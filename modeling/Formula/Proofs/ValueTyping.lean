import Formula.Proofs.Typing
import Formula.Value.Convert
import Formula.Value.Operate

/-! Operations on values of the right types. `Meant` separates the outcomes that a value of the wrong
type leads to from all others; every operation, given values that fit the types its rule asks for,
comes out with a value that fits the type of the node or with a failure of the other sort. -/
namespace Formula

/-- Failures of operands, conditions, indexed values and parameters that are not what their types
say. -/
def RuntimeError.isMistyped : RuntimeError → Bool
  | operands _ _ _ | notCondition _ | notArray _ | missingArgument _ _ => true
  | _ => false

namespace Value

/-- A value that an expression of a type may have: one that conforms, or `null` where there is no
result. -/
def Fits (value : Value) (ty : Ty) : Prop := value.conforms ty ∨ ty = .void ∧ value = .null

/-- Every array in a value, at any depth, holds only items that fit its element type. -/
inductive Filled : Value → Prop where
  | array {items : List Value} (deep : ∀ item ∈ items, Filled item)
      (fit : ∀ item ∈ items, item.Fits element) : Filled (.array identity element items)
  | other (noArray : ∀ identity element items, value ≠ .array identity element items) : Filled value

instance (value : Value) (ty : Ty) : Decidable (value.Fits ty) :=
  decidable_of_iff (value.conforms ty ∨ ty = .void ∧ value.isNull = true) (by
    cases value <;> simp [Fits, isNull])

mutual
/-- Whether every array in a value holds only items that fit its element type. -/
def isFilled : Value → Bool
  | array _ element items => areFilled element items
  | _ => true

/-- Whether the items of an array fit its element type, at every depth. -/
def areFilled (element : Ty) : List Value → Bool
  | [] => true
  | item :: rest => item.isFilled && decide (item.Fits element) && areFilled element rest
end

mutual
/-- Whether an array holds, at every depth, what belongs there can be decided. -/
theorem isFilled_iff : (value : Value) → value.isFilled = true ↔ value.Filled
  | array identity element items => by
    rw [isFilled, areFilled_iff element items]
    refine ⟨fun all => .array (fun item member => (all item member).1) fun item member =>
      (all item member).2, fun filled => ?_⟩
    cases filled with
    | array deep fit => exact fun item member => ⟨deep item member, fit item member⟩
    | other noArray => exact absurd rfl (noArray _ _ _)
  | null | bool _ | char _ | integer _ _ | float _ | double _ | decimal _ | string _ | type _
  | object _ => by
    simp only [isFilled, true_iff]
    exact .other nofun

theorem areFilled_iff (element : Ty) : (items : List Value) →
    areFilled element items = true ↔ ∀ item ∈ items, item.Filled ∧ item.Fits element
  | [] => by simp [areFilled]
  | item :: rest => by
    simp [areFilled, isFilled_iff item, areFilled_iff element rest]
end

instance (value : Value) : Decidable value.Filled := decidable_of_iff _ (isFilled_iff value)

theorem Filled.of_kind {value : Value} (primitive : value.kind?.isSome) : value.Filled := by
  refine .other fun identity element items same => ?_
  rw [same] at primitive
  cases primitive

theorem Filled.null : Filled .null := .other nofun

/-- A value that is right for a node of a type. -/
structure Good (ty : Ty) (value : Value) : Prop where
  fits : value.Fits ty
  filled : value.Filled

instance (ty : Ty) (value : Value) : Decidable (Good ty value) :=
  decidable_of_iff (value.Fits ty ∧ value.Filled)
    ⟨fun both => ⟨both.1, both.2⟩, fun good => ⟨good.fits, good.filled⟩⟩

theorem Good.of_kind {value : Value} {kind : Kind} (same : value.kind? = some kind) :
    Good (.primitive kind) value :=
  ⟨.inl (by simp [conforms, same]), .of_kind (by simp [same])⟩

theorem Good.kind {value : Value} {kind : Kind} (good : Good (.primitive kind) value) :
    value.kind? = some kind := by
  obtain conforms | ⟨void, -⟩ := good.fits
  · simpa [Value.conforms] using conforms
  · cases void

/-- `null` conforms to every type that admits it. -/
theorem conforms_null {ty : Ty} (accepts : ty.acceptsNull) : Value.null.conforms ty := by
  cases ty <;> first | rfl | cases accepts

theorem Good.null {ty : Ty} (accepts : ty.acceptsNull) : Good ty .null :=
  ⟨.inl (conforms_null accepts), .null⟩

end Value

/-- An outcome that types allow: a result as it should be, or a failure of another sort. -/
def Meant {α : Type} (right : α → Prop) : Except RuntimeError α → Prop
  | .ok a => right a
  | .error e => e.isMistyped = false

theorem Meant.mono {α : Type} {p q : α → Prop} {outcome : Except RuntimeError α}
    (meant : Meant p outcome) (weaker : ∀ a, outcome = .ok a → p a → q a) : Meant q outcome := by
  cases outcome with
  | ok a => exact weaker a rfl meant
  | error e => exact meant

namespace Value

variable {a b value : Value} {left right result ty : Ty}

theorem bool_of_kind (kind : a.kind? = some .bool) : ∃ x, a = .bool x := by
  cases a <;> first | exact ⟨_, rfl⟩ | simp [kind?] at kind

theorem integer_of_kind {width : IntKind} (kind : a.kind? = some (.integer width)) :
    ∃ n, a = .integer width n := by
  cases a with
  | integer own n =>
    simp only [kind?, Option.some.injEq, Kind.integer.injEq] at kind
    subst kind
    exact ⟨n, rfl⟩
  | _ => simp [kind?] at kind

theorem decimalResult_meant (operation : Operation) (computed : Option Decimal) :
    Meant (Good .decimal) (decimalResult operation computed) := by
  cases computed with
  | none => rfl
  | some d => exact .of_kind rfl

/-- Arithmetic on two numbers of one kind. -/
theorem arithmetic_meant (rule : Arithmetic) {kind : Kind} (numeric : kind.isNumeric)
    (first : a.kind? = some kind) (second : b.kind? = some kind) :
    Meant (Good (.primitive kind)) (arithmetic rule a b) := by
  cases kind with
  | bool | char => cases numeric
  | integer width =>
    obtain ⟨m, rfl⟩ := integer_of_kind first
    obtain ⟨n, rfl⟩ := integer_of_kind second
    simp only [arithmetic, dif_pos]
    exact .of_kind rfl
  | float =>
    cases a <;> simp [kind?] at first
    cases b <;> simp [kind?] at second
    exact .of_kind rfl
  | double =>
    cases a <;> simp [kind?] at first
    cases b <;> simp [kind?] at second
    exact .of_kind rfl
  | decimal =>
    cases a <;> simp [kind?] at first
    cases b <;> simp [kind?] at second
    exact decimalResult_meant _ _

/-- Division comes to a value of the kind of its operands, or reports that the divisor is zero. -/
theorem division_meant (rule : Arithmetic) {kind : Kind} (numeric : kind.isNumeric)
    (first : a.kind? = some kind) (second : b.kind? = some kind) :
    Meant (Good (.primitive kind)) (division rule a b) := by
  unfold division
  split
  case isTrue => rfl
  case isFalse => exact arithmetic_meant rule numeric first second

theorem shift_meant (operation : Operation)
    (move : (kind : IntKind) → Word kind → Word .int → Word kind) {width : IntKind}
    (first : a.kind? = some (.integer width)) (second : b.kind? = some (.integer .int)) :
    Meant (Good (.primitive (.integer width))) (shift operation move a b) := by
  obtain ⟨m, rfl⟩ := integer_of_kind first
  obtain ⟨n, rfl⟩ := integer_of_kind second
  exact .of_kind rfl

theorem comparison_meant (holds : Ordering → Bool) {kind : Kind} (first : a.kind? = some kind)
    (second : b.kind? = some kind) : Meant (Good .bool) (comparison holds a b) := by
  simp only [comparison, first, second, Option.isSome_some, and_self, ↓reduceIte]
  exact .of_kind rfl

theorem bitwise_meant (operation : Operation) (onBool : Bool → Bool → Bool)
    (onWord : (kind : IntKind) → Word kind → Word kind → Word kind) {kind : Kind}
    (bits : kind.isIntegral ∨ kind = .bool) (first : a.kind? = some kind)
    (second : b.kind? = some kind) :
    Meant (Good (.primitive kind)) (bitwise operation onBool onWord a b) := by
  cases kind with
  | bool =>
    obtain ⟨x, rfl⟩ := bool_of_kind first
    obtain ⟨y, rfl⟩ := bool_of_kind second
    exact .of_kind rfl
  | integer width =>
    obtain ⟨m, rfl⟩ := integer_of_kind first
    obtain ⟨n, rfl⟩ := integer_of_kind second
    simp only [bitwise, dif_pos]
    exact .of_kind rfl
  | char | float | double | decimal => simp [Kind.isIntegral] at bits

theorem primitive_of_numeric (numeric : ty.isNumeric) :
    ∃ kind, ty = .primitive kind ∧ kind.isNumeric := by
  cases ty <;> first | exact ⟨_, rfl, numeric⟩ | cases numeric

theorem primitive_of_integral (integral : ty.isIntegral) :
    ∃ width, ty = .primitive (.integer width) := by
  cases ty with
  | primitive kind => cases kind <;> first | exact ⟨_, rfl⟩ | cases integral
  | _ => cases integral

theorem primitive_of_ordered (ordered : ty.isNumeric ∨ ty = .char) :
    ∃ kind, ty = .primitive kind := by
  obtain numeric | rfl := ordered
  · obtain ⟨kind, same, -⟩ := primitive_of_numeric numeric
    exact ⟨kind, same⟩
  · exact ⟨.char, rfl⟩

theorem primitive_of_bits (bits : ty.isIntegral ∨ ty = .bool) :
    ∃ kind, ty = .primitive kind ∧ (kind.isIntegral ∨ kind = .bool) := by
  obtain integral | rfl := bits
  · obtain ⟨width, rfl⟩ := primitive_of_integral integral
    exact ⟨.integer width, rfl, .inl rfl⟩
  · exact ⟨.bool, rfl, .inr rfl⟩

/-- An operator that takes both operands computes a value of its result. -/
theorem operate_meant {op : BinaryOp} {compute : Value → Value → Except RuntimeError Value}
    (computes : operate? op = some compute) (takes : op.family.Takes left right result)
    (first : Good left a) (second : Good right b) : Meant (Good result) (compute a b) := by
  cases op with
  | add | sub | mul =>
    cases computes
    obtain ⟨rfl, rfl, numeric⟩ := takes
    obtain ⟨kind, rfl, numeric⟩ := primitive_of_numeric numeric
    exact arithmetic_meant _ numeric first.kind second.kind
  | div | rem =>
    cases computes
    obtain ⟨rfl, rfl, numeric⟩ := takes
    obtain ⟨kind, rfl, numeric⟩ := primitive_of_numeric numeric
    exact division_meant _ numeric first.kind second.kind
  | shiftLeft | shiftRight =>
    cases computes
    obtain ⟨rfl, integral, rfl⟩ := takes
    obtain ⟨width, rfl⟩ := primitive_of_integral integral
    exact shift_meant _ _ first.kind second.kind
  | less | greater | lessEqual | greaterEqual =>
    cases computes
    obtain ⟨rfl, ordered, rfl⟩ := takes
    obtain ⟨kind, rfl⟩ := primitive_of_ordered ordered
    exact comparison_meant _ first.kind second.kind
  | equal | notEqual =>
    cases computes
    obtain ⟨-, rfl⟩ := takes
    exact .of_kind rfl
  | bitAnd | bitOr | bitXor =>
    cases computes
    obtain ⟨rfl, rfl, bits⟩ := takes
    obtain ⟨kind, rfl, kinds⟩ := primitive_of_bits bits
    exact bitwise_meant _ _ _ kinds first.kind second.kind
  | and | or => cases computes

theorem truth_meant (good : Good .bool a) : ∃ x, a = .bool x ∧ a.truth = .ok x := by
  obtain ⟨x, rfl⟩ := bool_of_kind good.kind
  exact ⟨x, rfl, rfl⟩

theorem negate_meant {kind : Kind} (signed : kind.isSigned) (same : a.kind? = some kind) :
    Meant (Good (.primitive kind)) a.negate := by
  cases a with
  | integer width n =>
    cases same
    have signed : width.isSigned = true := signed
    simp only [negate, signed, ↓reduceIte]
    exact .of_kind rfl
  | float | double | decimal =>
    cases same
    exact .of_kind rfl
  | bool | char =>
    cases same
    cases signed
  | null | string | type | array | object => cases same

theorem operateUnary_meant {op : UnaryOp} (takes : op.Takes ty) (good : Good ty a) :
    Meant (Good ty) (a.operateUnary op) := by
  cases op with
  | negate =>
    obtain ⟨kind, rfl, signed⟩ : ∃ kind, ty = .primitive kind ∧ kind.isSigned := by
      cases ty <;> first | exact ⟨_, rfl, takes⟩ | cases takes
    exact negate_meant signed good.kind
  | not =>
    cases takes
    obtain ⟨x, rfl⟩ := bool_of_kind good.kind
    exact .of_kind rfl
  | complement =>
    obtain ⟨width, rfl⟩ := primitive_of_integral takes
    obtain ⟨n, rfl⟩ := integer_of_kind good.kind
    exact .of_kind rfl

section Conversion

variable {kind : Kind}

/-- A value of a primitive kind, or a failure to convert. -/
abbrev Converted (kind : Kind) : Except RuntimeError Value → Prop :=
  Meant fun value => value.kind? = some kind

theorem ofCode_meant (code : Nat) : Converted .char (ofCode code) := by
  unfold ofCode
  split <;> rfl

theorem ofDecimal?_meant (converted : Option Decimal) : Converted .decimal (ofDecimal? converted) := by
  cases converted <;> rfl

theorem ofInteger_meant (n : Int) (kind : Kind) : Converted kind (ofInteger n kind) := by
  cases kind with
  | char => exact ofCode_meant _
  | decimal => exact ofDecimal?_meant _
  | bool | integer | float | double => rfl

theorem ofFloating_meant (x : Float) (kind : Kind) : Converted kind (ofFloating x kind) := by
  cases kind with
  | char => exact ofCode_meant _
  | decimal => exact ofDecimal?_meant _
  | bool | integer | float | double => rfl

theorem ofDecimal_meant (d : Decimal) (kind : Kind) : Converted kind (ofDecimal d kind) := by
  cases kind with
  | char =>
    simp only [ofDecimal]
    split
    case h_1 => exact ofCode_meant _
    case h_2 => rfl
  | integer =>
    simp only [ofDecimal]
    split <;> rfl
  | bool | float | double | decimal => rfl

theorem toKind_meant (value : Value) (kind : Kind) : Converted kind (value.toKind kind) := by
  unfold toKind
  split
  case isTrue same => exact same
  case isFalse =>
    split
    case isTrue => rfl
    case isFalse =>
      cases value with
      | char | integer => exact ofInteger_meant _ kind
      | float | double => exact ofFloating_meant _ kind
      | decimal => exact ofDecimal_meant _ kind
      | null | bool | string | type | array | object => rfl

theorem conforms_of_stripped (conforms : value.conforms ty.stripped) : value.conforms ty := by
  cases ty with
  | nullable inner =>
    simp only [Ty.stripped, Ty.inner?, Option.getD_some] at conforms
    simp [Value.conforms, conforms]
  | _ => exact conforms

/-- A conversion comes out with a value of its target or with the failure of a conversion. -/
theorem cast_meant (filled : value.Filled) (source target : Ty) :
    Meant (Good target) (value.cast source target) := by
  unfold cast
  split
  case isTrue isNull =>
    split
    case isTrue accepts => exact .null accepts
    case isFalse => split <;> rfl
  case isFalse =>
    split
    case h_1 toObject =>
      exact ⟨.inl (conforms_of_stripped (toObject ▸ rfl)), filled⟩
    case h_2 kind primitive =>
      split
      case isTrue =>
        refine Meant.mono (toKind_meant value kind) fun converted _ same => ?_
        refine ⟨.inl (conforms_of_stripped ?_), .of_kind (by simp [same])⟩
        simp [primitive, Value.conforms, same]
      case isFalse =>
        split
        case isTrue conforms => exact ⟨.inl (conforms_of_stripped (primitive ▸ conforms)), filled⟩
        case isFalse => rfl
    case h_3 =>
      split
      case isTrue conforms => exact ⟨.inl (conforms_of_stripped conforms), filled⟩
      case isFalse => rfl

end Conversion

/-- The default of a type fits it, unless the type is a parameter of a generic type. -/
theorem defaultOf_good (noParam : ∀ index, ty ≠ .param index) : Good ty (defaultOf ty) := by
  cases ty with
  | primitive kind => cases kind <;> exact .of_kind rfl
  | void => exact ⟨.inr ⟨rfl, rfl⟩, .null⟩
  | param index => exact absurd rfl (noParam index)
  | null | object | string | nullable | array | cls => exact .null rfl

/-- A value that a literal denotes fits its own type. -/
theorem IsConstant.good (constant : value.IsConstant) : Good value.ty value := by
  obtain rfl | ⟨s, rfl⟩ | primitive := constant
  · exact .null rfl
  · exact ⟨.inl rfl, .other nofun⟩
  · cases value <;> first | exact .of_kind rfl | cases primitive

end Value
end Formula
