import Formula.Value.Convert
import Formula.Value.Operate
import Mathlib.Data.Int.ModEq
import Mathlib.Data.Rat.Floor

/-! Integers of a fixed width compute exactly, up to what their width leaves room for. A word holds
an integer when it is the only word of its kind that is congruent to it; sums, products, quotients,
shifts and conversions are then said of the integers themselves, and bitwise operations of the bits
that congruent integers share. A character goes through an integer and back unless its code needs
more than sixteen bits. -/
namespace Formula

theorem pow2_eq (n : Nat) : pow2 n = 2 ^ n := rfl

theorem IntKind.modulus_eq (kind : IntKind) : kind.modulus = 2 ^ kind.bits :=
  Int.natCast_pow 2 kind.bits

namespace Word

variable {kind : IntKind} {word a b : Word kind} {n : Int}

/-- Of all words of the kind, this one is congruent to an integer modulo the number of words. -/
def Holds (word : Word kind) (n : Int) : Prop :=
  ∀ other : Word kind, other.val ≡ n [ZMOD 2 ^ kind.bits] ↔ other = word

theorem eq_of_modEq (congruent : a.val ≡ b.val [ZMOD 2 ^ kind.bits]) : a = b := by
  have divides := congruent.dvd
  rw [← kind.modulus_eq] at divides
  have width := kind.greatest_eq
  have lowerA := a.least_le
  have upperA := a.le_greatest
  have lowerB := b.least_le
  have upperB := b.le_greatest
  have near : |b.val - a.val| < kind.modulus := abs_lt.mpr ⟨by omega, by omega⟩
  have none := Int.eq_zero_of_abs_lt_dvd divides near
  exact ext_val (by omega)

/-- A word holds what it is congruent to. -/
theorem holds_iff : word.Holds n ↔ word.val ≡ n [ZMOD 2 ^ kind.bits] := by
  constructor
  · intro holds
    exact (holds word).mpr rfl
  · intro congruent other
    constructor
    · intro also
      exact eq_of_modEq (also.trans congruent.symm)
    · rintro rfl
      exact congruent

theorem wrap_modEq (kind : IntKind) (n : Int) : wrap kind n ≡ n [ZMOD 2 ^ kind.bits] := by
  rw [← kind.modulus_eq]
  have residue := Int.mod_modEq n kind.modulus
  unfold wrap
  simp only
  split
  case isTrue => exact residue
  case isFalse => exact (Int.sub_modulus_modEq_iff).mpr residue

theorem ofInt_holds (kind : IntKind) (n : Int) : (ofInt kind n).Holds n :=
  holds_iff.mpr (wrap_modEq kind n)

/-- An integer in range is held by the word that is equal to it. -/
theorem val_ofInt (lower : kind.least ≤ n) (upper : n ≤ kind.greatest) :
    (ofInt kind n).val = n := by
  have same : (⟨n, lower, upper⟩ : Word kind) = ofInt kind n :=
    (ofInt_holds kind n _).mp (Int.ModEq.refl n)
  rw [← same]

/-- What is no farther from zero than a word, on the same side, is in range. -/
theorem val_ofInt_of_between (word : Word kind)
    (between : 0 ≤ n ∧ n ≤ word.val ∨ word.val ≤ n ∧ n ≤ 0) : (ofInt kind n).val = n := by
  have lower := word.least_le
  have upper := word.le_greatest
  have nonneg := kind.greatest_nonneg
  have nonpos := kind.least_nonpos
  exact val_ofInt (by omega) (by omega)

section Division

/-- The remainder stands between zero and what is divided. -/
theorem val_rem (a b : Word kind) : (a.rem b).val = a.val.tmod b.val := by
  apply val_ofInt_of_between a
  have small : (a.val.tmod b.val).natAbs ≤ a.val.natAbs := by
    rw [Int.natAbs_tmod]
    exact Nat.mod_le _ _
  by_cases sign : 0 ≤ a.val
  · have nonneg := Int.tmod_nonneg b.val sign
    omega
  · have nonneg := Int.tmod_nonneg b.val (Int.neg_nonneg_of_nonpos (Int.le_of_not_le sign))
    rw [Int.neg_tmod] at nonneg
    omega

theorem abs_rem_lt (some : b.val ≠ 0) : |(a.rem b).val| < |b.val| := by
  rw [val_rem, Int.abs_eq_natAbs, Int.abs_eq_natAbs, Int.natAbs_tmod, Int.ofNat_lt]
  exact Nat.mod_lt _ (Int.natAbs_pos.mpr some)

theorem sign_rem : (a.rem b).val = 0 ∨ (a.rem b).val.sign = a.val.sign := by
  rw [val_rem]
  by_cases divides : b.val ∣ a.val
  · exact .inl (Int.tmod_eq_zero_of_dvd divides)
  · exact .inr (by rw [Int.sign_tmod, if_neg divides])

/-- Quotient and remainder make up what was divided, also where the quotient is out of range. -/
theorem div_mul_add_rem (a b : Word kind) :
    a.val ≡ (a.div b).val * b.val + (a.rem b).val [ZMOD 2 ^ kind.bits] := by
  have quotient : (a.div b).val ≡ a.val.tdiv b.val [ZMOD 2 ^ kind.bits] := wrap_modEq _ _
  have parts := (quotient.mul_right b.val).add_right (a.rem b).val
  have whole : a.val.tdiv b.val * b.val + (a.rem b).val = a.val := by
    rw [val_rem, Int.mul_comm, Int.add_comm, Int.tmod_add_mul_tdiv]
  rw [whole] at parts
  exact parts.symm

end Division

section Shifts

/-- A quotient by a positive number stands between zero and what is divided. -/
theorem between_ediv {m n : Int} (positive : 0 < m) :
    0 ≤ n / m ∧ n / m ≤ n ∨ n ≤ n / m ∧ n / m ≤ 0 := by
  by_cases sign : 0 ≤ n
  · exact .inl ⟨Int.ediv_nonneg sign positive.le, Int.ediv_le_self m sign⟩
  · have negative : n < 0 := Int.not_le.mp sign
    have below : n * m ≤ n := by nlinarith
    have above : n / m < 0 := Int.ediv_neg_of_neg_of_pos negative positive
    exact .inr ⟨Int.le_ediv_of_mul_le positive below, above.le⟩

theorem val_shiftRight (a : Word kind) (count : Word .int) :
    (a.shiftRight count).val = ⌊(a.val : ℚ) / 2 ^ (count.val % kind.bits).toNat⌋ := by
  have positive : (0 : Int) < (2 ^ places kind count : Nat) := by positivity
  have floor : ⌊(a.val : ℚ) / 2 ^ places kind count⌋ = a.val / (2 ^ places kind count : Nat) := by
    rw [← Rat.floor_intCast_div_natCast, Nat.cast_pow, Nat.cast_ofNat]
  calc (a.shiftRight count).val
      = (ofInt kind (a.val / (2 ^ places kind count : Nat))).val := by
        rw [shiftRight, pow2_eq, Int.fdiv_eq_ediv_of_nonneg _ positive.le]
    _ = a.val / (2 ^ places kind count : Nat) := val_ofInt_of_between a (between_ediv positive)
    _ = ⌊(a.val : ℚ) / 2 ^ places kind count⌋ := floor.symm

end Shifts

section Bits

/-- The bits of a word, in two's complement. -/
def bits (word : Word kind) : BitVec kind.bits := BitVec.ofInt kind.bits word.val

theorem bits_ofInt (kind : IntKind) (n : Int) :
    (ofInt kind n).bits = BitVec.ofInt kind.bits n := by
  apply BitVec.eq_of_toNat_eq
  have congruent := (wrap_modEq kind n).eq
  rw [bits, BitVec.toNat_ofInt, BitVec.toNat_ofInt, Int.natCast_pow]
  exact congrArg Int.toNat congruent

theorem bits_eq (word : Word kind) : word.bits = BitVec.ofNat kind.bits word.residue := by
  have positive := kind.modulus_pos
  have residue : (word.residue : Int) = word.val % 2 ^ kind.bits := by
    rw [← kind.modulus_eq, Word.residue, Int.toNat_of_nonneg (Int.emod_nonneg _ positive.ne')]
  apply BitVec.eq_of_toNat_eq
  rw [bits, ← BitVec.ofInt_natCast, BitVec.toNat_ofInt, BitVec.toNat_ofInt, residue,
    Int.natCast_pow, Nat.cast_ofNat, Int.emod_emod_of_dvd _ (Int.dvd_refl _)]

theorem bits_and (a b : Word kind) : (a.and b).bits = a.bits &&& b.bits := by
  rw [and, bits_ofInt, BitVec.ofInt_natCast, BitVec.ofNat_and, ← bits_eq, ← bits_eq]

theorem bits_or (a b : Word kind) : (a.or b).bits = a.bits ||| b.bits := by
  rw [or, bits_ofInt, BitVec.ofInt_natCast, BitVec.ofNat_or, ← bits_eq, ← bits_eq]

theorem bits_xor (a b : Word kind) : (a.xor b).bits = a.bits ^^^ b.bits := by
  rw [xor, bits_ofInt, BitVec.ofInt_natCast, BitVec.ofNat_xor, ← bits_eq, ← bits_eq]

theorem bits_complement (a : Word kind) : a.complement.bits = ~~~a.bits := by
  calc a.complement.bits
      = BitVec.ofInt kind.bits (-a.val + -1) := by
        rw [complement, bits_ofInt, Int.sub_eq_add_neg, Int.add_comm]
    _ = -a.bits + -BitVec.ofNat kind.bits 1 := by
        rw [BitVec.ofInt_add, BitVec.ofInt_neg, BitVec.ofInt_neg]
        rfl
    _ = ~~~a.bits := by rw [BitVec.not_eq_neg_add, BitVec.sub_eq_add_neg]

end Bits

end Word

namespace Value

variable {kind source : IntKind}

/-- An operator that takes both of its operands comes out so. -/
def Computes (op : BinaryOp) (left right : Value) (outcome : Except RuntimeError Value) : Prop :=
  ∃ compute, operate? op = some compute ∧ compute left right = outcome

/-- An operator makes of two integers of a kind an integer of that kind of which something holds. -/
def Makes (op : BinaryOp) (a b : Word kind) (meets : Word kind → Prop) : Prop :=
  ∃ c : Word kind, Computes op (integer kind a) (integer kind b) (.ok (integer kind c)) ∧ meets c

theorem arithmetic_words (rule : Arithmetic) (a b : Word kind) :
    arithmetic rule (integer kind a) (integer kind b) =
      .ok (integer kind (rule.onWord kind a b)) := by
  simp [arithmetic]

theorem bitwise_words {operation : Operation} {onBool : Bool → Bool → Bool}
    {onWord : (kind : IntKind) → Word kind → Word kind → Word kind} (a b : Word kind) :
    bitwise operation onBool onWord (integer kind a) (integer kind b) =
      .ok (integer kind (onWord kind a b)) := by
  simp [bitwise]

theorem division_zero (rule : Arithmetic) {a b : Word kind} (zero : b.val = 0) :
    division rule (integer kind a) (integer kind b) = .error .divisionByZero := by
  simp [division, kind?, isExactZero, zero]

theorem division_words (rule : Arithmetic) {a b : Word kind} (some : b.val ≠ 0) :
    division rule (integer kind a) (integer kind b) =
      .ok (integer kind (rule.onWord kind a b)) := by
  have noZero : ¬ ((integer kind a).kind? = (integer kind b).kind? ∧
      (integer kind b).isExactZero) := by
    simp [isExactZero, some]
  rw [division, if_neg noZero, arithmetic_words]

theorem division_byZero_iff {op : BinaryOp} {rule : Arithmetic} {a b : Word kind}
    (divides : operate? op = some (division rule)) :
    Computes op (integer kind a) (integer kind b) (.error .divisionByZero) ↔ b.val = 0 := by
  constructor
  · rintro ⟨compute, found, failed⟩
    cases divides.symm.trans found
    by_contra some
    rw [division_words rule some] at failed
    cases failed
  · intro zero
    exact ⟨_, divides, division_zero rule zero⟩

theorem toKind_integer (n : Word source) :
    (integer source n).toKind (.integer kind) = .ok (integer kind (Word.ofInt kind n.val)) := by
  by_cases same : source = kind
  · subst same
    have itself : Word.ofInt source n.val = n :=
      Word.ext_val (Word.val_ofInt n.least_le n.le_greatest)
    have own : (integer source n).kind? = some (.integer source) := rfl
    rw [toKind, if_pos own, itself]
  · have other : (integer source n).kind? ≠ some (.integer kind) := by
      simpa [kind?] using same
    rw [toKind, if_neg other, if_neg nofun]
    rfl

theorem toKind_char (c : Char) :
    (char c).toKind (.integer kind) = .ok (integer kind (Word.ofInt kind c.toNat)) := rfl

/-- The operators and conversions of an integer kind compute on the integers, modulo the number of
its values. -/
structure TwosComplement (kind : IntKind) : Prop where
  sum : ∀ a b : Word kind, Makes .add a b fun c => c.Holds (a.val + b.val)
  difference : ∀ a b : Word kind, Makes .sub a b fun c => c.Holds (a.val - b.val)
  product : ∀ a b : Word kind, Makes .mul a b fun c => c.Holds (a.val * b.val)
  negative : kind.isSigned → ∀ a : Word kind, ∃ c : Word kind,
    operateUnary .negate (integer kind a) = .ok (integer kind c) ∧ c.Holds (-a.val)
  byZero : ∀ op ∈ [BinaryOp.div, .rem], ∀ a b : Word kind,
    Computes op (integer kind a) (integer kind b) (.error .divisionByZero) ↔ b.val = 0
  division : ∀ a b : Word kind, b.val ≠ 0 → ∃ q r : Word kind,
    Computes .div (integer kind a) (integer kind b) (.ok (integer kind q)) ∧
      Computes .rem (integer kind a) (integer kind b) (.ok (integer kind r)) ∧
      q.Holds (a.val.tdiv b.val) ∧ a.val ≡ q.val * b.val + r.val [ZMOD 2 ^ kind.bits] ∧
      |r.val| < |b.val| ∧ (r.val = 0 ∨ r.val.sign = a.val.sign)
  /-- A count is taken modulo the width, so a negative one counts down from it. -/
  shiftLeft : ∀ (a : Word kind) (count : Word .int), ∃ c : Word kind,
    Computes .shiftLeft (integer kind a) (integer .int count) (.ok (integer kind c)) ∧
      c.Holds (a.val * 2 ^ (count.val % kind.bits).toNat)
  shiftRight : ∀ (a : Word kind) (count : Word .int), ∃ c : Word kind,
    Computes .shiftRight (integer kind a) (integer .int count) (.ok (integer kind c)) ∧
      c.val = ⌊(a.val : ℚ) / 2 ^ (count.val % kind.bits).toNat⌋
  bitAnd : ∀ a b : Word kind, Makes .bitAnd a b fun c => c.bits = a.bits &&& b.bits
  bitOr : ∀ a b : Word kind, Makes .bitOr a b fun c => c.bits = a.bits ||| b.bits
  bitXor : ∀ a b : Word kind, Makes .bitXor a b fun c => c.bits = a.bits ^^^ b.bits
  complement : ∀ a : Word kind, ∃ c : Word kind,
    operateUnary .complement (integer kind a) = .ok (integer kind c) ∧ c.bits = ~~~a.bits
  ofInteger : ∀ (source : IntKind) (n : Word source), ∃ c : Word kind,
    (integer source n).toKind (.integer kind) = .ok (integer kind c) ∧ c.Holds n.val
  ofChar : ∀ c : Char, ∃ n : Word kind,
    (char c).toKind (.integer kind) = .ok (integer kind n) ∧ n.Holds c.toNat

theorem arithmetic_makes {op : BinaryOp} {rule : Arithmetic} {a b : Word kind}
    {meets : Word kind → Prop} (computes : operate? op = some (arithmetic rule))
    (met : meets (rule.onWord kind a b)) : Makes op a b meets :=
  ⟨_, ⟨_, computes, arithmetic_words rule a b⟩, met⟩

/-- Integers of every kind are exact modulo the number of values of the kind. -/
theorem integers_twosComplement (kind : IntKind) : TwosComplement kind where
  sum a b := arithmetic_makes rfl (Word.ofInt_holds kind _)
  difference a b := arithmetic_makes rfl (Word.ofInt_holds kind _)
  product a b := arithmetic_makes rfl (Word.ofInt_holds kind _)
  negative signed a := ⟨a.neg, by simp [operateUnary, negate, signed], Word.ofInt_holds kind _⟩
  byZero op listed a b := by
    simp only [List.mem_cons, List.not_mem_nil, or_false] at listed
    obtain rfl | rfl := listed
    · exact division_byZero_iff rfl
    · exact division_byZero_iff rfl
  division a b some := by
    refine ⟨a.div b, a.rem b, ⟨_, rfl, division_words _ some⟩, ⟨_, rfl, division_words _ some⟩, ?_⟩
    exact ⟨Word.ofInt_holds kind _, Word.div_mul_add_rem a b, Word.abs_rem_lt some, Word.sign_rem⟩
  shiftLeft a count := by
    refine ⟨a.shiftLeft count, ⟨_, rfl, rfl⟩, ?_⟩
    have holds := Word.ofInt_holds kind (a.val * pow2 (Word.places kind count))
    rwa [pow2_eq, Nat.cast_pow] at holds
  shiftRight a count := ⟨a.shiftRight count, ⟨_, rfl, rfl⟩, Word.val_shiftRight a count⟩
  bitAnd a b := ⟨a.and b, ⟨_, rfl, bitwise_words a b⟩, Word.bits_and a b⟩
  bitOr a b := ⟨a.or b, ⟨_, rfl, bitwise_words a b⟩, Word.bits_or a b⟩
  bitXor a b := ⟨a.xor b, ⟨_, rfl, bitwise_words a b⟩, Word.bits_xor a b⟩
  complement a := ⟨a.complement, rfl, Word.bits_complement a⟩
  ofInteger source n := ⟨Word.ofInt kind n.val, toKind_integer n, Word.ofInt_holds kind _⟩
  ofChar c := ⟨Word.ofInt kind c.toNat, toKind_char c, Word.ofInt_holds kind _⟩

/-- The least value divided by minus one is out of range by one, and comes back to itself. -/
theorem integers_twosComplement_least :
    let least := Word.ofInt .sbyte (-128)
    let minusOne := Word.ofInt .sbyte (-1)
    minusOne.val ≠ 0 ∧ ∃ q r : Word .sbyte,
      Computes .div (integer .sbyte least) (integer .sbyte minusOne) (.ok (integer .sbyte q)) ∧
      Computes .rem (integer .sbyte least) (integer .sbyte minusOne) (.ok (integer .sbyte r)) ∧
      q = least ∧ r.val = 0 := by
  intro least minusOne
  have some : minusOne.val ≠ 0 := by decide
  obtain ⟨q, r, divided, left, holds, -, near, -⟩ :=
    (integers_twosComplement .sbyte).division least minusOne some
  have wrapped : least.val ≡ least.val.tdiv minusOne.val [ZMOD 2 ^ IntKind.sbyte.bits] := by decide
  have zero : |r.val| < 1 := near
  exact ⟨some, q, r, divided, left, ((holds least).mp wrapped).symm, Int.abs_lt_one_iff.mp zero⟩

section Characters

theorem residue_ofInt (n : Int) : (Word.ofInt kind n).residue = (n % 2 ^ kind.bits).toNat := by
  rw [Word.residue, kind.modulus_eq]
  exact congrArg Int.toNat (Word.wrap_modEq kind n).eq

/-- An integer becomes the character whose code its lowest sixteen bits are, if there is one. -/
theorem toKind_code (n : Word kind) :
    (integer kind n).toKind .char = ofCode (n.val % 2 ^ 16).toNat := by
  have code : (Word.ofInt .ushort n.val).residue = (n.val % 2 ^ 16).toNat := residue_ofInt n.val
  rw [← code]
  rfl

theorem ofCode_iff {code : Nat} {c : Char} : ofCode code = .ok (char c) ↔ c.toNat = code := by
  constructor
  · intro made
    unfold ofCode at made
    split at made
    case isTrue valid =>
      cases made
      rw [Char.ofNat, dif_pos valid]
      rfl
    case isFalse => cases made
  · rintro rfl
    have valid : c.toNat.isValidChar := c.valid
    rw [ofCode, if_pos valid, Char.ofNat_toNat]

/-- Every code is in range for these kinds, so a character becomes its code. What comes back is the
character whose code the lowest sixteen bits are, and so the same character only if there are no
more. -/
theorem char_back_iff (c : Char) (wide : kind ∈ [IntKind.int, .uint, .long, .ulong]) :
    ∃ n : Word kind, (char c).toKind (.integer kind) = .ok (integer kind n) ∧ n.val = c.toNat ∧
      (integer kind n).toKind .char = ofCode (c.toNat % 2 ^ 16) ∧
      ((integer kind n).toKind .char = .ok (char c) ↔ c.toNat < 2 ^ 16) := by
  have room : ∀ kind ∈ [IntKind.int, .uint, .long, .ulong], (0x10FFFF : Int) ≤ kind.greatest := by
    decide
  have enough := room kind wide
  have code : c.toNat < 0x110000 := by
    obtain low | ⟨-, high⟩ := c.valid
    · exact low.trans (by decide)
    · exact high
  have nonpos := kind.least_nonpos
  have held : (Word.ofInt kind c.toNat).val = c.toNat := Word.val_ofInt (by omega) (by omega)
  have back : (integer kind (Word.ofInt kind c.toNat)).toKind .char =
      ofCode (c.toNat % 2 ^ 16) := by
    rw [toKind_code, held]
    rfl
  refine ⟨Word.ofInt kind c.toNat, toKind_char c, held, back, ?_⟩
  rw [back, ofCode_iff]
  omega

/-- A character of sixteen bits, through an unsigned integer. -/
theorem char_back_accented : IntKind.uint ∈ [IntKind.int, .uint, .long, .ulong] ∧
    ∃ n : Word .uint, (char 'é').toKind (.integer .uint) = .ok (integer .uint n) ∧
      (integer .uint n).toKind .char = .ok (char 'é') := by
  have listed : IntKind.uint ∈ [IntKind.int, .uint, .long, .ulong] := by decide
  obtain ⟨n, code, -, -, back⟩ := char_back_iff 'é' listed
  exact ⟨listed, n, code, back.mpr (by decide)⟩

/-- A character whose code needs seventeen bits comes back as another, and one whose lowest sixteen
bits are no code does not come back at all. -/
theorem char_lost_in_int :
    (∃ n : Word .int, (char '😀').toKind (.integer .int) = .ok (integer .int n) ∧
      (integer .int n).toKind .char = .ok (char '\uf600') ∧ '\uf600' ≠ '😀') ∧
    ∃ n : Word .int, (char '𝠀').toKind (.integer .int) = .ok (integer .int n) ∧
      (integer .int n).toKind .char = .error (.invalidCharacter 0xD800) :=
  ⟨⟨_, rfl, rfl, by decide⟩, _, rfl, rfl⟩

end Characters

end Value
end Formula
