import Formula.Floating.Widening
import Mathlib

/-! Singles and doubles. Widening a single keeps what it is and what it equals: its bits stand for a
number with a significand of 24 bits, or with fewer and the least power; stretched to 53 bits it packs
into a double, is unpacked from it again, and numbers that were different before still are. Doubles
are equal where they are the same number. -/
namespace Formula.Floating

open Float.Model (UnpackedFloat)
open Float.Model.UnpackedFloat

variable {a b : UnpackedFloat} {x y : Float32}

/-- What the bits of a single may stand for. -/
def OfSingle : UnpackedFloat → Prop
  | .finite _ significand power _ =>
    significand.log2 = 23 ∧ -149 ≤ power ∧ power ≤ 104 ∨ significand.log2 < 23 ∧ power = -149
  | _ => True

/-- What the bits of a double that is not subnormal may stand for. -/
def OfNormal : UnpackedFloat → Prop
  | .finite _ significand power _ => significand.log2 = 52 ∧ -1074 ≤ power ∧ power ≤ 971
  | _ => True

theorem log2_eq_iff {n k : Nat} (positive : 0 < n) : n.log2 = k ↔ 2 ^ k ≤ n ∧ n < 2 ^ (k + 1) := by
  have nonzero : n ≠ 0 := by omega
  rw [← Nat.le_log2 nonzero, ← Nat.log2_lt nonzero]
  omega

/-- Shifting a number to the left adds to its logarithm. -/
theorem log2_shifted {n : Nat} (positive : 0 < n) (k : Nat) : (n * pow2 k).log2 = n.log2 + k := by
  obtain ⟨low, high⟩ := (log2_eq_iff positive).mp rfl
  have power := Nat.two_pow_pos k
  refine (log2_eq_iff (Nat.mul_pos positive power)).mpr ⟨?_, ?_⟩
  · rw [Nat.pow_add]
    exact Nat.mul_le_mul_right _ low
  · rw [Nat.add_right_comm, Nat.pow_add]
    exact Nat.mul_lt_mul_of_pos_right high power

/-- The leading bit of a significand is not among the fields of a number. -/
theorem leading_one {width : Nat} (fraction : BitVec width) :
    (1#1 ++ fraction).toNat = 2 ^ width + fraction.toNat := by
  rw [BitVec.toNat_append, ← Nat.shiftLeft_add_eq_or_of_lt fraction.isLt, Nat.shiftLeft_eq]
  simp

theorem ofSingle_parts (x : Float32) : OfSingle (singleParts x) := by
  unfold singleParts unpack
  generalize x.toBits.toBitVec = bits
  have fraction : (@unpackMantissa .binary32 bits).toNat < 2 ^ 23 := BitVec.isLt _
  have biased : (@unpackExponent .binary32 bits).toNat < 2 ^ 8 := BitVec.isLt _
  have bias : (Float.Model.Format.exponentBias .binary32 : Int) = 127 := rfl
  dsimp only
  split
  case isTrue => split <;> trivial
  case isFalse notMost =>
    split
    case isTrue least =>
      split
      case isTrue => trivial
      case isFalse some =>
        have positive : 0 < (@unpackMantissa .binary32 bits).toNat := by
          by_contra none
          exact some (BitVec.eq_of_toNat_eq (by simpa using none))
        refine .inr ⟨(Nat.log2_lt (by omega)).mpr fraction, ?_⟩
        simp [least, bias]
    case isFalse notLeast =>
      have range : (@unpackExponent .binary32 bits).toNat ≠ 0 ∧
          (@unpackExponent .binary32 bits).toNat ≠ 255 := by
        constructor
        · intro zero
          exact notLeast (BitVec.eq_of_toNat_eq (by simpa using zero))
        · intro ones
          exact notMost (BitVec.eq_of_toNat_eq (by simpa using ones))
      refine .inl ⟨?_, ?_⟩
      · have leading := leading_one (@unpackMantissa .binary32 bits)
        have width : 2 ^ Float.Model.Format.binary32.mantissaBitsWithoutImplicit = 2 ^ 23 := rfl
        rw [width] at leading
        exact (log2_eq_iff (by omega)).mpr ⟨by omega, by omega⟩
      · rw [bias]
        omega

theorem ofNormal_stretched (single : OfSingle a) : OfNormal (stretched a) := by
  cases a with
  | finite sign significand power positive =>
    have width := log2_shifted positive (52 - significand.log2)
    simp only [OfSingle] at single
    exact ⟨by omega, by omega, by omega⟩
  | infinity | notANumber | zero => trivial

/-- Numbers that were different before are different when they are stretched. -/
theorem stretched_inj (single : OfSingle a) (other : OfSingle b) :
    stretched a = stretched b ↔ a = b := by
  refine ⟨fun same => ?_, congrArg stretched⟩
  cases a with
  | finite sign significand power positive =>
    cases b with
    | finite sign' significand' power' positive' =>
      simp only [stretched, finite.injEq] at same
      obtain ⟨rfl, significands, powers⟩ := same
      simp only [OfSingle] at single other
      have widths : significand.log2 = significand'.log2 := by omega
      obtain rfl : power = power' := by omega
      rw [widths] at significands
      obtain rfl := Nat.eq_of_mul_eq_mul_right (Nat.two_pow_pos _) significands
      rfl
    | infinity | notANumber | zero => cases same
  | infinity | notANumber | zero =>
    cases b with
    | finite => cases same
    | infinity | notANumber | zero => exact same

theorem stretched_eq_zero {sign : Sign} : stretched a = zero sign ↔ a = zero sign := by
  cases a <;> simp [stretched]

theorem stretched_eq_notANumber : stretched a = notANumber ↔ a = notANumber := by
  cases a <;> simp [stretched]

/-- A number that fits is unpacked from what it packs into. -/
theorem unpack_pack (normal : OfNormal a) : unpack .binary64 (a.pack .binary64) = a := by
  cases a with
  | notANumber => rfl
  | infinity sign | zero sign => cases sign <;> rfl
  | finite sign significand power positive =>
    obtain ⟨width, low, high⟩ := normal
    obtain ⟨atLeast, below⟩ := (log2_eq_iff positive).mp width
    have bias : (Float.Model.Format.exponentBias .binary64 : Int) = 1023 := rfl
    have range : (power + 1023 + 52).toNat < 2047 ∧ (power + 1023 + 52).toNat ≠ 0 := by omega
    have biased : (BitVec.ofNat 11 (power + 1023 + 52).toNat).toNat = (power + 1023 + 52).toNat := by
      rw [BitVec.toNat_ofNat]
      exact Nat.mod_eq_of_lt (by omega)
    have notMost : BitVec.ofNat 11 (power + 1023 + 52).toNat ≠ -1#11 := by
      intro same
      have ones := biased.symm.trans (congrArg BitVec.toNat same)
      simp at ones
      omega
    have notLeast : BitVec.ofNat 11 (power + 1023 + 52).toNat ≠ 0#11 := by
      intro same
      have zero := biased.symm.trans (congrArg BitVec.toNat same)
      simp at zero
      omega
    have whole : (1#1 ++ BitVec.ofNat 52 significand).toNat = significand := by
      rw [leading_one, BitVec.toNat_ofNat]
      omega
    have packed : (finite sign significand power positive).pack .binary64 =
        packComponents .binary64 sign (BitVec.ofNat 11 (power + 1023 + 52).toNat)
          (BitVec.ofNat 52 significand) := by
      have fits : ¬ 2 ^ 11 ≤ (power + 1023 + 52).toNat + 1 := by omega
      have full : significand.log2 + 1 = 53 := by rw [width]
      exact (if_neg fits).trans (if_pos full)
    rw [packed]
    simp only [unpack, unpackMantissa_packComponents, unpackExponent_packComponents,
      unpackSign_packComponents, Sign.ofBitVec_toBitVec, notMost, notLeast, ↓reduceIte, whole, biased,
      bias, finite.injEq, true_and]
    omega

theorem unpack_widen (x : Float32) : (widen x).toModel.unpack = stretched (singleParts x) := by
  have normal := ofNormal_stretched (ofSingle_parts x)
  have unpacked := unpack_pack normal
  calc (widen x).toModel.unpack
    _ = unpack .binary64 (pack .binary64
          (unpack .binary64 ((stretched (singleParts x)).pack .binary64))) := rfl
    _ = stretched (singleParts x) := by rw [unpacked, unpacked]

theorem double_beq_iff {x y : Float} :
    (x == y) = true ↔ x.toModel.unpack.beq y.toModel.unpack = true := Iff.rfl

theorem single_beq_iff : (x == y) = true ↔ (singleParts x).beq (singleParts y) = true := Iff.rfl

/-- Singles are equal exactly where the doubles with their values are. -/
theorem widen_beq : (widen x == widen y) = (x == y) := by
  rw [Bool.eq_iff_iff, double_beq_iff, single_beq_iff, unpack_widen, unpack_widen,
    beq_iff_ne_notANumber_and_eq, beq_iff_ne_notANumber_and_eq,
    stretched_inj (ofSingle_parts x) (ofSingle_parts y)]
  simp only [ne_eq, stretched_eq_zero, stretched_eq_notANumber]

/-- Widening makes no number of what is not one. -/
theorem widen_isNaN : (widen x).isNaN = x.isNaN := by
  have parts : (widen x).isNaN = (stretched (singleParts x)).isNaN := by
    rw [← unpack_widen]
    rfl
  have own : x.isNaN = (singleParts x).isNaN := rfl
  rw [parts, own]
  cases singleParts x <;> rfl

/-- The number that a double is, if it is one; there is one zero. -/
def number? (x : Float) : Option UnpackedFloat :=
  match x.toModel.unpack with
  | notANumber => none
  | zero _ => some (zero .positive)
  | other => some other

theorem number_none_iff {x : Float} : number? x = none ↔ x.isNaN := by
  have own : x.isNaN = x.toModel.unpack.isNaN := rfl
  rw [number?, own]
  cases x.toModel.unpack <;> simp [UnpackedFloat.isNaN]

/-- Doubles are equal where they are the same number. -/
theorem double_beq_iff_number {x y : Float} :
    (x == y) = true ↔ number? x ≠ none ∧ number? x = number? y := by
  rw [double_beq_iff, beq_iff_ne_notANumber_and_eq, number?, number?]
  cases x.toModel.unpack with
  | zero sign =>
    cases y.toModel.unpack with
    | zero sign' => cases sign <;> cases sign' <;> simp
    | infinity | notANumber | finite => simp
  | infinity | notANumber | finite => cases y.toModel.unpack <;> simp

end Formula.Floating
