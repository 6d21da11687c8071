import Formula.Power

/-! Singles as doubles. Every single has the value of a double: the significand of a finite one is
stretched to the width that normal doubles have, and the power is taken down by as much. -/
namespace Formula.Floating

/-- The same number with a significand of 53 bits, if it has no more. -/
def stretched : Float.Model.UnpackedFloat → Float.Model.UnpackedFloat
  | .finite sign significand power positive =>
    let missing := 52 - significand.log2
    .finite sign (significand * pow2 missing) (power - missing)
      (Nat.mul_pos positive (Nat.pow_pos Nat.two_pos))
  | other => other

/-- The parts of a single. -/
def singleParts (x : Float32) : Float.Model.UnpackedFloat :=
  .unpack .binary32 x.toBits.toBitVec

/-- The double with the value of a single. -/
def widen (x : Float32) : Float :=
  .ofBits ⟨(stretched (singleParts x)).pack .binary64⟩

end Formula.Floating
