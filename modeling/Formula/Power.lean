/-! Powers of two and of ten: the sizes of words, the weights of binary digits and of places behind a
point. -/
namespace Formula

/-- Two to a power. -/
abbrev pow2 (n : Nat) : Nat := Nat.pow 2 n

/-- Ten to a power. -/
abbrev pow10 (n : Nat) : Nat := Nat.pow 10 n

end Formula
