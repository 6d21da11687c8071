import Formula.Kind

/-! Integers of a fixed width. A word holds an integer between the least and the greatest value of
its kind; an operation computes on the integers and keeps, of all results congruent modulo the
number of values, the one in range. -/
namespace Formula

/-- An integer of a kind. -/
structure Word (kind : IntKind) where
  val : Int
  least_le : kind.least ≤ val
  le_greatest : val ≤ kind.greatest

namespace Word

variable {kind : IntKind}

theorem ext_val {a b : Word kind} (same : a.val = b.val) : a = b := by
  cases a; cases b; cases same; rfl

instance : DecidableEq (Word kind) := fun a b =>
  if same : a.val = b.val then isTrue (ext_val same)
  else isFalse fun equal => same (congrArg val equal)

/-- The integer in range that is congruent to `n`. -/
def wrap (kind : IntKind) (n : Int) : Int :=
  let residue := n % kind.modulus
  if residue ≤ kind.greatest then residue else residue - kind.modulus

theorem wrap_in_range (kind : IntKind) (n : Int) :
    kind.least ≤ wrap kind n ∧ wrap kind n ≤ kind.greatest := by
  have positive := kind.modulus_pos
  have lower := Int.emod_nonneg n (Int.ne_of_gt positive)
  have upper := Int.emod_lt_of_pos n positive
  have nonneg := kind.greatest_nonneg
  have nonpos := kind.least_nonpos
  have width := kind.greatest_eq
  simp only [wrap]
  split <;> omega

/-- The word congruent to an integer. -/
def ofInt (kind : IntKind) (n : Int) : Word kind :=
  ⟨wrap kind n, (wrap_in_range kind n).1, (wrap_in_range kind n).2⟩

/-- The word equal to an integer, if the kind has it. -/
def ofInt? (kind : IntKind) (n : Int) : Option (Word kind) :=
  if range : kind.least ≤ n ∧ n ≤ kind.greatest then some ⟨n, range.1, range.2⟩ else none

/-- The word nearest to an integer. -/
def clamp (kind : IntKind) (n : Int) : Word kind :=
  if range : kind.least ≤ n ∧ n ≤ kind.greatest then ⟨n, range.1, range.2⟩
  else if n < kind.least then ofInt kind kind.least else ofInt kind kind.greatest

instance : Inhabited (Word kind) := ⟨ofInt kind 0⟩

/-- The bits of a word, as a number below the number of values. -/
def residue (word : Word kind) : Nat := (word.val % kind.modulus).toNat

/-- Sum. -/
def add (a b : Word kind) : Word kind := ofInt kind (a.val + b.val)

/-- Difference. -/
def sub (a b : Word kind) : Word kind := ofInt kind (a.val - b.val)

/-- Product. -/
def mul (a b : Word kind) : Word kind := ofInt kind (a.val * b.val)

/-- The negative. -/
def neg (a : Word kind) : Word kind := ofInt kind (-a.val)

/-- Quotient, cut toward zero. -/
def div (a b : Word kind) : Word kind := ofInt kind (a.val.tdiv b.val)

/-- Remainder of the quotient cut toward zero. -/
def rem (a b : Word kind) : Word kind := ofInt kind (a.val.tmod b.val)

/-- The number of places that a shift count moves: the count modulo the width. -/
def places (kind : IntKind) (count : Word .int) : Nat := (count.val % kind.bits).toNat

/-- Shift to the left. -/
def shiftLeft (a : Word kind) (count : Word .int) : Word kind :=
  ofInt kind (a.val * pow2 (places kind count))

/-- Shift to the right, which keeps the sign. -/
def shiftRight (a : Word kind) (count : Word .int) : Word kind :=
  ofInt kind (a.val.fdiv (pow2 (places kind count)))

/-- Bitwise and. -/
def and (a b : Word kind) : Word kind := ofInt kind (a.residue &&& b.residue : Nat)

/-- Bitwise or. -/
def or (a b : Word kind) : Word kind := ofInt kind (a.residue ||| b.residue : Nat)

/-- Bitwise exclusive or. -/
def xor (a b : Word kind) : Word kind := ofInt kind (a.residue ^^^ b.residue : Nat)

/-- Bitwise complement. -/
def complement (a : Word kind) : Word kind := ofInt kind (-1 - a.val)

/-- The absolute value, wrapped: the least value of a signed kind has no positive counterpart. -/
def abs (a : Word kind) : Word kind := if a.val < 0 then a.neg else a

/-- The decimal text of a word. -/
def text (word : Word kind) : String := toString word.val

/-- The digits of a decimal number, if there is at least one and nothing else. -/
def digits? (text : List Char) : Option Nat :=
  if text.isEmpty then none
  else text.foldlM (fun total c =>
    if c.isDigit then some (total * 10 + (c.toNat - '0'.toNat)) else none) 0

/-- Reads a decimal number with an optional sign; only signed kinds take a minus. -/
def read? (kind : IntKind) (text : List Char) : Option (Word kind) :=
  match text with
  | '+' :: rest => (digits? rest).bind fun n => ofInt? kind n
  | '-' :: rest => if kind.isSigned then (digits? rest).bind fun n => ofInt? kind (-n) else none
  | rest => (digits? rest).bind fun n => ofInt? kind n

end Word
end Formula
