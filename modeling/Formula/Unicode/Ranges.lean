/-! Sets of characters given as ranges of code points. The tables of character classes in this folder
are lists of such ranges, in ascending order, and follow Unicode 17.0. -/
namespace Formula.Unicode

/-- A range of code points, first and last included. -/
abbrev Range := Nat × Nat

/-- Every `step`-th code point from the first to the last. -/
structure Run where
  first : Nat
  last : Nat
  step : Nat

/-- Whether a code point lies in one of the ranges. -/
def inRanges (ranges : List Range) (code : Nat) : Bool :=
  ranges.any fun range => range.1 ≤ code && code ≤ range.2

/-- Whether a run visits a code point. -/
def Run.visits (run : Run) (code : Nat) : Bool :=
  run.first ≤ code && code ≤ run.last && (code - run.first) % run.step == 0

end Formula.Unicode
