import Formula.Expr.Build

/-! Why a node is not built: for the types of its parts, or for a member that is not there. What the
tokens are or how deep they nest is no reason, so a failure of that kind comes from the reading. -/
namespace Formula

/-- A fault in the types of a formula, or a member that is not there. -/
def CompileFault.IsOfTypes : CompileFault → Prop
  | typing _ | memberNotFound _ _ => True
  | _ => False

namespace Expr

variable {α β : Type} {world : Universe} {ty owner : Ty} {name : Token} {span place : Span}
  {e left right target : Expr} {args : List Expr}

/-- If there is a failure, it is one of types or of members. -/
def FailsByTypes : Except CompileError α → Prop
  | .ok _ => True
  | .error error => error.fault.IsOfTypes

/-- Steps put together fail by types only, if each of them does. -/
theorem FailsByTypes.bind {first : Except CompileError α} {rest : α → Except CompileError β}
    (fails : FailsByTypes first) (then_fails : ∀ a, FailsByTypes (rest a)) :
    FailsByTypes (first >>= rest) := by
  cases first with
  | error error => exact fails
  | ok a => exact then_fails a

/-- A question about members fails with the member that is not there. -/
theorem found_byTypes {answer : Option α} {member : String} :
    FailsByTypes (found answer span owner member) := by
  cases answer <;> trivial

/-- A value that is expected of a type fails by its own type, whatever it is made of. -/
theorem convertImplicit_byTypes : FailsByTypes (convertImplicit world e ty) := by
  unfold convertImplicit
  split <;> trivial

theorem convertAll_byTypes : FailsByTypes (convertAll world ty args) := by
  induction args with
  | nil => trivial
  | cons e args ih => exact convertImplicit_byTypes.bind fun _ => ih.bind fun _ => trivial

theorem applySign_byTypes {sign : Token} : FailsByTypes (applySign sign e) := by
  unfold applySign
  split <;> trivial

/-- An operator fails where its operands have types that it does not take; a concatenation that finds
no method for them counts among members. -/
theorem applyOperator_byTypes {op : BinaryOp} :
    FailsByTypes (applyOperator world op left right span) := by
  unfold applyOperator
  simp only
  split
  case isTrue =>
    unfold concat
    split
    case isTrue => trivial
    case isFalse => exact found_byTypes.bind fun _ => trivial
  case isFalse =>
    split
    case isTrue => split <;> trivial
    case isFalse => split <;> trivial

theorem checkCondition_byTypes : FailsByTypes (checkCondition e) := by
  unfold checkCondition
  split <;> trivial

theorem choose_byTypes : FailsByTypes (choose world e left right) := by
  unfold choose
  split <;> trivial

theorem coalesceWith_byTypes : FailsByTypes (coalesceWith world left right span) := by
  unfold coalesceWith
  split
  case isTrue => trivial
  case isFalse => split <;> trivial

theorem testType_byTypes {op : TypeTest} : FailsByTypes (testType op e ty span place) := by
  unfold testType
  split
  case h_1 => trivial
  case h_2 => split <;> trivial

/-- A written cast fails only for the pair of types that it names. -/
theorem castWritten_byTypes : FailsByTypes (castWritten world e ty span) := by
  unfold castWritten
  simp only
  split
  case isTrue => trivial
  case isFalse => split <;> trivial

theorem callOn_byTypes : FailsByTypes (callOn world target name args span) :=
  found_byTypes.bind fun _ => trivial

theorem memberOf_byTypes : FailsByTypes (memberOf world target name span) :=
  found_byTypes.bind fun _ => trivial

theorem callStatic_byTypes : FailsByTypes (callStatic world owner name args span) :=
  found_byTypes.bind fun _ => trivial

theorem memberStatic_byTypes : FailsByTypes (memberStatic world owner name span) :=
  found_byTypes.bind fun _ => trivial

theorem callDefault_byTypes : FailsByTypes (callDefault world target name args span) := by
  unfold callDefault
  split
  case h_1 => trivial
  case h_2 => exact callStatic_byTypes

theorem single_byTypes {fault : TypingFault} : FailsByTypes (single args span fault) := by
  unfold single
  split <;> trivial

theorem checkIntegral_byTypes {fault : Ty → TypingFault} : FailsByTypes (checkIntegral e fault) := by
  unfold checkIntegral
  split <;> trivial

/-- Indexing fails where an array has not one integral index, or where there is no indexer. -/
theorem indexInto_byTypes : FailsByTypes (indexInto world target args place span) := by
  unfold indexInto
  split
  case h_1 => exact single_byTypes.bind fun _ => checkIntegral_byTypes.bind fun _ => trivial
  case h_2 => exact found_byTypes.bind fun _ => trivial

theorem addsFor_byTypes : FailsByTypes (addsFor world ty args) := by
  induction args with
  | nil => trivial
  | cons e args ih => exact found_byTypes.bind fun _ => ih.bind fun _ => trivial

/-- What is assigned in braces fails where there is no such member, or none that may be written. -/
theorem assignable_byTypes : FailsByTypes (assignable world ty name) := by
  refine found_byTypes.bind fun ref => ?_
  split <;> trivial

theorem measure_byTypes : FailsByTypes (measure ty span) := by
  unfold measure
  split <;> trivial

end Expr
end Formula
