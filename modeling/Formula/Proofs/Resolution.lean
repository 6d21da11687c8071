import Formula.Proofs.ReaderTyping

/-! The nodes of a tree that was read, each beside the question that put it together: which type the
branches of a conditional have in common, which type `??` comes to, which method or member the type of a
receiver has. The typing discipline does not say so much of these nodes. -/
namespace Formula

namespace Expr

/-- A tree is in itself, and what is in a child is in its parent. -/
inductive In (part : Expr) : Expr → Prop where
  | self : In part part
  | child {e c : Expr} (member : c ∈ e.children) (inside : In part c) : In part e

section Parts

variable {scope : Scope} {e c part : Expr} {holds : Expr → Prop}

/-- A property holds of all parts of a tree. -/
def Everywhere (holds : Expr → Prop) (e : Expr) : Prop := ∀ part, In part e → holds part

/-- What holds of a node and everywhere in its children holds everywhere in it. -/
theorem Everywhere.node (own : holds e) (parts : ∀ c ∈ e.children, Everywhere holds c) :
    Everywhere holds e := by
  intro part inside
  cases inside with
  | self => exact own
  | child member inside => exact parts _ member part inside

end Parts

/-- The parts of a node were asked about when it was put together: the branches of a conditional have a
common type, what is behind `??` fits, and the receiver has the method or the member. -/
def Resolved (world : Universe) : Expr → Prop
  | conditional info _ yes no => ∃ first second : Expr,
    yes = first.castTo info.ty ∧ no = second.castTo info.ty ∧
      world.unify first.ty second.ty = some info.ty
  | coalesce info left _ => ∃ given, coalescedType? world left.ty given = some info.ty
  | call _ method target _ => (∃ name args, world.method target.ty name args false = some method) ∨
    ∃ indexer, world.indexer target.ty = some indexer
  | member _ ref target => ∃ name, world.member target.ty name false = some ref
  | _ => True

/-- All nodes of a tree are resolved. -/
abbrev AllResolved (world : Universe) : Expr → Prop := Everywhere (Resolved world)

section Builders

variable {world : Universe} {e e' left right target receiver : Expr} {args : List Expr} {ty : Ty}
  {name sign : Token} {span place : Span}

/-- A conversion asks nothing of the world, so the operand is resolved as before. -/
theorem castTo_resolved (resolved : AllResolved world e) : AllResolved world (e.castTo ty) := by
  unfold castTo
  split
  case isTrue => exact resolved
  case isFalse => exact .node trivial (List.forall_mem_singleton.mpr resolved)

theorem convertImplicit_resolved (resolved : AllResolved world e)
    (built : convertImplicit world e ty = .ok e') : AllResolved world e' := by
  unfold convertImplicit at built
  split at built
  case isTrue => cases built; exact castTo_resolved resolved
  case isFalse => cases built

theorem convertAll_resolved {items : List Expr} (resolved : ∀ arg ∈ args, AllResolved world arg)
    (built : convertAll world ty args = .ok items) : ∀ item ∈ items, AllResolved world item := by
  induction args generalizing items with
  | nil => cases built; exact List.forall_mem_nil _
  | cons arg args ih =>
    obtain ⟨head, tail⟩ := List.forall_mem_cons.mp resolved
    obtain ⟨first, converted, built⟩ := except_then.mp built
    obtain ⟨others, rest, built⟩ := except_then.mp built
    cases built
    exact List.forall_mem_cons.mpr ⟨convertImplicit_resolved head converted, ih tail rest⟩

theorem applySign_resolved (resolved : AllResolved world e) (built : applySign sign e = .ok e') :
    AllResolved world e' := by
  unfold applySign at built
  split at built
  case h_1 => cases built; exact resolved
  case h_2 => cases built; exact .node trivial (List.forall_mem_singleton.mpr resolved)
  case h_3 => cases built

/-- Two operands that are resolved. -/
private theorem operands_resolved (first : AllResolved world left) (second : AllResolved world right) :
    ∀ c ∈ [left, right], AllResolved world c :=
  List.forall_mem_cons.mpr ⟨first, List.forall_mem_singleton.mpr second⟩

/-- Operands that are resolved stay so under whatever an operator converts them to. -/
theorem applyOperator_resolved {op : BinaryOp} (first : AllResolved world left)
    (second : AllResolved world right) (built : applyOperator world op left right place = .ok e) :
    AllResolved world e := by
  unfold applyOperator at built
  simp only at built
  split at built
  case isTrue =>
    unfold concat at built
    split at built
    case isTrue => cases built
    case isFalse =>
      obtain ⟨method, -, built⟩ := except_then.mp built
      cases built
      exact .node trivial (operands_resolved (castTo_resolved first) (castTo_resolved second))
  case isFalse =>
    split at built
    case isTrue =>
      split at built
      case isTrue => cases built; exact .node trivial (operands_resolved first second)
      case isFalse => cases built
    case isFalse =>
      split at built
      case h_1 =>
        cases built
        exact .node trivial (operands_resolved (castTo_resolved first) (castTo_resolved second))
      case h_2 => cases built

/-- A conditional remembers the types that its branches had before they were converted to the common
one. -/
theorem choose_resolved {test yes no : Expr} (truth : AllResolved world test)
    (first : AllResolved world yes) (second : AllResolved world no)
    (built : choose world test yes no = .ok e) : AllResolved world e := by
  unfold choose at built
  split at built
  case h_1 ty common =>
    cases built
    apply Everywhere.node
    · exact ⟨yes, no, rfl, rfl, common⟩
    · exact List.forall_mem_cons.mpr
        ⟨truth, operands_resolved (castTo_resolved first) (castTo_resolved second)⟩
  case h_2 => cases built

theorem coalesceWith_resolved (first : AllResolved world left) (second : AllResolved world right)
    (built : coalesceWith world left right place = .ok e) : AllResolved world e := by
  unfold coalesceWith at built
  split at built
  case isTrue => cases built
  case isFalse =>
    split at built
    case h_1 ty coalesced =>
      cases built
      exact .node ⟨right.ty, coalesced⟩ (operands_resolved first (castTo_resolved second))
    case h_2 => cases built

theorem testType_resolved {op : TypeTest} (resolved : AllResolved world e)
    (built : testType op e ty place span = .ok e') : AllResolved world e' := by
  have tested : ∀ info op, AllResolved world (typeTest info op ty e) :=
    fun _ _ => .node trivial (List.forall_mem_singleton.mpr resolved)
  unfold testType at built
  split at built
  case h_1 => cases built; exact tested _ _
  case h_2 =>
    split at built
    case isTrue => cases built; exact tested _ _
    case isFalse => cases built

theorem castWritten_resolved (resolved : AllResolved world e)
    (built : castWritten world e ty span = .ok e') : AllResolved world e' := by
  unfold castWritten at built
  simp only at built
  split at built
  case isTrue => cases built
  case isFalse =>
    split at built
    case isTrue => cases built; exact resolved
    case isFalse => cases built; exact .node trivial (List.forall_mem_singleton.mpr resolved)

/-- A call on a target is one that the type of the target has a method for. -/
theorem callOn_resolved (resolved : AllResolved world target)
    (given : ∀ arg ∈ args, AllResolved world arg)
    (built : callOn world target name args span = .ok e) : AllResolved world e := by
  obtain ⟨method, found, built⟩ := except_then.mp built
  cases built
  exact .node (.inl ⟨_, _, Reader.found_ok.mp found⟩) (List.forall_mem_cons.mpr ⟨resolved, given⟩)

theorem memberOf_resolved (resolved : AllResolved world target)
    (built : memberOf world target name span = .ok e) : AllResolved world e := by
  obtain ⟨ref, found, built⟩ := except_then.mp built
  cases built
  exact .node ⟨_, Reader.found_ok.mp found⟩ (List.forall_mem_singleton.mpr resolved)

theorem callStatic_resolved (given : ∀ arg ∈ args, AllResolved world arg)
    (built : callStatic world ty name args span = .ok e) : AllResolved world e := by
  obtain ⟨method, -, built⟩ := except_then.mp built
  cases built
  exact .node trivial given

theorem memberStatic_resolved (built : memberStatic world ty name span = .ok e) :
    AllResolved world e := by
  obtain ⟨ref, -, built⟩ := except_then.mp built
  cases built
  exact .node trivial (List.forall_mem_nil _)

theorem callDefault_resolved (resolved : AllResolved world receiver)
    (given : ∀ arg ∈ args, AllResolved world arg)
    (built : callDefault world receiver name args span = .ok e) : AllResolved world e := by
  unfold callDefault at built
  split at built
  case h_1 method found =>
    cases built
    exact .node (.inl ⟨_, _, found⟩) (List.forall_mem_cons.mpr ⟨resolved, given⟩)
  case h_2 => exact callStatic_resolved given built

theorem memberDefault_resolved (resolved : AllResolved world receiver)
    (built : memberDefault? world receiver name = some e) : AllResolved world e := by
  unfold memberDefault? at built
  split at built
  case h_1 ref found =>
    cases built
    exact .node ⟨_, found⟩ (List.forall_mem_singleton.mpr resolved)
  case h_2 =>
    obtain ⟨ref, -, same⟩ := Option.map_eq_some_iff.mp built
    cases same
    exact .node trivial (List.forall_mem_nil _)

/-- An index of anything but an array is a call of the indexer of its type. -/
theorem indexInto_resolved (resolved : AllResolved world target)
    (given : ∀ arg ∈ args, AllResolved world arg)
    (built : indexInto world target args place span = .ok e) : AllResolved world e := by
  unfold indexInto at built
  split at built
  case h_1 =>
    obtain ⟨position, one, built⟩ := except_then.mp built
    obtain ⟨⟨⟩, -, built⟩ := except_then.mp built
    cases built
    rw [Reader.single_ok.mp one, List.forall_mem_singleton] at given
    exact .node trivial (operands_resolved resolved given)
  case h_2 =>
    obtain ⟨indexer, found, built⟩ := except_then.mp built
    cases built
    obtain ⟨isIndexer, -⟩ := Option.filter_eq_some_iff.mp (Reader.found_ok.mp found)
    exact .node (.inr ⟨indexer, isIndexer⟩) (List.forall_mem_cons.mpr ⟨resolved, given⟩)

theorem measure_resolved (built : measure ty span = .ok e) : AllResolved world e := by
  unfold measure at built
  split at built
  case isTrue => cases built; exact .node trivial (List.forall_mem_nil _)
  case isFalse => cases built

end Builders
end Expr

namespace Reader
open Formula.Expr

theorem parameter_resolved {world : Universe} {param : Parameter} {span : Span} :
    AllResolved world (parameterNode param span) :=
  .node (e := parameterNode param span) trivial (List.forall_mem_nil _)

/-- What a derivation of a part says about the nodes of trees. -/
def Part.Resolved (world : Universe) : (part : Part) → part.Result → Prop
  | .expression _ _, e | .operand _, e => AllResolved world e
  | .operators _ _ left, e | .operator _ _ left, e => AllResolved world left → AllResolved world e
  | .arguments _, args | .items _, args | .givens, args => ∀ arg ∈ args, AllResolved world arg
  | .assignments _, steps => ∀ step ∈ steps, AllResolved world step.2
  | .initializer _, (_, values) => ∀ value ∈ values, AllResolved world value

/-- Whatever is read is resolved, part by part. -/
theorem Reads.resolved {scope : Scope} {part : Part} {s t : Stream} {result : part.Result}
    (reads : Reads scope part s result t) : Part.Resolved scope.world part result := by
  induction reads with
  | expression _ _ first more => exact more first
  | literal _ | typeOf _ _ _ _ => exact .node trivial (List.forall_mem_nil _)
  | parameter _ _ => exact parameter_resolved
  | cast _ _ _ built operand => exact castWritten_resolved operand built
  | group _ _ _ _ inner => exact inner
  | sign _ _ built operand => exact applySign_resolved operand built
  | arrayItems _ _ _ _ built given => exact .node trivial (convertAll_resolved given built)
  | arrayLength _ _ _ _ _ _ given => exact .node trivial given
  | create _ _ _ _ _ _ given filled =>
    exact .node trivial fun c member => (List.mem_append.mp member).elim (given c) (filled c)
  | sizeOf _ _ _ _ built => exact measure_resolved built
  | defaultCall _ _ _ _ _ built given => exact callDefault_resolved parameter_resolved given built
  | defaultMember _ _ _ _ built => exact memberDefault_resolved parameter_resolved built
  | staticCall _ _ _ _ _ _ built given => exact callStatic_resolved given built
  | staticMember _ _ _ _ _ built => exact memberStatic_resolved built
  | done _ => exact id
  | more _ _ _ first rest => exact fun left => rest (first left)
  | memberCall _ _ _ _ built given => exact fun left => callOn_resolved left given built
  | member _ _ _ built => exact fun left => memberOf_resolved left built
  | index _ _ built given => exact fun left => indexInto_resolved left given built
  | conditional _ _ _ _ _ built yes no => exact fun test => choose_resolved test yes no built
  | coalesce _ _ built right => exact fun left => coalesceWith_resolved left right built
  | typeTest _ _ built => exact fun left => testType_resolved left built
  | binary _ _ built right => exact fun left => applyOperator_resolved left right built
  | noArguments _ _ | noGivens _ | noInitializer _ => exact List.forall_mem_nil _
  | arguments _ _ _ items | givens _ _ items | adds _ _ _ _ items => exact items
  | lastItem _ _ item => exact List.forall_mem_singleton.mpr item
  | nextItem _ _ _ item others => exact List.forall_mem_cons.mpr ⟨item, others⟩
  | members _ _ _ _ steps =>
    intro value member
    obtain ⟨step, inside, rfl⟩ := List.mem_map.mp member
    exact steps step inside
  | lastAssignment _ _ _ _ built _ value | trailingComma _ _ _ _ built _ _ value =>
    exact List.forall_mem_singleton.mpr (convertImplicit_resolved value built)
  | nextAssignment _ _ _ _ built _ _ _ value rest =>
    exact List.forall_mem_cons.mpr ⟨convertImplicit_resolved value built, rest⟩

end Reader

section Discipline

variable {scope : Scope} {e c part : Expr}

/-- The children of a well-typed node are well typed. -/
theorem WellTyped.child (typed : WellTyped scope e) (member : c ∈ e.children) :
    WellTyped scope c := by
  cases typed <;> simp only [Expr.children, List.mem_cons, List.mem_append, List.not_mem_nil,
    or_false] at member
  case unary operand _ => exact member ▸ operand
  case cast operand _ _ => exact member ▸ operand
  case is operand => exact member ▸ operand
  case as operand _ => exact member ▸ operand
  case member target _ => exact member ▸ target
  case newArray length _ _ => exact member ▸ length
  case binary left right _ => exact member.elim (· ▸ left) (· ▸ right)
  case coalesce left right _ _ => exact member.elim (· ▸ left) (· ▸ right)
  case index target position _ _ => exact member.elim (· ▸ target) (· ▸ position)
  case conditional test yes no _ _ _ =>
    exact member.elim (· ▸ test) (Or.elim · (· ▸ yes) (· ▸ no))
  case staticCall operands _ _ => exact operands c member
  case call target operands _ _ => exact member.elim (· ▸ target) (operands c)
  case create operands _ contents _ => exact member.elim (operands c) (contents c)
  case arrayOf contents _ => exact contents c member

theorem WellTyped.inside (typed : WellTyped scope e) (inside : part.In e) : WellTyped scope part := by
  induction inside with
  | self => exact typed
  | child member _ ih => exact ih (typed.child member)


end Discipline
end Formula
