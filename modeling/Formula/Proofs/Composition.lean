import Formula.Proofs.Resolution

/-! What the nodes of a tree are made of, and where building one fails. Every way of building puts
its operands into the node in the order in which they are given, each as it is or converted, and a
failure is blamed on one of few places. What fills a new object is put into a node by the reader
alone. -/
namespace Formula.Expr

/-- An expression as it enters a node: as it is, or converted to another type. -/
inductive Enters (e : Expr) : Expr → Prop where
  | same : Enters e e
  | cast {ty : Ty} : Enters e (.cast ⟨ty, e.span⟩ e)

/-- What is done with the values in the braces behind a creation; nothing where there are none. -/
def filling : Expr → Initializer
  | create _ _ _ init _ => init
  | _ => .none

/-- A node with a span, into which operands enter in their order and which fills no new object. -/
structure Made (operands : List Expr) (span : Span) (e : Expr) : Prop where
  spanned : e.span = span
  entered : List.Forall₂ Enters operands e.children
  plain : e.filling = .none

/-- Building a node of some operands, or the only operand itself; if it fails, then at one of some
places. -/
def Builds (operands : List Expr) (span : Span) (blamed : List Span) :
    Except CompileError Expr → Prop
  | .ok e => Made operands span e ∨ operands = [e]
  | .error error => error.span ∈ blamed

/-- Every failure is at one of some places. -/
def FailsAt {α : Type} (blamed : List Span) : Except CompileError α → Prop
  | .ok _ => True
  | .error error => error.span ∈ blamed

section Parts

variable {holds : Expr → Prop} {e c : Expr}

theorem Everywhere.own (everywhere : Everywhere holds e) : holds e := everywhere e .self

/-- What holds everywhere in a node holds everywhere in each child. -/
theorem Everywhere.child (everywhere : Everywhere holds e) (member : c ∈ e.children) :
    Everywhere holds c :=
  fun part inside => everywhere part (.child member inside)

/-- What a conversion keeps holds everywhere in an operand however it enters a node. -/
theorem Enters.everywhere (enters : Enters e c)
    (keeps : ∀ e ty, holds e → holds (.cast ⟨ty, e.span⟩ e)) (everywhere : Everywhere holds e) :
    Everywhere holds c := by
  cases enters with
  | same => exact everywhere
  | cast => exact .node (keeps e _ everywhere.own) (List.forall_mem_singleton.mpr everywhere)

theorem entered_everywhere {operands items : List Expr}
    (entered : List.Forall₂ Enters operands items)
    (keeps : ∀ e ty, holds e → holds (.cast ⟨ty, e.span⟩ e))
    (everywhere : ∀ operand ∈ operands, Everywhere holds operand) :
    ∀ item ∈ items, Everywhere holds item := by
  induction entered with
  | nil => exact List.forall_mem_nil _
  | cons enters _ ih =>
    obtain ⟨first, others⟩ := List.forall_mem_cons.mp everywhere
    exact List.forall_mem_cons.mpr ⟨enters.everywhere keeps first, ih others⟩

end Parts

section Builders

variable {world : Universe} {e left right test yes no target receiver : Expr} {args : List Expr}
  {ty : Ty} {name sign : Token} {span place opening : Span} {blamed : List Span}
  {operands : List Expr} {result : Except CompileError Expr} {fault : TypingFault} {α : Type}

theorem Enters.span_eq {c : Expr} (enters : Enters e c) : c.span = e.span := by
  cases enters <;> rfl

/-- Operands enter a node with their spans. -/
theorem entered_spans {items : List Expr} (entered : List.Forall₂ Enters operands items) :
    items.map (·.span) = operands.map (·.span) := by
  induction entered with
  | nil => rfl
  | cons enters _ ih => rw [List.map_cons, List.map_cons, enters.span_eq, ih]

/-- A conversion puts one cast around an operand, or none. -/
theorem castTo_enters : Enters e (e.castTo ty) := by
  unfold castTo
  split
  case isTrue => exact .same
  case isFalse => exact .cast

theorem enters_all (args : List Expr) : List.Forall₂ Enters args args :=
  List.forall₂_same.mpr fun _ _ => .same

theorem Builds.fails (builds : Builds operands span blamed result) : FailsAt blamed result := by
  cases result with
  | ok e => trivial
  | error error => exact builds

theorem FailsAt.mono {others : List Span} {result : Except CompileError α}
    (fails : FailsAt blamed result) (among : blamed ⊆ others) : FailsAt others result := by
  cases result with
  | ok a => trivial
  | error error => exact among fails

/-- Steps put together fail at one of the places where each of them may. -/
theorem FailsAt.bind {β : Type} {first : Except CompileError α} {rest : α → Except CompileError β}
    (fails : FailsAt blamed first) (others : ∀ a, FailsAt blamed (rest a)) :
    FailsAt blamed (first >>= rest) := by
  cases first with
  | ok a => exact others a
  | error error => exact fails

theorem mistyped_fails : FailsAt [place] (mistyped place fault : Except CompileError α) :=
  List.mem_singleton.mpr rfl

theorem found_fails {answer : Option α} {owner : Ty} {member : String} :
    FailsAt [place] (found answer place owner member) := by
  cases answer with
  | some ref => trivial
  | none => exact List.mem_singleton.mpr rfl

/-- What is built from the answer to a question about members fails also where the answer is that
there are none. -/
theorem Builds.found {answer : Option α} {owner : Ty} {member : String}
    {build : α → Except CompileError Expr} (listed : place ∈ blamed)
    (builds : ∀ ref, Builds operands span blamed (build ref)) :
    Builds operands span blamed (Expr.found answer place owner member >>= build) := by
  cases answer with
  | some ref => exact builds ref
  | none => exact listed

/-- A sign before an operand is one node over both, or the operand itself where it changes nothing;
the sign is to blame. -/
theorem applySign_builds :
    Builds [e] (sign.span.join e.span) [sign.span] (applySign sign e) := by
  unfold applySign
  split
  case h_1 => exact .inr rfl
  case h_2 => exact .inl ⟨rfl, enters_all _, rfl⟩
  case h_3 => exact List.mem_singleton.mpr rfl

/-- Whichever operands it takes them for, an operator makes one node over the two, possibly
converted; its place is to blame. -/
theorem applyOperator_builds :
    Builds [left, right] (left.span.join right.span) [place]
      (applyOperator world op left right place) := by
  have converted (first second : Ty) :
      List.Forall₂ Enters [left, right] [left.castTo first, right.castTo second] :=
    .cons castTo_enters (.cons castTo_enters .nil)
  have blame : place ∈ [place] := List.mem_singleton.mpr rfl
  unfold applyOperator
  simp only
  split
  case isTrue =>
    unfold concat
    split
    case isTrue => exact blame
    case isFalse => exact .found blame fun method => .inl ⟨rfl, converted _ _, rfl⟩
  case isFalse =>
    split
    case isTrue =>
      split
      case isTrue => exact .inl ⟨rfl, enters_all _, rfl⟩
      case isFalse => exact blame
    case isFalse =>
      split
      case h_1 => exact .inl ⟨rfl, converted _ _, rfl⟩
      case h_2 => exact blame

/-- A conditional spans from its condition to its second branch, and if the branches have no common
type, both are to blame. -/
theorem choose_builds :
    Builds [test, yes, no] (test.span.join no.span) [yes.span.join no.span]
      (choose world test yes no) := by
  unfold choose
  split
  case h_1 => exact .inl ⟨rfl, .cons .same (.cons castTo_enters (.cons castTo_enters .nil)), rfl⟩
  case h_2 => exact List.mem_singleton.mpr rfl

/-- The operands of ?? enter a node that spans both; its place is to blame. -/
theorem coalesceWith_builds :
    Builds [left, right] (left.span.join right.span) [place]
      (coalesceWith world left right place) := by
  unfold coalesceWith
  split
  case isTrue => exact List.mem_singleton.mpr rfl
  case isFalse =>
    split
    case h_1 => exact .inl ⟨rfl, .cons .same (.cons castTo_enters .nil), rfl⟩
    case h_2 => exact List.mem_singleton.mpr rfl

theorem testType_builds {op : TypeTest} :
    Builds [e] span [place] (testType op e ty place span) := by
  unfold testType
  split
  case h_1 => exact .inl ⟨rfl, enters_all _, rfl⟩
  case h_2 =>
    split
    case isTrue => exact .inl ⟨rfl, enters_all _, rfl⟩
    case isFalse => exact List.mem_singleton.mpr rfl

theorem castWritten_builds :
    Builds [e] (opening.join e.span) [opening.join e.span] (castWritten world e ty opening) := by
  unfold castWritten
  simp only
  split
  case isTrue => exact List.mem_singleton.mpr rfl
  case isFalse =>
    split
    case isTrue => exact .inr rfl
    case isFalse => exact .inl ⟨rfl, enters_all _, rfl⟩

/-- A call holds its target and its arguments in this order; its name is to blame. -/
theorem callOn_builds :
    Builds (target :: args) span [name.span] (callOn world target name args span) :=
  .found (List.mem_singleton.mpr rfl) fun _ => .inl ⟨rfl, enters_all _, rfl⟩

theorem memberOf_builds : Builds [target] span [name.span] (memberOf world target name span) :=
  .found (List.mem_singleton.mpr rfl) fun _ => .inl ⟨rfl, enters_all _, rfl⟩

theorem callStatic_builds :
    Builds args span [name.span] (callStatic world ty name args span) :=
  .found (List.mem_singleton.mpr rfl) fun _ => .inl ⟨rfl, enters_all _, rfl⟩

theorem memberStatic_builds : Builds [] span [name.span] (memberStatic world ty name span) :=
  .found (List.mem_singleton.mpr rfl) fun _ => .inl ⟨rfl, .nil, rfl⟩

/-- A call without a target is made on the default instance, which then is the first operand, or on
the type of it, and then there is none. -/
theorem callDefault_builds :
    Builds (receiver :: args) span [name.span] (callDefault world receiver name args span) ∨
      Builds args span [name.span] (callDefault world receiver name args span) := by
  unfold callDefault
  split
  case h_1 => exact .inl (.inl ⟨rfl, enters_all _, rfl⟩)
  case h_2 => exact .inr callStatic_builds

theorem memberDefault_made (built : memberDefault? world receiver name = some e) :
    Made [receiver] name.span e ∨ Made [] name.span e := by
  unfold memberDefault? at built
  split at built
  case h_1 =>
    cases built
    exact .inl ⟨rfl, enters_all _, rfl⟩
  case h_2 =>
    obtain ⟨ref, -, rfl⟩ := Option.map_eq_some_iff.mp built
    exact .inr ⟨rfl, .nil, rfl⟩

/-- An index holds the target and then what is in the brackets. The bracket is to blame, or an index
that is no integer. -/
theorem indexInto_builds :
    Builds (target :: args) span (place :: args.map (·.span))
      (indexInto world target args place span) := by
  have blame : place ∈ place :: args.map (·.span) := List.mem_cons_self
  unfold indexInto
  split
  case h_1 element isArray =>
    match args with
    | [position] =>
      change Builds _ _ _ (checkIntegral position .indexType >>= fun _ => .ok _)
      unfold checkIntegral
      split
      case isTrue => exact .inl ⟨rfl, enters_all _, rfl⟩
      case isFalse => exact List.mem_cons_of_mem _ (List.mem_singleton.mpr rfl)
    | [] | _ :: _ :: _ => exact blame
  case h_2 => exact .found blame fun _ => .inl ⟨rfl, enters_all _, rfl⟩

theorem measure_builds : Builds [] span [span] (measure ty span) := by
  unfold measure
  split
  case isTrue => exact .inl ⟨rfl, .nil, rfl⟩
  case isFalse => exact List.mem_singleton.mpr rfl

theorem convertImplicit_enters {converted : Expr}
    (built : convertImplicit world e ty = .ok converted) : Enters e converted := by
  unfold convertImplicit at built
  split at built
  case isTrue =>
    cases built
    exact castTo_enters
  case isFalse => cases built

theorem convertImplicit_fails : FailsAt [e.span] (convertImplicit world e ty) := by
  unfold convertImplicit
  split
  case isTrue => trivial
  case isFalse => exact mistyped_fails

theorem convertAll_enters {items : List Expr} (built : convertAll world ty args = .ok items) :
    List.Forall₂ Enters args items := by
  induction args generalizing items with
  | nil =>
    cases built
    exact .nil
  | cons arg args ih =>
    obtain ⟨first, converted, built⟩ := except_then.mp built
    obtain ⟨others, rest, same⟩ := except_then.mp built
    cases same
    exact .cons (convertImplicit_enters converted) (ih rest)

/-- Among items the one that does not convert is to blame. -/
theorem convertAll_fails : FailsAt (args.map (·.span)) (convertAll world ty args) := by
  induction args with
  | nil => trivial
  | cons arg args ih =>
    exact .bind (convertImplicit_fails.mono (by simp))
      fun _ => .bind (ih.mono (List.subset_cons_self _ _)) fun _ => trivial

theorem addsFor_fails : FailsAt (args.map (·.span)) (addsFor world ty args) := by
  induction args with
  | nil => trivial
  | cons arg args ih =>
    exact .bind (found_fails.mono (by simp))
      fun _ => .bind (ih.mono (List.subset_cons_self _ _)) fun _ => trivial

theorem assignable_fails : FailsAt [name.span] (assignable world ty name) := by
  refine .bind found_fails fun ref => ?_
  split
  case isTrue => exact mistyped_fails
  case isFalse => trivial

theorem checkCondition_fails : FailsAt [test.span] (checkCondition test) := by
  unfold checkCondition
  split
  case isTrue => trivial
  case isFalse => exact mistyped_fails

theorem checkIntegral_fails {fault : Ty → TypingFault} :
    FailsAt [e.span] (checkIntegral e fault) := by
  unfold checkIntegral
  split
  case isTrue => trivial
  case isFalse => exact mistyped_fails

theorem single_fails : FailsAt [place] (single args place fault) := by
  unfold single
  split
  case h_1 => trivial
  case h_2 => exact mistyped_fails

end Builders

end Formula.Expr
