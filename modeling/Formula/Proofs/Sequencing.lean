import Formula.Proofs.Invocations

/-! The order in which a node does what it does. A plan is what evaluating one node comes to, with
its subexpressions left to be evaluated: which of them is visited next, which callable is called, and
how what follows depends on the values so far. Evaluating a node is carrying out its plan, so what is
read off the plan holds of the evaluation: subexpressions are visited in the order in which they are
listed among the children, each once, and nothing happens after a failure. -/
namespace Formula.Expr

/-- What is left to do at a node. -/
inductive Plan where
  /-- Nothing is left: the node has an outcome. -/
  | settle (outcome : Except RuntimeError Value)
  /-- A subexpression is evaluated. -/
  | visit (child : Expr) (goOn : Value → Plan)
  /-- A callable of the node is called. -/
  | call (native : Native) (given : Call) (goOn : Value → Plan)
  /-- An array is made, and that is all. -/
  | array (element : Ty) (items : List Value)

namespace Plan

/-- What is left once an outcome is known: nothing, if that is a failure. -/
def known {α : Type} (outcome : Except RuntimeError α) (goOn : α → Plan) : Plan :=
  match outcome with
  | .ok a => goOn a
  | .error error => settle (.error error)

/-- Visits expressions from left to right. -/
def visitAll : List Expr → (List Value → Plan) → Plan
  | [], goOn => goOn []
  | expr :: rest, goOn => visit expr fun value => visitAll rest fun values => goOn (value :: values)

/-- Visits the values of an initializer from left to right and hands each to the new object before
the next is visited. -/
def handAll (object : Value) : List Step → List Expr → Plan → Plan
  | step :: steps, expr :: rest, goOn => visit expr fun value =>
    match step.native with
    | some native => call native ⟨some object, [value], step.owner⟩ fun _ =>
      handAll object steps rest goOn
    | none => settle (.error (.native (.other s!"'{step.name}' cannot be assigned")))
  | _, _, goOn => goOn

/-- Carries a plan out. -/
def run (args : List Value) : Plan → Run Value
  | settle outcome => Action.ofExcept outcome
  | visit child goOn => do
    let value ← eval args child
    (goOn value).run args
  | call native given goOn => do
    let value ← callNative native given.this given.args given.declaring
    (goOn value).run args
  | array element items => Action.newArray element items

end Plan

/-- The plan of a node. -/
def plan (args : List Value) : Expr → Plan
  | literal _ value => .settle (.ok value)
  | parameter _ ordinal _ => .settle (argumentAt args ordinal)
  | unary _ op operand => .visit operand fun value => .settle (value.operateUnary op)
  | binary _ op left right =>
    match Value.operate? op with
    | some compute => .visit left fun a => .visit right fun b => .settle (compute a b)
    | none => .visit left fun a => .known a.truth fun x =>
      if x == (op == .or) then .settle (.ok (.bool x))
      else .visit right fun b => .known b.truth fun y => .settle (.ok (.bool y))
  | conditional _ test yes no => .visit test fun value => .known value.truth fun x =>
    .visit (if x then yes else no) fun chosen => .settle (.ok chosen)
  | coalesce info left right => .visit left fun value =>
    if value.isNull then .visit right fun other => .settle (.ok other)
    else .settle (value.cast left.ty info.ty)
  | staticCall _ method operands => .visitAll operands fun values =>
    .call method.native ⟨none, values, method.owner⟩ fun value => .settle (.ok value)
  | call _ method target operands => .visit target fun this =>
    .known (checkReceiver target.ty (.calling method.name) this) fun this =>
      .visitAll operands fun values =>
        .call method.native ⟨some this, values, method.owner⟩ fun value => .settle (.ok value)
  | staticMember _ ref => .call ref.getter ⟨none, [], ref.owner⟩ fun value => .settle (.ok value)
  | member _ ref target => .visit target fun this =>
    .known (checkReceiver target.ty (.reading ref.name) this) fun this =>
      .call ref.getter ⟨some this, [], ref.owner⟩ fun value => .settle (.ok value)
  | index _ target position => .visit target fun array =>
    .known (checkReceiver target.ty .indexing array) fun array =>
      .known (itemsOf array) fun items =>
        .visit position fun at_ => .settle (itemAt items at_)
  | create _ ref operands init values => .visitAll operands fun given =>
    .call ref.native ⟨none, given, ref.ty⟩ fun object =>
      .handAll object (steps init) values (.settle (.ok object))
  | newArray _ element length => .visit length fun value =>
    .known (lengthOf value) fun count =>
      .array element (List.replicate count (Value.defaultOf element))
  | arrayOf _ element items => .visitAll items fun values => .array element values
  | cast info operand => .visit operand fun value => .settle (value.cast operand.ty info.ty)
  | typeOf _ ty => .settle (.ok (.type ty))
  | sizeOf _ ty => .settle (sizeValue ty)
  | typeTest _ op target operand => .visit operand fun value =>
    .settle (.ok (testValue op value target))

section Running

variable {α : Type} {args : List Value} {store last : Store} {goOn : Value → Plan}

namespace Plan

theorem run_known (outcome : Except RuntimeError α) (goOn : α → Plan) :
    (known outcome goOn).run args = (do
      let a ← Action.ofExcept outcome
      (goOn a).run args) := by
  cases outcome <;> rfl

theorem run_visitAll (operands : List Expr) (goOn : List Value → Plan) :
    (visitAll operands goOn).run args = (do
      let values ← evalAll args operands
      (goOn values).run args) := by
  induction operands generalizing goOn with
  | nil =>
    rw [visitAll, evalAll]
    rfl
  | cons expr rest ih =>
    rw [visitAll, run, evalAll]
    simp only [ih, bind_assoc, pure_bind]

theorem run_handAll (object : Value) (todo : List Step) (values : List Expr) (goOn : Plan) :
    (handAll object todo values goOn).run args = (do
      evalSteps args object todo values
      goOn.run args) := by
  induction todo generalizing values with
  | nil =>
    rw [handAll, evalSteps]
    · rfl
    · simp
    · simp
  | cons step todo ih =>
    cases values with
    | nil =>
      rw [handAll, evalSteps]
      · rfl
      · simp
      · simp
    | cons expr rest =>
      rw [handAll, run, evalSteps]
      simp only [bind_assoc]
      refine bind_congr fun value => ?_
      unfold takeStep
      cases step.native with
      | none => rfl
      | some native =>
        have dropped : (discard (callNative native (some object) [value] step.owner) : Run Unit) =
            (do
              let _ ← callNative native (some object) [value] step.owner
              return ()) := rfl
        simp only [run, ih, dropped, bind_assoc, pure_bind]

end Plan

/-- Evaluating a node is carrying out its plan. -/
theorem eval_plan (args : List Value) (e : Expr) : eval args e = (plan args e).run args := by
  cases e with
  | literal | parameter | typeOf | sizeOf | unary | cast | typeTest =>
    rw [eval, plan]
    rfl
  | binary info op left right =>
    rw [plan]
    cases computes : Value.operate? op with
    | some compute =>
      rw [eval_computed computes]
      rfl
    | none =>
      rw [eval_logical computes, Plan.run]
      refine bind_congr fun a => ?_
      rw [Plan.run_known]
      refine bind_congr fun x => ?_
      split
      case isTrue => rfl
      case isFalse =>
        rw [Plan.run]
        refine bind_congr fun b => ?_
        rw [Plan.run_known]
        rfl
  | conditional info test yes no =>
    rw [eval, plan, Plan.run]
    refine bind_congr fun value => ?_
    rw [Plan.run_known]
    refine bind_congr fun x => ?_
    cases x <;> exact (bind_pure _).symm
  | coalesce info left right =>
    rw [eval, plan, Plan.run]
    refine bind_congr fun value => ?_
    split
    case isTrue => exact (bind_pure _).symm
    case isFalse => rfl
  | staticCall info method operands =>
    rw [eval, plan, Plan.run_visitAll]
    refine bind_congr fun values => ?_
    exact (bind_pure _).symm
  | call info method target operands =>
    rw [eval, plan, Plan.run]
    refine bind_congr fun this => ?_
    rw [Plan.run_known]
    refine bind_congr fun this => ?_
    rw [Plan.run_visitAll]
    refine bind_congr fun values => ?_
    exact (bind_pure _).symm
  | staticMember info ref =>
    rw [eval, plan]
    exact (bind_pure _).symm
  | member info ref target =>
    rw [eval, plan, Plan.run]
    refine bind_congr fun this => ?_
    rw [Plan.run_known]
    refine bind_congr fun this => ?_
    exact (bind_pure _).symm
  | index info target position =>
    rw [eval, plan, Plan.run]
    refine bind_congr fun array => ?_
    rw [Plan.run_known]
    refine bind_congr fun array => ?_
    rw [Plan.run_known]
    rfl
  | create info ref operands init values =>
    rw [eval, plan, Plan.run_visitAll]
    refine bind_congr fun given => ?_
    rw [Plan.run]
    refine bind_congr fun object => ?_
    rw [Plan.run_handAll]
    rfl
  | newArray info element length =>
    rw [eval, plan, Plan.run]
    refine bind_congr fun value => ?_
    rw [Plan.run_known]
    rfl
  | arrayOf info element items =>
    rw [eval, plan, Plan.run_visitAll]
    rfl

end Running

/-- What a node does one after another. -/
inductive Deed where
  | child (e : Expr)
  | called (native : Native) (given : Call)
  | array (element : Ty) (items : List Value)

/-- Something done, and the store that it meets. -/
structure Event where
  deed : Deed
  store : Store

/-- Does one thing. -/
def Deed.run (args : List Value) : Deed → Run Value
  | child e => eval args e
  | called native given => callNative native given.this given.args given.declaring
  | array element items => Action.newArray element items

/-- The subexpression that is evaluated, if it is one. -/
def Deed.child? : Deed → Option Expr
  | child e => some e
  | _ => none

/-- What carrying out a plan does. -/
def Plan.events (args : List Value) : Plan → Store → List Event
  | settle _, _ => []
  | visit child goOn, store =>
    ⟨.child child, store⟩ :: afterOk (eval args child store) fun value after =>
      (goOn value).events args after
  | call native given goOn, store =>
    ⟨.called native given, store⟩ ::
      afterOk (callNative native given.this given.args given.declaring store) fun value after =>
        (goOn value).events args after
  | array element items, store => [⟨.array element items, store⟩]

/-- What evaluating a node does. -/
def events (args : List Value) (e : Expr) (store : Store) : List Event :=
  (plan args e).events args store

/-- The subexpressions whose evaluation starts, in that order. -/
def started (events : List Event) : List Expr := events.filterMap (·.deed.child?)

/-- Events hand the store from each to the next. The first that fails is the last, and its outcome
is that of the whole; where none fails, the outcome is found without a change of the store. -/
inductive Threads (args : List Value) :
    Store → List Event → Except RuntimeError Value × Store → Prop where
  | settled {outcome : Except RuntimeError Value} : Threads args store [] (outcome, store)
  | failed (deed : Deed) (ran : deed.run args store = (.error error, after)) :
      Threads args store [⟨deed, store⟩] (.error error, after)
  | went (deed : Deed) {events : List Event} (ran : deed.run args store = (.ok value, after))
      (rest : Threads args after events last) :
      Threads args store (⟨deed, store⟩ :: events) last

/-- The ways to go through the subexpressions of a node. -/
def courses : Expr → List (List Expr)
  | conditional _ test yes no => [[test, yes], [test, no]]
  | e => [e.children]

/-- A node that may come to a value without its last subexpression. -/
def Shortens : Expr → Prop
  | binary _ op _ _ => op = .and ∨ op = .or
  | coalesce _ _ _ => True
  | _ => False

/-- There is something to do with each value of an initializer, as there is wherever one is read. -/
def Paired : Expr → Prop
  | create _ _ _ init values => (steps init).length = values.length
  | _ => True

/-- A plan goes through some subexpressions in their order; `whole` says that it comes to a value
only at their end. -/
inductive Plan.Visits (whole : Prop) : List Expr → Plan → Prop where
  | settle {rest : List Expr} {outcome : Except RuntimeError Value}
      (done : whole → ∀ value, outcome = .ok value → rest = []) :
      Visits whole rest (.settle outcome)
  | visit {rest : List Expr} {child : Expr} {goOn : Value → Plan}
      (more : ∀ value, Visits whole rest (goOn value)) :
      Visits whole (child :: rest) (.visit child goOn)
  | call {rest : List Expr} {native : Native} {given : Call} {goOn : Value → Plan}
      (more : ∀ value, Visits whole rest (goOn value)) : Visits whole rest (.call native given goOn)
  | array {element : Ty} {items : List Value} : Visits whole [] (.array element items)

/-- An initializer that is read has something to do with each of its values. -/
theorem paired_of_typed {scope : Scope} {e : Expr} (typed : WellTyped scope e) : e.Paired := by
  cases typed with
  | create _ _ _ filled =>
    cases filled with
    | none => rfl
    | members same => simpa [Paired, steps] using same.length_eq
    | adds same => simpa [Paired, steps] using same.length_eq
  | _ => trivial

section Events

variable {args : List Value} {store : Store} {whole : Prop} {rest : List Expr} {todo : Plan}

/-- What a plan does is threaded through the store. -/
theorem Plan.threads (todo : Plan) (store : Store) :
    Threads args store (todo.events args store) (todo.run args store) := by
  induction todo generalizing store with
  | settle outcome =>
    cases outcome <;> exact .settled
  | visit child goOn ih =>
    rw [Plan.events, Plan.run, run_bind]
    cases ran : eval args child store with
    | mk outcome after =>
      cases outcome with
      | ok value => exact .went (.child child) ran (ih value after)
      | error e => exact .failed (.child child) ran
  | call native given goOn ih =>
    rw [Plan.events, Plan.run, run_bind]
    cases ran : callNative native given.this given.args given.declaring store with
    | mk outcome after =>
      cases outcome with
      | ok value => exact .went (.called native given) ran (ih value after)
      | error e => exact .failed (.called native given) ran
  | array element items => exact .went (.array element items) rfl .settled

/-- The subexpressions that a plan visits begin those that it goes through, and are all of them if
it comes to a value. -/
theorem Plan.Visits.started (visits : Visits whole rest todo) (args : List Value)
    (store : Store) :
    started (todo.events args store) <+: rest ∧
      (whole → ∀ value, (todo.run args store).1 = .ok value →
        started (todo.events args store) = rest) := by
  induction visits generalizing store with
  | @settle rest outcome done =>
    refine ⟨List.nil_prefix, fun isWhole value ran => ?_⟩
    cases outcome with
    | ok found => exact (done isWhole found rfl).symm
    | error e => cases ran
  | @visit rest child goOn more ih =>
    rw [Plan.events, Plan.run, run_bind]
    cases ran : eval args child store with
    | mk outcome after =>
      cases outcome with
      | ok value =>
        obtain ⟨begins, all⟩ := ih value after
        refine ⟨List.cons_prefix_cons.mpr ⟨rfl, begins⟩, fun isWhole found ran => ?_⟩
        exact congrArg (child :: ·) (all isWhole found ran)
      | error e => exact ⟨List.cons_prefix_cons.mpr ⟨rfl, List.nil_prefix⟩, fun _ _ => nofun⟩
  | @call rest native given goOn more ih =>
    rw [Plan.events, Plan.run, run_bind]
    cases callNative native given.this given.args given.declaring store with
    | mk outcome after =>
      cases outcome with
      | ok value => exact ih value after
      | error e => exact ⟨List.nil_prefix, fun _ _ => nofun⟩
  | array => exact ⟨List.nil_prefix, fun _ _ _ => rfl⟩

namespace Plan

theorem Visits.known {α : Type} {outcome : Except RuntimeError α} {goOn : α → Plan}
    (more : ∀ a, Visits whole rest (goOn a)) : Visits whole rest (known outcome goOn) := by
  cases outcome with
  | ok a => exact more a
  | error e => exact .settle fun _ _ => nofun

theorem Visits.value {value : Value} : Visits whole [] (.settle (.ok value)) :=
  .settle fun _ _ _ => rfl

theorem Visits.own {outcome : Except RuntimeError Value} : Visits whole [] (.settle outcome) :=
  .settle fun _ _ _ => rfl

theorem Visits.visitAll {operands : List Expr} {goOn : List Value → Plan}
    (more : ∀ values, Visits whole rest (goOn values)) :
    Visits whole (operands ++ rest) (visitAll operands goOn) := by
  induction operands generalizing goOn with
  | nil => exact more []
  | cons expr operands ih => exact .visit fun value => ih fun values => more (value :: values)

theorem Visits.visitEvery {operands : List Expr} {goOn : List Value → Plan}
    (more : ∀ values, Visits whole [] (goOn values)) :
    Visits whole operands (Plan.visitAll operands goOn) := by
  have goes : Visits whole (operands ++ []) (Plan.visitAll operands goOn) := visitAll more
  rwa [List.append_nil] at goes

theorem Visits.handAll {object value : Value} {todo : List Step} {values : List Expr}
    (paired : whole → todo.length = values.length) :
    Visits whole values (handAll object todo values (.settle (.ok value))) := by
  induction todo generalizing values with
  | nil =>
    rw [Plan.handAll]
    · refine .settle fun isWhole _ _ => List.length_eq_zero_iff.mp (paired isWhole).symm
    · simp
  | cons step todo ih =>
    cases values with
    | nil =>
      rw [Plan.handAll]
      · exact .value
      · simp
    | cons expr rest =>
      rw [Plan.handAll]
      refine .visit fun value => ?_
      split
      case h_1 =>
        exact .call fun _ => ih fun isWhole => Nat.succ.inj (paired isWhole)
      case h_2 => exact .settle fun _ _ => nofun

end Plan

/-- A node that has one course goes through its subexpressions. -/
theorem plan_visits (args : List Value) (e : Expr) (oneWay : e.courses = [e.children]) :
    Plan.Visits (e.Paired ∧ ¬ e.Shortens) e.children (plan args e) := by
  cases e with
  | literal | parameter | typeOf | sizeOf => exact .own
  | unary | cast | typeTest => exact .visit fun _ => .own
  | binary info op left right =>
    rw [plan]
    cases computes : Value.operate? op with
    | some compute => exact .visit fun _ => .visit fun _ => .own
    | none =>
      have logical : op = .and ∨ op = .or := by
        cases op <;> first | exact .inl rfl | exact .inr rfl | cases computes
      refine .visit fun a => .known fun x => ?_
      split
      case isTrue => exact .settle fun isWhole => absurd logical isWhole.2
      case isFalse => exact .visit fun b => .known fun y => .own
  | conditional info test yes no => cases oneWay
  | coalesce info left right =>
    refine .visit fun value => ?_
    split
    case isTrue => exact .visit fun _ => .own
    case isFalse => exact .settle fun isWhole => absurd trivial isWhole.2
  | staticCall info method operands => exact .visitEvery fun values => .call fun _ => .own
  | call info method target operands =>
    exact .visit fun _ => .known fun _ => .visitEvery fun _ => .call fun _ => .own
  | staticMember info ref => exact .call fun _ => .own
  | member info ref target => exact .visit fun _ => .known fun _ => .call fun _ => .own
  | index info target position =>
    exact .visit fun _ => .known fun _ => .known fun _ => .visit fun _ => .own
  | create info ref operands init values =>
    refine .visitAll fun given => .call fun object => .handAll fun isWhole => ?_
    exact isWhole.1
  | newArray info element length => exact .visit fun _ => .known fun _ => .array
  | arrayOf info element items => exact .visitEvery fun _ => .array

/-- A conditional goes through its test and one of its branches. -/
theorem conditional_started (args : List Value) (info : Info) (test yes no : Expr) (store : Store) :
    ∃ branch ∈ [yes, no],
      started (events args (conditional info test yes no) store) <+: [test, branch] ∧
        ∀ value, (eval args (conditional info test yes no) store).1 = .ok value →
          started (events args (conditional info test yes no) store) = [test, branch] := by
  rw [eval_plan, events, plan, Plan.events, Plan.run, run_bind]
  cases ran : eval args test store with
  | mk outcome after =>
    cases outcome with
    | error e =>
      exact ⟨yes, List.mem_cons_self, List.cons_prefix_cons.mpr ⟨rfl, List.nil_prefix⟩,
        fun value came => by cases came⟩
    | ok value =>
      simp only [afterOk]
      cases value.truth with
      | error e =>
        exact ⟨yes, List.mem_cons_self, List.cons_prefix_cons.mpr ⟨rfl, List.nil_prefix⟩,
          fun value came => by cases came⟩
      | ok x =>
        have goes : Plan.Visits True [if x then yes else no]
            (.visit (if x then yes else no) fun chosen => .settle (.ok chosen)) :=
          .visit fun _ => .own
        obtain ⟨begins, all⟩ := goes.started args after
        refine ⟨if x then yes else no, by cases x <;> simp,
          List.cons_prefix_cons.mpr ⟨rfl, begins⟩, fun value ran => ?_⟩
        exact congrArg (test :: ·) (all trivial value ran)

/-- Evaluating a node is carrying out its plan. That starts its subexpressions one after another, in
the order in which they are listed and each once; a conditional starts its test and one of its
branches. What fails ends the evaluation with its failure, and whatever is done meets the store that
what came before has left. A node that comes to a value has gone through all of them, unless it is
`&&`, `||` or `??`. -/
theorem eval_sequenced (args : List Value) (e : Expr) (store : Store) :
    eval args e = (plan args e).run args ∧
      Threads args store (events args e store) (eval args e store) ∧
      ∃ course ∈ e.courses, started (events args e store) <+: course ∧
        (e.Paired → ¬ e.Shortens → ∀ value, (eval args e store).1 = .ok value →
          started (events args e store) = course) := by
  refine ⟨eval_plan args e, ?threads, ?course⟩
  case threads =>
    rw [eval_plan]
    exact (plan args e).threads store
  case course =>
    by_cases oneWay : e.courses = [e.children]
    · obtain ⟨begins, all⟩ := (plan_visits args e oneWay).started args store
      rw [eval_plan, oneWay]
      exact ⟨_, List.mem_singleton.mpr rfl, begins, fun paired long => all ⟨paired, long⟩⟩
    · cases e with
      | conditional info test yes no =>
        obtain ⟨branch, listed, begins, all⟩ := conditional_started args info test yes no store
        refine ⟨[test, branch], ?_, begins, fun _ _ => all⟩
        simpa [courses] using listed
      | _ => exact absurd rfl oneWay

/-- A new box is given a number and then another one: both are evaluated, the second between the
constructor and the setter. -/
theorem eval_sequenced_box :
    let answer : Native := fun _ => return .null
    let one : Expr := .literal ⟨.int, default⟩ (.int 1)
    let two : Expr := .literal ⟨.int, default⟩ (.int 2)
    let size : MemberRef := ⟨.named "Box", "Size", .int, ⟨false, false, true⟩, answer, some answer⟩
    let box : Expr :=
      .create ⟨.named "Box", default⟩ ⟨.named "Box", [.int], answer⟩ [one] (.members [size]) [two]
    box.Paired ∧ ¬ box.Shortens ∧ (∃ value, (eval [] box .empty).1 = .ok value) ∧
      (events [] box .empty).length = 4 ∧ started (events [] box .empty) = [one, two] := by
  intro answer one two size box
  have ran : (eval [] box .empty).1 = .ok .null := by
    simp only [box, eval, evalAll, one, two]
    rfl
  obtain ⟨-, -, course, listed, -, all⟩ := eval_sequenced [] box .empty
  refine ⟨rfl, id, ⟨_, ran⟩, by decide +kernel, ?_⟩
  rw [all rfl id _ ran]
  exact List.mem_singleton.mp listed

end Events
end Formula.Expr
