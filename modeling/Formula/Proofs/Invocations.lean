import Formula.Proofs.Safety

/-! The calls that a run makes. `invocations` lists every one of them in the order of evaluation,
also those that hand a value to a new object, each with the store it meets and with what its node
declares. The list is complete: other callables that answer the listed calls alike lead to the same
run. -/
namespace Formula

/-- A call of a run, beside what the node that makes it declares. -/
structure Invocation where
  native : Native
  call : Call
  store : Store
  /-- The static type of the receiver, where the node has a target or fills a new object. -/
  receiver : Option Ty
  params : List Ty
  /-- The type of the result, unless the result is dropped. -/
  result : Option Ty
  /-- Whether the call creates an object. -/
  creates : Bool

/-- The same call among those of which the result is used. -/
def Invocation.visit? (invocation : Invocation) : Option Visit :=
  invocation.result.map fun ty => ⟨invocation.native, invocation.call, invocation.store, ty⟩

namespace Expr

/-- What follows a computation, if that comes to a result. -/
def afterOk {α β : Type} (outcome : Except RuntimeError α × Store) (rest : α → Store → List β) :
    List β :=
  match outcome with
  | (.ok a, after) => rest a after
  | (.error _, _) => []

/-- What is done with one value of an initializer, and the types it is declared for. -/
structure Handover where
  step : Step
  params : List Ty

/-- What is done with the values of an initializer: a member takes one value of its type, and a
method takes its parameters. -/
def handovers : Initializer → List Handover
  | .none => []
  | .members refs => refs.map fun ref => ⟨⟨ref.setter, ref.owner, ref.name⟩, [ref.ty]⟩
  | .adds refs => refs.map fun ref => ⟨⟨some ref.native, ref.owner, ref.name⟩, ref.params⟩

/-- The call that hands a value to a new object of a type. -/
def handing (static : Ty) (object value : Value) (handover : Handover) (store : Store) :
    List Invocation :=
  match handover.step.native with
  | some native =>
    [⟨native, ⟨some object, [value], handover.step.owner⟩, store, some static, handover.params,
      none, false⟩]
  | none => []

mutual
/-- The calls that evaluating a tree makes from a store on. -/
def invocations (args : List Value) : Expr → Store → List Invocation
  | literal _ _, _ | parameter _ _ _, _ | typeOf _ _, _ | sizeOf _ _, _ => []
  | unary _ _ operand, store | cast _ operand, store | typeTest _ _ _ operand, store
  | newArray _ _ operand, store => invocations args operand store
  | binary _ op left right, store =>
    invocations args left store ++ afterOk (eval args left store) fun a after =>
      if needsRight op a then invocations args right after else []
  | conditional _ test yes no, store =>
    invocations args test store ++ afterOk (eval args test store) fun truth after =>
      match truth with
      | .bool true => invocations args yes after
      | .bool false => invocations args no after
      | _ => []
  | coalesce _ left right, store =>
    invocations args left store ++ afterOk (eval args left store) fun value after =>
      if value.isNull then invocations args right after else []
  | staticCall _ method operands, store =>
    invocationsAll args operands store ++ afterOk (evalAll args operands store) fun values after =>
      [⟨method.native, ⟨none, values, method.owner⟩, after, none, method.params,
        some method.result, false⟩]
  | call _ method target operands, store =>
    invocations args target store ++ afterOk (eval args target store) fun this after =>
      match checkReceiver target.ty (.calling method.name) this with
      | .error _ => []
      | .ok this =>
        invocationsAll args operands after ++
          afterOk (evalAll args operands after) fun values last =>
            [⟨method.native, ⟨some this, values, method.owner⟩, last, some target.ty,
              method.params, some method.result, false⟩]
  | staticMember _ ref, store =>
    [⟨ref.getter, ⟨none, [], ref.owner⟩, store, none, [], some ref.ty, false⟩]
  | member _ ref target, store =>
    invocations args target store ++ afterOk (eval args target store) fun this after =>
      match checkReceiver target.ty (.reading ref.name) this with
      | .error _ => []
      | .ok this =>
        [⟨ref.getter, ⟨some this, [], ref.owner⟩, after, some target.ty, [], some ref.ty, false⟩]
  | index _ target position, store =>
    invocations args target store ++ afterOk (eval args target store) fun array after =>
      match checkReceiver target.ty .indexing array >>= itemsOf with
      | .error _ => []
      | .ok _ => invocations args position after
  | create _ ref operands init values, store =>
    invocationsAll args operands store ++ afterOk (evalAll args operands store) fun given after =>
      let creation : Invocation :=
        ⟨ref.native, ⟨none, given, ref.ty⟩, after, none, ref.params, some ref.ty, true⟩
      creation :: afterOk (callNative ref.native none given ref.ty after) fun object last =>
        invocationsSteps args ref.ty object (handovers init) values last
  | arrayOf _ _ items, store => invocationsAll args items store

/-- The calls that evaluating trees from left to right makes. -/
def invocationsAll (args : List Value) : List Expr → Store → List Invocation
  | [], _ => []
  | expr :: rest, store =>
    invocations args expr store ++ afterOk (eval args expr store) fun _ after =>
      invocationsAll args rest after

/-- The calls that evaluating the values of an initializer and handing them over makes. -/
def invocationsSteps (args : List Value) (static : Ty) (object : Value) :
    List Handover → List Expr → Store → List Invocation
  | handover :: handovers, expr :: rest, store =>
    invocations args expr store ++ afterOk (eval args expr store) fun value after =>
      handing static object value handover after ++
        afterOk (takeStep object value handover.step after) fun _ last =>
          invocationsSteps args static object handovers rest last
  | _, _, _ => []
end

section Visits

-- The equations of the two recursions are made here, once.
attribute [local simp] visits visitsAll visitsSteps invocations invocationsAll invocationsSteps

theorem handovers_step (init : Initializer) : (handovers init).map (·.step) = steps init := by
  cases init <;> simp [handovers, steps, Function.comp_def]

private theorem used_afterOk {α : Type} {outcome : Except RuntimeError α × Store}
    {rest : α → Store → List Invocation} {known : α → Store → List Visit}
    (same : ∀ a after, (rest a after).filterMap Invocation.visit? = known a after) :
    (afterOk outcome rest).filterMap Invocation.visit? = onOk outcome known := by
  obtain ⟨found | a, after⟩ := outcome
  · rfl
  · exact same a after

private theorem used_append {first : List Invocation} {known : List Visit} {α : Type}
    {outcome : Except RuntimeError α × Store} {rest : α → Store → List Invocation}
    {later : α → Store → List Visit} (same : first.filterMap Invocation.visit? = known)
    (sameLater : ∀ a after, (rest a after).filterMap Invocation.visit? = later a after) :
    (first ++ afterOk outcome rest).filterMap Invocation.visit? = known ++ onOk outcome later := by
  rw [List.filterMap_append, same, used_afterOk sameLater]

variable {args : List Value}

mutual
/-- The calls of which the result is used are those that are listed with a result. -/
theorem invocations_used : (e : Expr) → (store : Store) →
    (invocations args e store).filterMap Invocation.visit? = visits args e store
  | literal _ _, _ | parameter _ _ _, _ | typeOf _ _, _ | sizeOf _ _, _ => by
    rw [invocations, visits]
    rfl
  | unary _ _ operand, store | cast _ operand, store | typeTest _ _ _ operand, store
  | newArray _ _ operand, store => by
    rw [invocations, visits]
    exact invocations_used operand store
  | binary _ op left right, store => by
    rw [invocations, visits]
    refine used_append (invocations_used left store) fun a after => ?_
    split
    case isTrue => exact invocations_used right after
    case isFalse => rfl
  | conditional _ test yes no, store => by
    rw [invocations, visits]
    refine used_append (invocations_used test store) fun truth after => ?_
    cases truth with
    | bool x =>
      cases x with
      | true => exact invocations_used yes after
      | false => exact invocations_used no after
    | _ => rfl
  | coalesce _ left right, store => by
    rw [invocations, visits]
    refine used_append (invocations_used left store) fun value after => ?_
    split
    case isTrue => exact invocations_used right after
    case isFalse => rfl
  | staticCall _ method operands, store => by
    rw [invocations, visits]
    exact used_append (invocationsAll_used operands store) fun values after => rfl
  | call _ method target operands, store => by
    rw [invocations, visits]
    refine used_append (invocations_used target store) fun this after => ?_
    cases checkReceiver target.ty (.calling method.name) this with
    | error => rfl
    | ok this => exact used_append (invocationsAll_used operands after) fun values last => rfl
  | staticMember _ ref, store => by
    rw [invocations, visits]
    rfl
  | member _ ref target, store => by
    rw [invocations, visits]
    refine used_append (invocations_used target store) fun this after => ?_
    cases checkReceiver target.ty (.reading ref.name) this <;> rfl
  | index _ target position, store => by
    rw [invocations, visits]
    refine used_append (invocations_used target store) fun array after => ?_
    cases checkReceiver target.ty .indexing array >>= itemsOf with
    | error => rfl
    | ok items => exact invocations_used position after
  | create _ ref operands init values, store => by
    rw [invocations, visits]
    refine used_append (invocationsAll_used operands store) fun given after => ?_
    refine congrArg (_ :: ·) (used_afterOk fun object last => ?_)
    rw [← handovers_step init]
    exact invocationsSteps_used ref.ty object (handovers init) values last
  | arrayOf _ _ items, store => by
    rw [invocations, visits]
    exact invocationsAll_used items store

theorem invocationsAll_used : (operands : List Expr) → (store : Store) →
    (invocationsAll args operands store).filterMap Invocation.visit? = visitsAll args operands store
  | [], _ => by
    rw [invocationsAll, visitsAll]
    rfl
  | expr :: rest, store => by
    rw [invocationsAll, visitsAll]
    exact used_append (invocations_used expr store) fun _ after => invocationsAll_used rest after

theorem invocationsSteps_used (static : Ty) (object : Value) :
    (todo : List Handover) → (values : List Expr) → (store : Store) →
    (invocationsSteps args static object todo values store).filterMap Invocation.visit? =
      visitsSteps args object (todo.map (·.step)) values store
  | handover :: todo, expr :: rest, store => by
    rw [invocationsSteps, List.map_cons, visitsSteps]
    refine used_append (invocations_used expr store) fun value after => ?_
    have unused :
        (handing static object value handover after).filterMap Invocation.visit? = [] := by
      unfold handing
      split <;> rfl
    rw [List.filterMap_append, unused, List.nil_append]
    exact used_afterOk fun _ last => invocationsSteps_used static object todo rest last
  | [], values, store => by
    rw [invocationsSteps, List.map_nil, visitsSteps]
    · rfl
    · simp
    · simp
  | _ :: _, [], store => by
    rw [invocationsSteps, List.map_cons, visitsSteps]
    · rfl
    · simp
    · simp
end

end Visits

end Expr

section Rewiring

variable (swap : Native → Native)

/-- The same overload with another callable. -/
def MethodRef.rewired (ref : MethodRef) : MethodRef := { ref with native := swap ref.native }

/-- The same member with other callables. -/
def MemberRef.rewired (ref : MemberRef) : MemberRef :=
  { ref with getter := swap ref.getter, setter := ref.setter.map swap }

/-- The same constructor with another callable. -/
def ConstructorRef.rewired (ref : ConstructorRef) : ConstructorRef :=
  { ref with native := swap ref.native }

/-- The same initializer with other callables. -/
def Initializer.rewired : Initializer → Initializer
  | none => none
  | members refs => members (refs.map (·.rewired swap))
  | adds refs => adds (refs.map (·.rewired swap))

/-- The same step with another callable. -/
def Expr.Step.rewired (step : Expr.Step) : Expr.Step := { step with native := step.native.map swap }

namespace Expr

mutual
/-- The same tree with other callables. -/
def rewired : Expr → Expr
  | literal info value => literal info value
  | parameter info ordinal name => parameter info ordinal name
  | unary info op operand => unary info op (rewired operand)
  | binary info op left right => binary info op (rewired left) (rewired right)
  | conditional info test yes no => conditional info (rewired test) (rewired yes) (rewired no)
  | coalesce info left right => coalesce info (rewired left) (rewired right)
  | staticCall info method args => staticCall info (method.rewired swap) (rewiredAll args)
  | call info method target args =>
    call info (method.rewired swap) (rewired target) (rewiredAll args)
  | staticMember info ref => staticMember info (ref.rewired swap)
  | member info ref target => member info (ref.rewired swap) (rewired target)
  | index info target position => index info (rewired target) (rewired position)
  | create info ref args init values =>
    create info (ref.rewired swap) (rewiredAll args) (init.rewired swap) (rewiredAll values)
  | newArray info element length => newArray info element (rewired length)
  | arrayOf info element items => arrayOf info element (rewiredAll items)
  | cast info operand => cast info (rewired operand)
  | typeOf info ty => typeOf info ty
  | sizeOf info ty => sizeOf info ty
  | typeTest info op target operand => typeTest info op target (rewired operand)

/-- The same trees with other callables. -/
def rewiredAll : List Expr → List Expr
  | [] => []
  | expr :: rest => rewired expr :: rewiredAll rest
end

theorem rewired_ty (e : Expr) : (e.rewired swap).ty = e.ty := by
  cases e <;> simp [rewired, ty, info]

theorem steps_rewired (init : Initializer) :
    steps (init.rewired swap) =
      (handovers init).map fun handover => handover.step.rewired swap := by
  cases init <;> simp [Initializer.rewired, steps, handovers, Step.rewired, MemberRef.rewired,
    MethodRef.rewired, Function.comp_def]

/-- Other callables answer some calls alike. -/
def SameAnswers (calls : List Invocation) : Prop :=
  ∀ made ∈ calls, swap made.native made.call made.store = made.native made.call made.store

variable {swap} {α β : Type} {store last : Store} {args : List Value}

/-- Two runs that begin alike and go on alike are the same. -/
theorem run_congr {first other : Run α} {rest otherRest : α → Run β}
    (same : other store = first store)
    (goesOn : ∀ a after, first store = (.ok a, after) → otherRest a after = rest a after) :
    (other >>= otherRest) store = (first >>= rest) store := by
  rw [run_bind, run_bind, same]
  cases ran : first store with
  | mk outcome after =>
    cases outcome with
    | ok a => exact goesOn a after ran
    | error e => rfl

/-- After an outcome that is known, two runs that go on alike are the same. -/
theorem known_congr {outcome : Except RuntimeError α} {rest otherRest : α → Run β}
    (goesOn : ∀ a, outcome = .ok a → otherRest a store = rest a store) :
    (Action.ofExcept outcome >>= otherRest : Run β) store =
      (Action.ofExcept outcome >>= rest : Run β) store := by
  refine run_congr rfl fun a after ran => ?_
  cases outcome with
  | ok found =>
    cases ran
    exact goesOn a rfl
  | error e => cases ran

theorem truth_ok {value : Value} {x : Bool} (truth : value.truth = .ok x) : value = .bool x := by
  cases value <;> cases truth
  rfl

section Parts

variable {first second : List Invocation} {outcome : Except RuntimeError α × Store}
  {rest : α → Store → List Invocation} {a : α}

theorem SameAnswers.left (alike : SameAnswers swap (first ++ second)) : SameAnswers swap first :=
  fun made member => alike made (List.mem_append_left _ member)

theorem SameAnswers.right (alike : SameAnswers swap (first ++ second)) : SameAnswers swap second :=
  fun made member => alike made (List.mem_append_right _ member)

/-- Behind an outcome, the calls that follow it are answered alike. -/
theorem SameAnswers.after (alike : SameAnswers swap (afterOk outcome rest))
    (ran : outcome = (.ok a, last)) : SameAnswers swap (rest a last) := by
  rwa [ran] at alike

theorem callNative_alike {made : Invocation} {native : Native} {this : Option Value}
    {given : List Value} {declaring : Ty} (alike : SameAnswers swap [made])
    (same : made.native = native) (sameCall : made.call = ⟨this, given, declaring⟩) :
    callNative (swap native) this given declaring made.store =
      callNative native this given declaring made.store := by
  have agrees := alike made List.mem_cons_self
  rw [same, sameCall] at agrees
  unfold callNative Action.mapError
  rw [agrees]

theorem SameAnswers.head {made : Invocation} (alike : SameAnswers swap (made :: second)) :
    SameAnswers swap [made] :=
  fun _ member => alike _ (List.mem_singleton.mp member ▸ List.mem_cons_self)

theorem SameAnswers.tail {made : Invocation} (alike : SameAnswers swap (made :: second)) :
    SameAnswers swap second :=
  fun other member => alike other (List.mem_cons_of_mem _ member)

theorem takeStep_alike {static : Ty} {object value : Value} {handover : Handover}
    (alike : SameAnswers swap (handing static object value handover store)) :
    takeStep object value (handover.step.rewired swap) store =
      takeStep object value handover.step store := by
  unfold handing at alike
  unfold takeStep Step.rewired
  cases native : handover.step.native with
  | none => rfl
  | some native =>
    rw [native] at alike
    exact run_congr (callNative_alike alike rfl rfl) fun _ _ _ => rfl

end Parts

mutual
/-- Nothing but the listed calls decides a run. -/
theorem eval_rewired : (e : Expr) → (store : Store) → SameAnswers swap (invocations args e store) →
    eval args (e.rewired swap) store = eval args e store
  | literal _ _, _, _ | parameter _ _ _, _, _ | typeOf _ _, _, _ | sizeOf _ _, _, _ => by
    rw [rewired]
  | unary _ op operand, store, alike => by
    rw [invocations] at alike
    rw [rewired, eval, eval]
    exact run_congr (eval_rewired operand store alike) fun _ _ _ => rfl
  | cast info operand, store, alike => by
    rw [invocations] at alike
    rw [rewired, eval, eval, rewired_ty]
    exact run_congr (eval_rewired operand store alike) fun _ _ _ => rfl
  | typeTest _ _ _ operand, store, alike => by
    rw [invocations] at alike
    rw [rewired, eval, eval]
    exact run_congr (eval_rewired operand store alike) fun _ _ _ => rfl
  | newArray _ _ length, store, alike => by
    rw [invocations] at alike
    rw [rewired, eval, eval]
    exact run_congr (eval_rewired length store alike) fun _ _ _ => rfl
  | binary _ op left right, store, alike => by
    rw [invocations] at alike
    rw [rewired]
    cases computes : Value.operate? op with
    | some compute =>
      rw [eval_computed computes, eval_computed computes]
      refine run_congr (eval_rewired left store alike.left) fun a after ran => ?_
      have later := alike.right.after ran
      rw [needsRight_of_computes computes] at later
      exact run_congr (eval_rewired right after later) fun _ _ _ => rfl
    | none =>
      rw [eval_logical computes, eval_logical computes]
      refine run_congr (eval_rewired left store alike.left) fun a after ran => ?_
      refine known_congr fun x truth => ?_
      split
      case isTrue => rfl
      case isFalse unsettled =>
        have later := alike.right.after ran
        rw [truth_ok truth, needsRight_of_open computes unsettled] at later
        exact run_congr (eval_rewired right after later) fun _ _ _ => rfl
  | conditional _ test yes no, store, alike => by
    rw [invocations] at alike
    rw [rewired, eval, eval]
    refine run_congr (eval_rewired test store alike.left) fun value after ran => ?_
    refine known_congr fun x truth => ?_
    have later := alike.right.after ran
    rw [truth_ok truth] at later
    cases x with
    | true => exact eval_rewired yes after later
    | false => exact eval_rewired no after later
  | coalesce _ left right, store, alike => by
    rw [invocations] at alike
    rw [rewired, eval, eval, rewired_ty]
    refine run_congr (eval_rewired left store alike.left) fun value after ran => ?_
    have later := alike.right.after ran
    split
    case isTrue isNull =>
      rw [if_pos isNull] at later
      exact eval_rewired right after later
    case isFalse => rfl
  | staticCall _ method operands, store, alike => by
    rw [invocations] at alike
    rw [rewired, eval, eval]
    refine run_congr (evalAll_rewired operands store alike.left) fun values after ran => ?_
    exact callNative_alike (alike.right.after ran) rfl rfl
  | call _ method target operands, store, alike => by
    rw [invocations] at alike
    rw [rewired, eval, eval, rewired_ty]
    refine run_congr (eval_rewired target store alike.left) fun this after ran => ?_
    refine known_congr fun usable checked => ?_
    have checked : checkReceiver target.ty (.calling method.name) this = .ok usable := checked
    have later := alike.right.after ran
    rw [checked] at later
    refine run_congr (evalAll_rewired operands after later.left) fun values last ran => ?_
    exact callNative_alike (later.right.after ran) rfl rfl
  | staticMember _ ref, store, alike => by
    rw [invocations] at alike
    rw [rewired, eval, eval]
    exact callNative_alike alike rfl rfl
  | member _ ref target, store, alike => by
    rw [invocations] at alike
    rw [rewired, eval, eval, rewired_ty]
    refine run_congr (eval_rewired target store alike.left) fun this after ran => ?_
    refine known_congr fun usable checked => ?_
    have checked : checkReceiver target.ty (.reading ref.name) this = .ok usable := checked
    have later := alike.right.after ran
    rw [checked] at later
    exact callNative_alike later rfl rfl
  | index _ target position, store, alike => by
    rw [invocations] at alike
    rw [rewired, eval, eval, rewired_ty]
    refine run_congr (eval_rewired target store alike.left) fun array after ran => ?_
    refine known_congr fun usable checked => ?_
    refine known_congr fun items found => ?_
    have later := alike.right.after ran
    rw [checked] at later
    have later : SameAnswers swap (match itemsOf usable with
      | .error _ => []
      | .ok _ => invocations args position after) := later
    rw [found] at later
    exact run_congr (eval_rewired position after later) fun _ _ _ => rfl
  | create _ ref operands init values, store, alike => by
    rw [invocations] at alike
    rw [rewired, eval, eval, steps_rewired, ← handovers_step init]
    refine run_congr (evalAll_rewired operands store alike.left) fun given after ran => ?_
    have later := alike.right.after ran
    refine run_congr (callNative_alike later.head rfl rfl) fun object last made => ?_
    refine run_congr (evalSteps_rewired ref.ty object (handovers init) values last
      (later.tail.after made)) fun _ _ _ => rfl
  | arrayOf _ _ items, store, alike => by
    rw [invocations] at alike
    rw [rewired, eval, eval]
    exact run_congr (evalAll_rewired items store alike) fun _ _ _ => rfl

theorem evalAll_rewired : (operands : List Expr) → (store : Store) →
    SameAnswers swap (invocationsAll args operands store) →
    evalAll args (rewiredAll swap operands) store = evalAll args operands store
  | [], _, _ => by rw [rewiredAll]
  | expr :: rest, store, alike => by
    rw [invocationsAll] at alike
    rw [rewiredAll, evalAll, evalAll]
    refine run_congr (eval_rewired expr store alike.left) fun value after ran => ?_
    exact run_congr (evalAll_rewired rest after (alike.right.after ran)) fun _ _ _ => rfl

theorem evalSteps_rewired (static : Ty) (object : Value) : (todo : List Handover) →
    (values : List Expr) → (store : Store) →
    SameAnswers swap (invocationsSteps args static object todo values store) →
    evalSteps args object (todo.map fun handover => handover.step.rewired swap)
        (rewiredAll swap values) store =
      evalSteps args object (todo.map (·.step)) values store
  | handover :: todo, expr :: rest, store, alike => by
    rw [invocationsSteps] at alike
    rw [rewiredAll, List.map_cons, List.map_cons, evalSteps, evalSteps]
    refine run_congr (eval_rewired expr store alike.left) fun value after ran => ?_
    have later := alike.right.after ran
    refine run_congr (takeStep_alike later.left) fun _ last took => ?_
    exact evalSteps_rewired static object todo rest last (later.right.after took)
  | [], values, _, _ => by
    rw [List.map_nil, List.map_nil, evalSteps, evalSteps]
    · simp
    · simp
  | handover :: todo, [], _, _ => by
    rw [rewiredAll, evalSteps, evalSteps]
    · simp
    · simp
end

end Expr
end Rewiring

end Formula
