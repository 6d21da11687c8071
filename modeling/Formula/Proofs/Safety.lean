import Formula.Function
import Formula.Proofs.ReaderTyping
import Formula.Proofs.ValueTyping

/-! Evaluation of trees that obey the typing discipline. What the callables of members do is outside
the formulas, so safety rests on a promise about the calls that a run really makes: `visits` lists
them, in the order of evaluation, each with the store it meets. As long as these keep their promise,
every node comes to a value of its type or to a failure that types do not rule out. -/
namespace Formula

/-- A call of which a run uses the result: the callable, what it is given, the store it meets, and the
type its result is to have. -/
structure Visit where
  native : Native
  call : Call
  store : Store
  result : Ty

/-- The promise of a callable: a result, if there is one, fits its type and is filled with what fits
at every depth. -/
def Visit.Kept (visit : Visit) : Prop :=
  ∀ value ∈ (visit.native visit.call visit.store).1.toOption, value.Good visit.result

instance (visit : Visit) : Decidable visit.Kept :=
  inferInstanceAs (Decidable (∀ value ∈ _, _))

namespace Expr

/-- What is visited after a computation, if that comes to a result. -/
def onOk {α : Type} (outcome : Except RuntimeError α × Store) (rest : α → Store → List Visit) :
    List Visit :=
  match outcome with
  | (.ok a, after) => rest a after
  | (.error _, _) => []

/-- Whether the right operand is evaluated where the left has a value. -/
def needsRight (op : BinaryOp) (left : Value) : Bool :=
  match op, left with
  | .and, .bool x => x
  | .or, .bool x => !x
  | .and, _ | .or, _ => false
  | _, _ => true

mutual
/-- The calls that evaluating a tree makes from a store on. -/
def visits (args : List Value) : Expr → Store → List Visit
  | literal _ _, _ | parameter _ _ _, _ | typeOf _ _, _ | sizeOf _ _, _ => []
  | unary _ _ operand, store | cast _ operand, store | typeTest _ _ _ operand, store
  | newArray _ _ operand, store => visits args operand store
  | binary _ op left right, store =>
    visits args left store ++ onOk (eval args left store) fun a after =>
      if needsRight op a then visits args right after else []
  | conditional _ test yes no, store =>
    visits args test store ++ onOk (eval args test store) fun truth after =>
      match truth with
      | .bool true => visits args yes after
      | .bool false => visits args no after
      | _ => []
  | coalesce _ left right, store =>
    visits args left store ++ onOk (eval args left store) fun value after =>
      if value.isNull then visits args right after else []
  | staticCall _ method operands, store =>
    visitsAll args operands store ++ onOk (evalAll args operands store) fun values after =>
      [⟨method.native, ⟨none, values, method.owner⟩, after, method.result⟩]
  | call _ method target operands, store =>
    visits args target store ++ onOk (eval args target store) fun this after =>
      match checkReceiver target.ty (.calling method.name) this with
      | .error _ => []
      | .ok this =>
        visitsAll args operands after ++ onOk (evalAll args operands after) fun values last =>
          [⟨method.native, ⟨some this, values, method.owner⟩, last, method.result⟩]
  | staticMember _ ref, store => [⟨ref.getter, ⟨none, [], ref.owner⟩, store, ref.ty⟩]
  | member _ ref target, store =>
    visits args target store ++ onOk (eval args target store) fun this after =>
      match checkReceiver target.ty (.reading ref.name) this with
      | .error _ => []
      | .ok this => [⟨ref.getter, ⟨some this, [], ref.owner⟩, after, ref.ty⟩]
  | index _ target position, store =>
    visits args target store ++ onOk (eval args target store) fun array after =>
      match checkReceiver target.ty .indexing array >>= itemsOf with
      | .error _ => []
      | .ok _ => visits args position after
  | create _ ref operands init values, store =>
    visitsAll args operands store ++ onOk (evalAll args operands store) fun given after =>
      let visit : Visit := ⟨ref.native, ⟨none, given, ref.ty⟩, after, ref.ty⟩
      visit :: onOk (callNative ref.native none given ref.ty after) fun object last =>
        visitsSteps args object (steps init) values last
  | arrayOf _ _ items, store => visitsAll args items store

/-- The calls that evaluating trees from left to right makes. -/
def visitsAll (args : List Value) : List Expr → Store → List Visit
  | [], _ => []
  | expr :: rest, store =>
    visits args expr store ++ onOk (eval args expr store) fun _ after => visitsAll args rest after

/-- The calls that evaluating the values of an initializer makes; what is done with a value has no
result that is used. -/
def visitsSteps (args : List Value) (object : Value) : List Step → List Expr → Store → List Visit
  | step :: steps, expr :: rest, store =>
    visits args expr store ++ onOk (eval args expr store) fun value after =>
      onOk (takeStep object value step after) fun _ last => visitsSteps args object steps rest last
  | _, _, _ => []
end

/-- The outcome of a run that types allow. -/
def Safe {α : Type} (right : α → Prop) (outcome : Except RuntimeError α × Store) : Prop :=
  Meant right outcome.1

/-- All calls keep their promise. -/
def Trusted (visits : List Visit) : Prop := ∀ visit ∈ visits, visit.Kept

section Runs

variable {α β : Type} {p : α → Prop} {q : β → Prop} {store last : Store} {earlier : List Visit}

theorem run_bind {first : Run α} {rest : α → Run β} : (first >>= rest) store =
    match first store with
    | (.ok a, after) => rest a after
    | (.error e, after) => (.error e, after) := by
  simp only [Bind.bind, ExceptT.bind, ExceptT.mk, StateT.bind]
  cases first store with
  | mk outcome after => cases outcome <;> rfl

/-- A run goes on safely after a safe run if it does so from every result that was to be expected. -/
theorem Safe.bind {first : Run α} {rest : α → Run β} (safe : Safe p (first store))
    (goesOn : ∀ a after, first store = (.ok a, after) → p a → Safe q (rest a after)) :
    Safe q ((first >>= rest) store) := by
  rw [run_bind]
  cases ran : first store with
  | mk outcome after =>
    rw [ran] at safe
    cases outcome with
    | ok a => exact goesOn a after ran safe
    | error e => exact safe

theorem Safe.ofExcept {outcome : Except RuntimeError α} (meant : Meant p outcome) :
    Safe p ((Action.ofExcept outcome : Run α) store) := by
  cases outcome <;> exact meant

theorem Safe.pure {a : α} (right : p a) : Safe p ((Pure.pure a : Run α) store) := right

theorem Trusted.before {outcome : Except RuntimeError α × Store} {rest : α → Store → List Visit}
    (trusted : Trusted (earlier ++ onOk outcome rest)) : Trusted earlier :=
  fun visit member => trusted visit (List.mem_append_left _ member)

theorem Trusted.after {outcome : Except RuntimeError α × Store} {rest : α → Store → List Visit}
    {a : α} (trusted : Trusted (earlier ++ onOk outcome rest)) (ran : outcome = (.ok a, last)) :
    Trusted (rest a last) := by
  intro visit member
  refine trusted visit (List.mem_append_right _ ?_)
  rw [ran]
  exact member

/-- A call comes to a value as promised or to the failure of the callable. -/
theorem callNative_promised {right : Value → Prop} {native : Native} {this : Option Value}
    {given : List Value} {declaring : Ty}
    (promised : ∀ value ∈ (native ⟨this, given, declaring⟩ store).1.toOption, right value) :
    Safe right (callNative native this given declaring store) := by
  unfold callNative Action.mapError
  cases ran : native ⟨this, given, declaring⟩ store with
  | mk outcome after =>
    cases outcome with
    | ok value => exact promised value (by simp [ran, Except.toOption])
    | error e => rfl

theorem callNative_safe {native : Native} {this : Option Value} {given : List Value}
    {declaring result : Ty} (kept : Visit.Kept ⟨native, ⟨this, given, declaring⟩, store, result⟩) :
    Safe (Value.Good result) (callNative native this given declaring store) :=
  callNative_promised kept

theorem checkReceiver_meant {static : Ty} {use : Use} {value : Value} :
    Meant (fun this => this = value ∧ (static.inner? = none → value.isNull = false))
      (checkReceiver static use value) := by
  unfold checkReceiver
  split
  case isTrue => rfl
  case isFalse usable =>
    refine ⟨rfl, fun noNullable => ?_⟩
    simpa [noNullable] using usable

end Runs

section Evaluation

-- The nodes below open the two recursions one equation at a time; here the equations are made, once.
attribute [local simp] eval evalAll evalSteps visits visitsAll visitsSteps

variable {scope : Scope} {args : List Value} {store : Store}

/-- Every parameter is given an argument that fits it. -/
def Given (params : Parameters) (args : List Value) : Prop :=
  ∀ (ordinal : Nat) (param : Parameter), params.list[ordinal]? = some param →
    ∃ value : Value, args[ordinal]? = some value ∧ value.Good param.ty

/-- Evaluating a tree comes to values of its type, as long as the calls it makes are trusted. -/
def EvaluatesSafely (args : List Value) (e : Expr) : Prop :=
  ∀ store, Trusted (visits args e store) → Safe (Value.Good e.ty) (eval args e store)

theorem evalAll_safe {operands : List Expr} (safe : ∀ e ∈ operands, EvaluatesSafely args e)
    (trusted : Trusted (visitsAll args operands store)) :
    Safe (fun values => List.Forall₂ (fun e value => Value.Good e.ty value) operands values)
      (evalAll args operands store) := by
  induction operands generalizing store with
  | nil => exact .nil
  | cons e rest ih =>
    rw [visitsAll] at trusted
    rw [evalAll]
    refine Safe.bind (safe e List.mem_cons_self store trusted.before) fun value middle ran good => ?_
    have safeRest := fun e member => safe e (List.mem_cons_of_mem _ member)
    refine Safe.bind (ih safeRest (trusted.after ran)) fun values last _ goods => ?_
    exact .cons good goods

theorem takeStep_safe {object value : Value} {step : Step} :
    Safe (fun _ => True) (takeStep object value step store) := by
  unfold takeStep
  cases step.native with
  | some native =>
    have called : Safe (fun _ => True) (callNative native (some object) [value] step.owner store) :=
      callNative_promised fun _ _ => trivial
    exact Safe.bind called fun _ _ _ _ => trivial
  | none => rfl

theorem evalSteps_safe {object : Value} {todo : List Step} {values : List Expr}
    (safe : ∀ e ∈ values, EvaluatesSafely args e)
    (trusted : Trusted (visitsSteps args object todo values store)) :
    Safe (fun _ => True) (evalSteps args object todo values store) := by
  induction values generalizing store todo with
  | nil => cases todo <;> trivial
  | cons e rest ih =>
    cases todo with
    | nil => trivial
    | cons step todo =>
      rw [visitsSteps] at trusted
      rw [evalSteps]
      refine Safe.bind (safe e List.mem_cons_self store trusted.before) fun value middle ran _ => ?_
      refine Safe.bind takeStep_safe fun _ last took _ => ?_
      have safeRest := fun e member => safe e (List.mem_cons_of_mem _ member)
      have later := trusted.after ran
      rw [took] at later
      exact ih safeRest later

section Nodes

variable {l r : Expr} {span : Span} {ty : Ty} {operands : List Expr} {op : BinaryOp}

theorem eval_computed {info : Info} {compute : Value → Value → Except RuntimeError Value}
    (computes : Value.operate? op = some compute) :
    eval args (.binary info op l r) = (do
      let a ← eval args l
      let b ← eval args r
      Action.ofExcept (compute a b)) := by
  rw [eval]
  exact computes

theorem eval_logical {info : Info} (logical : Value.operate? op = none) :
    eval args (.binary info op l r) = (do
      let a ← Action.ofExcept (← eval args l).truth
      if a == (op == .or) then return .bool a
      else return .bool (← Action.ofExcept (← eval args r).truth)) := by
  rw [eval.eq_def]
  simp only [logical]

theorem needsRight_of_computes {a : Value} {compute : Value → Value → Except RuntimeError Value}
    (computes : Value.operate? op = some compute) : needsRight op a = true := by
  cases op <;> first | rfl | cases computes

/-- The right operand of `&&` or `||` is evaluated unless the left one settles the matter. -/
theorem needsRight_of_open {x : Bool} (logical : Value.operate? op = none)
    (unsettled : ¬ (x == (op == .or)) = true) : needsRight op (.bool x) = true := by
  have shortened : op = .and ∨ op = .or := by cases op <;> simp [Value.operate?] at logical ⊢
  obtain rfl | rfl := shortened
  · cases x <;> first | rfl | exact absurd rfl unsettled
  · cases x <;> first | rfl | exact absurd rfl unsettled

theorem takes_logical {left right result : Ty} (logical : Value.operate? op = none)
    (takes : op.family.Takes left right result) : left = .bool ∧ right = .bool ∧ result = .bool := by
  cases op <;> first | exact takes | cases logical

/-- A condition of the right type is read off without failure. -/
theorem truth_then {α : Type} {q : α → Prop} {value : Value} {rest : Bool → Run α}
    (good : value.Good .bool) (goesOn : ∀ x, value = .bool x → Safe q (rest x store)) :
    Safe q ((Action.ofExcept value.truth >>= rest) store) := by
  obtain ⟨x, rfl, truth⟩ := Value.truth_meant good
  rw [truth]
  exact goesOn x rfl

theorem binary_safe (left : EvaluatesSafely args l) (right : EvaluatesSafely args r)
    (takes : op.family.Takes l.ty r.ty ty) : EvaluatesSafely args (.binary ⟨ty, span⟩ op l r) := by
  intro store trusted
  rw [visits] at trusted
  cases computes : Value.operate? op with
  | some compute =>
    rw [eval_computed computes]
    refine Safe.bind (left store trusted.before) fun a middle ran first => ?_
    have later := trusted.after ran
    rw [needsRight_of_computes computes] at later
    refine Safe.bind (right middle later) fun b last _ second => ?_
    exact .ofExcept (Value.operate_meant computes takes first second)
  | none =>
    obtain ⟨leftBool, rightBool, rfl⟩ := takes_logical computes takes
    rw [eval_logical computes]
    refine Safe.bind (left store trusted.before) fun a middle ran first => ?_
    have later := trusted.after ran
    refine truth_then (leftBool ▸ first) fun x same => ?_
    split
    case isTrue => exact .pure (Value.Good.of_kind rfl)
    case isFalse unsettled =>
      rw [same, needsRight_of_open computes unsettled] at later
      refine Safe.bind (right middle later) fun b last _ second => ?_
      refine truth_then (rightBool ▸ second) fun y _ => ?_
      exact .pure (Value.Good.of_kind rfl)

theorem conditional_safe {t y n : Expr} (test : EvaluatesSafely args t)
    (yes : EvaluatesSafely args y) (no : EvaluatesSafely args n) (truth : t.ty = .bool)
    (first : y.ty = ty) (second : n.ty = ty) :
    EvaluatesSafely args (.conditional ⟨ty, span⟩ t y n) := by
  intro store trusted
  rw [visits] at trusted
  rw [eval]
  refine Safe.bind (test store trusted.before) fun value middle ran good => ?_
  have later := trusted.after ran
  refine truth_then (truth ▸ good) fun x same => ?_
  rw [same] at later
  cases x with
  | true =>
    have safe := yes middle later
    rwa [first] at safe
  | false =>
    have safe := no middle later
    rwa [second] at safe

theorem coalesce_safe (left : EvaluatesSafely args l) (right : EvaluatesSafely args r)
    (same : r.ty = ty) : EvaluatesSafely args (.coalesce ⟨ty, span⟩ l r) := by
  intro store trusted
  rw [visits] at trusted
  rw [eval]
  refine Safe.bind (left store trusted.before) fun value middle ran good => ?_
  have later := trusted.after ran
  split
  case isTrue isNull =>
    simp only [isNull, ↓reduceIte] at later
    have safe := right middle later
    rwa [same] at safe
  case isFalse => exact .ofExcept (Value.cast_meant good.filled l.ty ty)

theorem staticCall_safe {method : MethodRef} (safe : ∀ e ∈ operands, EvaluatesSafely args e) :
    EvaluatesSafely args (.staticCall ⟨method.result, span⟩ method operands) := by
  intro store trusted
  rw [visits] at trusted
  rw [eval]
  refine Safe.bind (evalAll_safe safe trusted.before) fun values last ran _ => ?_
  exact callNative_safe (trusted.after ran _ List.mem_cons_self)

/-- Only a receiver that may be used is used. -/
theorem receiver_then {α : Type} {q : α → Prop} {static : Ty} {use : Use} {value : Value}
    {rest : Value → Run α}
    (goesOn : checkReceiver static use value = .ok value →
      (static.inner? = none → value.isNull = false) → Safe q (rest value store)) :
    Safe q ((Action.ofExcept (checkReceiver static use value) >>= rest) store) := by
  refine Safe.bind (.ofExcept checkReceiver_meant) fun this last ran usable => ?_
  obtain ⟨rfl, usable⟩ := usable
  cases checked : checkReceiver static use this with
  | ok found =>
    rw [checked] at ran
    cases ran
    exact goesOn checked usable
  | error e =>
    rw [checked] at ran
    cases ran

theorem call_safe {t : Expr} {method : MethodRef} (target : EvaluatesSafely args t)
    (safe : ∀ e ∈ operands, EvaluatesSafely args e) :
    EvaluatesSafely args (.call ⟨method.result, span⟩ method t operands) := by
  intro store trusted
  rw [visits] at trusted
  rw [eval]
  refine Safe.bind (target store trusted.before) fun value middle ran good => ?_
  have later := trusted.after ran
  refine receiver_then fun checked _ => ?_
  rw [checked] at later
  refine Safe.bind (evalAll_safe safe later.before) fun values last ran _ => ?_
  exact callNative_safe (later.after ran _ List.mem_cons_self)

theorem member_safe {t : Expr} {ref : MemberRef} (target : EvaluatesSafely args t) :
    EvaluatesSafely args (.member ⟨ref.ty, span⟩ ref t) := by
  intro store trusted
  rw [visits] at trusted
  rw [eval]
  refine Safe.bind (target store trusted.before) fun value middle ran good => ?_
  have later := trusted.after ran
  refine receiver_then fun checked _ => ?_
  rw [checked] at later
  exact callNative_safe (later _ List.mem_cons_self)

/-- A value of an array type that is not `null` is an array, and its items are good. -/
theorem items_of_array {element : Ty} {value : Value} (good : value.Good (.array element))
    (some : value.isNull = false) :
    ∃ items, itemsOf value = .ok items ∧ ∀ item ∈ items, item.Good element := by
  obtain conforms | ⟨void, -⟩ := good.fits
  · cases value with
    | array identity own items =>
      obtain rfl : own = element := by simpa [Value.conforms] using conforms
      refine ⟨items, rfl, fun item member => ?_⟩
      cases good.filled with
      | array deep fit => exact ⟨fit item member, deep item member⟩
      | other noArray => exact absurd rfl (noArray _ _ _)
    | null => cases some
    | _ => cases conforms
  · cases void

theorem itemAt_meant {element : Ty} {items : List Value} {position : Value}
    (good : ∀ item ∈ items, item.Good element) :
    Meant (Value.Good element) (itemAt items position) := by
  unfold itemAt
  simp only
  split
  case h_1 item found =>
    split at found
    case isTrue => cases found
    case isFalse => exact good item (List.mem_of_getElem? found)
  case h_2 => rfl

theorem index_safe {t p : Expr} {element : Ty} (target : EvaluatesSafely args t)
    (position : EvaluatesSafely args p) (array : t.ty = .array element) :
    EvaluatesSafely args (.index ⟨element, span⟩ t p) := by
  intro store trusted
  rw [visits] at trusted
  rw [eval]
  refine Safe.bind (target store trusted.before) fun value middle ran good => ?_
  have later := trusted.after ran
  refine receiver_then fun checked usable => ?_
  rw [array] at good usable
  obtain ⟨items, found, goods⟩ := items_of_array good (usable rfl)
  have read : (checkReceiver t.ty .indexing value >>= itemsOf) = .ok items := by rw [checked]; exact found
  rw [read] at later
  rw [found]
  show Safe _ ((eval args p >>= fun at_ => Action.ofExcept (itemAt items at_)) middle)
  refine Safe.bind (position middle later) fun at_ last _ _ => ?_
  exact .ofExcept (itemAt_meant goods)

theorem create_safe {ref : ConstructorRef} {init : Initializer} {values : List Expr}
    (safe : ∀ e ∈ operands, EvaluatesSafely args e)
    (contents : ∀ e ∈ values, EvaluatesSafely args e) :
    EvaluatesSafely args (.create ⟨ref.ty, span⟩ ref operands init values) := by
  intro store trusted
  rw [visits] at trusted
  rw [eval]
  refine Safe.bind (evalAll_safe safe trusted.before) fun given middle ran _ => ?_
  have later := trusted.after ran
  refine Safe.bind (callNative_safe (later _ List.mem_cons_self)) fun object last made good => ?_
  have filling : Trusted (visitsSteps args object (steps init) values last) := by
    intro visit member
    refine later visit (List.mem_cons_of_mem _ ?_)
    rw [made]
    exact member
  exact Safe.bind (evalSteps_safe contents filling) fun _ _ _ _ => .pure good

theorem lengthOf_meant (value : Value) : Meant (fun _ => True) (lengthOf value) := by
  unfold lengthOf
  split
  case h_1 => split <;> trivial
  case h_2 => rfl

theorem newArray_run {element : Ty} {items : List Value} (good : ∀ item ∈ items, item.Good element) :
    Safe (Value.Good (.array element)) ((Action.newArray element items : Run Value) store) := by
  refine ⟨.inl (by simp [Value.conforms]), .array (fun item member => (good item member).filled) ?_⟩
  exact fun item member => (good item member).fits

theorem newArray_safe {element : Ty} (length : EvaluatesSafely args l)
    (concrete : ∀ index, element ≠ .param index) :
    EvaluatesSafely args (.newArray ⟨.array element, span⟩ element l) := by
  intro store trusted
  rw [visits] at trusted
  rw [eval]
  refine Safe.bind (length store trusted) fun value middle _ _ => ?_
  refine Safe.bind (.ofExcept (lengthOf_meant value)) fun count last _ _ => newArray_run ?_
  intro item member
  rw [List.eq_of_mem_replicate member]
  exact Value.defaultOf_good concrete

theorem items_good {element : Ty} {values : List Value}
    (goods : List.Forall₂ (fun e value => Value.Good e.ty value) operands values)
    (same : ∀ e ∈ operands, e.ty = element) : ∀ item ∈ values, item.Good element := by
  induction goods with
  | nil => exact List.forall_mem_nil _
  | cons good _ ih =>
    have here := same _ List.mem_cons_self
    refine List.forall_mem_cons.mpr ⟨here ▸ good, ih fun e member => ?_⟩
    exact same e (List.mem_cons_of_mem _ member)

theorem arrayOf_safe {element : Ty} (safe : ∀ e ∈ operands, EvaluatesSafely args e)
    (same : ∀ e ∈ operands, e.ty = element) :
    EvaluatesSafely args (.arrayOf ⟨.array element, span⟩ element operands) := by
  intro store trusted
  rw [visits] at trusted
  rw [eval]
  exact Safe.bind (evalAll_safe safe trusted) fun values last _ goods =>
    newArray_run (items_good goods same)

theorem cast_safe (operand : EvaluatesSafely args l) :
    EvaluatesSafely args (.cast ⟨ty, span⟩ l) := by
  intro store trusted
  rw [visits] at trusted
  rw [eval]
  exact Safe.bind (operand store trusted) fun value _ _ good =>
    .ofExcept (Value.cast_meant good.filled l.ty ty)

theorem asInstance_good {value : Value} {target : Ty} (filled : value.Filled)
    (nullable : target.acceptsNull) : (value.asInstance target).Good target := by
  unfold Value.asInstance
  split
  case isTrue instance_ =>
    simp only [Value.isInstance, Bool.and_eq_true] at instance_
    exact ⟨.inl instance_.2, filled⟩
  case isFalse => exact .null nullable

end Nodes

/-- Evaluation is safe at every node of a tree that obeys the typing discipline. -/
theorem evaluates_safely {e : Expr} (typed : WellTyped scope e) (given : Given scope.params args)
    (concrete : ∀ ty, scope.Denotes ty → ∀ index, ty ≠ .param index) : EvaluatesSafely args e := by
  induction typed with
  | literal constant =>
    intro store trusted
    rw [eval]
    exact constant.good
  | parameter declared =>
    intro store trusted
    obtain ⟨value, found, good⟩ := given _ _ declared
    rw [eval]
    refine .ofExcept ?_
    simp only [argumentAt, found]
    exact good
  | unary _ takes operand =>
    intro store trusted
    rw [visits] at trusted
    rw [eval]
    exact Safe.bind (operand store trusted) fun value _ _ good =>
      .ofExcept (Value.operateUnary_meant takes good)
  | binary _ _ takes left right => exact binary_safe left right takes
  | conditional _ _ _ truth first second test yes no =>
    exact conditional_safe test yes no truth first second
  | coalesce _ _ _ same left right => exact coalesce_safe left right same
  | staticCall _ _ _ operands => exact staticCall_safe operands
  | call _ _ _ _ target operands => exact call_safe target operands
  | staticMember _ =>
    intro store trusted
    rw [visits] at trusted
    rw [eval]
    exact callNative_safe (trusted _ List.mem_cons_self)
  | member _ _ target => exact member_safe target
  | index _ _ array _ target position => exact index_safe target position array
  | create _ _ _ _ operands contents => exact create_safe operands contents
  | newArray _ _ written length => exact newArray_safe length (concrete _ written)
  | arrayOf _ same contents => exact arrayOf_safe contents same
  | cast _ _ _ operand => exact cast_safe operand
  | typeOf =>
    intro store trusted
    rw [eval]
    refine ⟨.inl rfl, .other ?_⟩
    intro identity element items same
    cases same
  | @sizeOf ty span sized =>
    intro store trusted
    obtain ⟨kind, found⟩ := Option.isSome_iff_exists.mp sized
    rw [eval, sizeValue, found]
    exact .of_kind rfl
  | is _ operand =>
    intro store trusted
    rw [visits] at trusted
    rw [eval]
    exact Safe.bind (operand store trusted) fun value _ _ _ => .pure (Value.Good.of_kind rfl)
  | as _ nullable operand =>
    intro store trusted
    rw [visits] at trusted
    rw [eval]
    exact Safe.bind (operand store trusted) fun value _ _ good =>
      .pure (asInstance_good good.filled nullable)

end Evaluation
end Expr

/-- No name stands for a parameter of a generic type: these occur in the types of members only. -/
def Registry.Concrete (registry : Registry) : Prop :=
  ∀ entry ∈ registry.entries, ∀ index, entry.ty = .param index → entry.name = ""

namespace Registry

variable {registry : Registry}

/-- Registering types under their own names keeps the parameters of generic types without one. -/
theorem Concrete.register {entry : Entry} (concrete : registry.Concrete)
    (named : entry.name = entry.ty.entryName) : (registry.register entry).2.Concrete := by
  have extended : ∀ hierarchy, Concrete ⟨registry.entries ++ [entry], hierarchy⟩ := by
    intro hierarchy other member index isParam
    rcases List.mem_append.mp member with member | member
    · exact concrete other member index isParam
    · obtain rfl := List.mem_singleton.mp member
      rw [named, isParam]
      rfl
  unfold Registry.register
  split
  case isTrue => exact concrete
  case isFalse =>
    simp only
    split
    case h_1 => exact extended _
    case h_2 =>
      split
      case isTrue => exact extended _
      case isFalse => exact concrete

theorem Concrete.resolveName {name : String} {ty : Ty} {index : Nat} (concrete : registry.Concrete)
    (nonempty : name ≠ "") (resolved : registry.resolveName name = some ty) : ty ≠ .param index := by
  rintro rfl
  rcases Option.or_eq_some_iff.mp resolved with builtin | ⟨-, registered⟩
  · unfold Ty.builtin? at builtin
    split at builtin
    case isTrue => cases builtin
    case isFalse =>
      split at builtin
      case isTrue => cases builtin
      case isFalse =>
        split at builtin
        case isTrue => cases builtin
        case isFalse =>
          obtain ⟨kind, -, same⟩ := Option.map_eq_some_iff.mp builtin
          cases same
  · obtain ⟨entry, found, isParam⟩ := Option.map_eq_some_iff.mp registered
    have named : entry.name = name := by simpa using List.find?_some found
    have unnamed := concrete entry (List.mem_of_find?_eq_some found) index isParam
    exact nonempty (named ▸ unnamed)

theorem instantiate_ne_param {definition ty : Ty} {args : List Ty} {index : Nat}
    (closed : registry.instantiate definition args = some ty) : ty ≠ .param index := by
  rintro rfl
  unfold instantiate at closed
  split at closed
  case h_1 =>
    split at closed
    case h_1 => cases closed
    case h_2 =>
      split at closed
      case isTrue => cases closed
      case isFalse =>
        split at closed
        case isTrue => split at closed <;> cases closed
        case isFalse => cases closed
  case h_2 => cases closed

theorem Concrete.denotes {namespaces : List String} {params : Parameters} {ty : Ty}
    (concrete : registry.Concrete)
    (written : Scope.Denotes ⟨registry.toUniverse, namespaces, params⟩ ty) (index : Nat) :
    ty ≠ .param index := by
  induction written with
  | name nonempty resolved =>
    rcases Option.or_eq_some_iff.mp resolved with keyword | ⟨-, resolved⟩
    · rintro rfl
      unfold Ty.ofKeyword? at keyword
      split at keyword
      case h_1 => cases keyword
      case h_2 =>
        split at keyword
        case isTrue => cases keyword
        case isFalse => split at keyword <;> cases keyword
    · rcases Option.or_eq_some_iff.mp resolved with qualified | ⟨-, inSpace⟩
      · exact concrete.resolveName nonempty qualified
      · obtain ⟨space, -, found⟩ := List.exists_of_findSome?_eq_some inSpace
        exact concrete.resolveName (by simp [String.append_eq_empty_iff]) found
  | generic _ resolved =>
    obtain ⟨definition, -, closed⟩ := Option.bind_eq_some_iff.mp resolved
    exact instantiate_ne_param closed
  | @nullable ty _ inner =>
    split
    case isTrue => exact inner
    case isFalse => cases ty <;> simp [Ty.toNullable]
  | array _ _ => simp

end Registry

namespace Function

variable {world : Universe} {body converted : Expr} {scope : Scope}

/-- The converted body has the type of the declared result, unless that is dropped. -/
theorem convertResult_typed {declared : Option Ty} (typed : WellTyped scope body)
    (ran : convertResult scope.world body declared = .ok converted) :
    WellTyped scope converted ∧ (declared.getD converted.ty = .void ∨
      declared.getD converted.ty = converted.ty) := by
  unfold convertResult at ran
  split at ran
  case h_1 =>
    cases ran
    exact ⟨typed, .inr rfl⟩
  case h_2 target =>
    split at ran
    case isTrue void =>
      cases ran
      exact ⟨typed, .inl (by simpa [Ty.isVoid] using void)⟩
    case isFalse =>
      split at ran
      case isTrue => cases ran
      case isFalse =>
        split at ran
        case isTrue converts =>
          cases ran
          exact ⟨Expr.castTo_typed typed converts, .inr (Expr.castTo_ty body target).symm⟩
        case isFalse => cases ran

theorem checkArgs_conform {args : List Value} {params : List Parameter} {first : Nat}
    (count : args.length = params.length) (accepted : checkArgs first args params = .ok ()) :
    List.Forall₂ (fun param arg => arg.conforms param.ty = true) params args := by
  induction params generalizing args first with
  | nil =>
    obtain rfl := List.eq_nil_of_length_eq_zero count
    exact .nil
  | cons param params ih =>
    cases args with
    | nil => cases count
    | cons arg args =>
      rw [checkArgs] at accepted
      split at accepted
      case isTrue conforms => exact .cons conforms (ih (Nat.succ.inj count) accepted)
      case isFalse => cases accepted

theorem accepted_given {args : List Value} {params : Parameters} {first : Nat}
    (count : args.length = params.list.length)
    (accepted : checkArgs first args params.list = .ok ()) (filled : ∀ arg ∈ args, arg.Filled) :
    Expr.Given params args := by
  intro ordinal param placed
  have conform := checkArgs_conform count accepted
  obtain ⟨inside, rfl⟩ := List.getElem?_eq_some_iff.mp placed
  have bound : ordinal < args.length := count ▸ inside
  refine ⟨args[ordinal], List.getElem?_eq_getElem bound, .inl ?_, filled _ (List.getElem_mem bound)⟩
  exact (List.forall₂_iff_get.mp conform).2 ordinal inside bound

/-- The body of a compiled function obeys the typing discipline, and the result has its type unless
it is dropped. -/
theorem compile_typed {registry : Registry} {signature : Signature} {options : Options}
    {source : String} {function : Function}
    (compiled : compile registry.toUniverse signature options source = .ok function) :
    WellTyped ⟨registry.toUniverse, options.namespaces, function.params⟩ function.bound.body ∧
      (function.result = .void ∨ function.result = function.bound.body.ty) := by
  obtain ⟨bound, binds, same⟩ := except_then.mp compiled
  cases same
  obtain ⟨⟨receiver, declared⟩, -, binds⟩ := except_then.mp binds
  obtain ⟨parsed, read, binds⟩ := except_then.mp binds
  obtain ⟨body, converts, same⟩ := except_then.mp binds
  cases same
  obtain ⟨numbered, s, t, proper, reads⟩ := Lambda.parse_reads read
  have typed := reads.typed registry.toUniverse_lawful numbered proper
  exact convertResult_typed typed converts

/-- Where the arguments are accepted, calling a function is evaluating its body. -/
theorem invoke_run {function : Function} {args : List Value}
    (count : args.length = function.params.list.length)
    (accepted : checkArgs 0 args function.params.list = .ok ()) :
    function.invoke args = (do
      let value ← function.bound.body.eval args
      return if function.result.isVoid then .null else value) := by
  unfold invoke
  simp only [count, ne_eq, not_true_eq_false, ↓reduceIte, accepted]
  rfl

theorem result_conforms {result ty : Ty} {value : Value} (same : result = .void ∨ result = ty)
    (good : value.Good ty) :
    if result = .void then (if result.isVoid then .null else value) = .null
      else (if result.isVoid then .null else value).conforms result := by
  split
  case isTrue void => simp [void, Ty.isVoid]
  case isFalse some =>
    obtain rfl := same.resolve_left some
    have notVoid : result.isVoid = false := by simpa [Ty.isVoid] using some
    obtain conforms | ⟨void, -⟩ := good.fits
    · simpa [notVoid] using conforms
    · exact absurd void some

/-- Type soundness. Arguments that a compiled function accepts, with nothing in their arrays that does
not belong there, lead to a result of the declared type or to a failure other than that of an operand,
condition, indexed value or parameter of the wrong type, as long as the calls that are made come to
what their members promise. -/
theorem invoke_sound {registry : Registry} {signature : Signature} {options : Options}
    {source : String} {function : Function} {args : List Value} {store : Store}
    (concrete : registry.Concrete)
    (compiled : compile registry.toUniverse signature options source = .ok function)
    (count : args.length = function.params.list.length)
    (accepted : checkArgs 0 args function.params.list = .ok ())
    (filled : ∀ arg ∈ args, arg.Filled)
    (kept : ∀ visit ∈ function.bound.body.visits args store, visit.Kept) :
    match (function.invoke args store).1 with
    | .ok value =>
      if function.result = .void then value = .null else value.conforms function.result
    | .error e => e.isMistyped = false := by
  obtain ⟨typed, result⟩ := compile_typed compiled
  have given := accepted_given count accepted filled
  have safe := Expr.evaluates_safely typed given (fun _ written => concrete.denotes written) store
    kept
  have meant : Expr.Safe (fun value => if function.result = .void then value = .null
      else value.conforms function.result) (function.invoke args store) := by
    rw [invoke_run count accepted]
    exact Expr.Safe.bind safe fun value last _ good => .pure (result_conforms result good)
  unfold Expr.Safe at meant
  cases outcome : (function.invoke args store).1 with
  | ok value =>
    rw [outcome] at meant
    exact meant
  | error e =>
    rw [outcome] at meant
    exact meant

/-- Two calls are made: the indexer of the particle, and the number of its tags. -/
theorem invoke_sound_particle :
    let registry := (Registry.empty.register (Library.particleClass Registry.empty)).2
    let signature : Signature := ⟨some [⟨some "p", some (.named "Physics.Particle")⟩,
      ⟨some "xs", some (.array .int)⟩], some .long⟩
    let args : List Value := [.object ⟨.named "Physics.Particle", Library.particleHost, 0⟩,
      .array 1 .int [.int 4, .int 5]]
    let store : Store := ⟨2, [(0, .record [] [.string "a"])], id⟩
    ∃ function, compile registry.toUniverse signature ⟨[], none, false⟩
        "p[0] != null && xs[0] > 1 ? xs[1] + p.TagCount : -1" = .ok function ∧
      registry.Concrete ∧ args.length = function.params.list.length ∧
      checkArgs 0 args function.params.list = .ok () ∧ (∀ arg ∈ args, arg.Filled) ∧
      (∀ visit ∈ function.bound.body.visits args store, visit.Kept) ∧
      match (function.invoke args store).1 with
      | .ok value =>
        if function.result = .void then value = .null else value.conforms function.result
      | .error e => e.isMistyped = false := by
  intro registry signature args store
  have concrete : registry.Concrete := by
    refine Registry.Concrete.register ?_ rfl
    exact fun _ member => nomatch member
  obtain ⟨function, compiled, count, accepted, kept⟩ :
      ∃ function, compile registry.toUniverse signature ⟨[], none, false⟩
        "p[0] != null && xs[0] > 1 ? xs[1] + p.TagCount : -1" = .ok function ∧
      args.length = function.params.list.length ∧
      checkArgs 0 args function.params.list = .ok () ∧
      ∀ visit ∈ function.bound.body.visits args store, visit.Kept :=
    exists_ok_that (by decide +kernel)
  have filled : ∀ arg ∈ args, arg.Filled := by decide +kernel
  exact ⟨function, compiled, concrete, count, accepted, filled, kept,
    invoke_sound concrete compiled count accepted filled kept⟩

/-- Where a name stands for a parameter of a generic type, a formula can make an array of that type.
The array is filled with `null`, which does not conform to the type, and an item of it is the result.
There are no arguments, and nothing is called. -/
theorem invoke_unsound_placeholder :
    let entry := Entry.new "Foo" (.param 0) .builtin none
    let registry := (Registry.empty.register entry).2
    ∃ function, compile registry.toUniverse ⟨some [], none⟩ ⟨[], none, false⟩
        "(new Foo[1])[0]" = .ok function ∧
      ¬ registry.Concrete ∧ function.params.list.length = 0 ∧
      checkArgs 0 [] function.params.list = .ok () ∧
      function.bound.body.visits [] .empty = [] ∧ function.result = .param 0 ∧
      ∃ value ∈ (function.invoke [] .empty).1.toOption,
        value.isNull = true ∧ value.conforms function.result = false := by
  intro entry registry
  have placeholder : ¬ registry.Concrete := by
    intro concrete
    have unnamed := concrete entry (List.mem_singleton.mpr rfl) 0 rfl
    exact absurd unnamed (by decide)
  obtain ⟨function, compiled, others⟩ :
      ∃ function, compile registry.toUniverse ⟨some [], none⟩ ⟨[], none, false⟩
        "(new Foo[1])[0]" = .ok function ∧ function.params.list.length = 0 ∧
      checkArgs 0 [] function.params.list = .ok () ∧
      function.bound.body.visits [] .empty = [] ∧ function.result = .param 0 ∧
      ∃ value ∈ (function.invoke [] .empty).1.toOption,
        value.isNull = true ∧ value.conforms function.result = false :=
    exists_ok_that (by decide +kernel)
  exact ⟨function, compiled, placeholder, others⟩

end Function
end Formula
