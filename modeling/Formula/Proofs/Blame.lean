import Formula.Proofs.Composition
import Formula.Proofs.Invocations

/-! Whose failure a failed run reports. What a node computes by itself fails for reasons of its own,
and a failure of a callable is handed on as it is. So a run that reports such a failure has made a
call that came to it, unless a value was to be assigned to a member that nothing assigns to. -/
namespace Formula

/-- A failure that is not that of a callable. -/
def RuntimeError.IsOwn : RuntimeError → Prop
  | native _ => False
  | _ => True

namespace Value

variable {a b : Value} {α : Type}

/-- An outcome other than the failure of a callable. -/
def Own : Except RuntimeError α → Prop
  | .ok _ => True
  | .error error => error.IsOwn

section Operators

theorem decimalResult_own {operation : Operation} (computed : Option Decimal) :
    Own (decimalResult operation computed) := by
  cases computed <;> trivial

theorem arithmetic_own (rule : Arithmetic) : Own (arithmetic rule a b) := by
  unfold arithmetic
  split
  case h_1 => split <;> trivial
  case h_4 => exact decimalResult_own _
  all_goals trivial

theorem division_own (rule : Arithmetic) : Own (division rule a b) := by
  unfold division
  split
  case isTrue => trivial
  case isFalse => exact arithmetic_own rule

/-- No operator reports the failure of a callable: its faults are those of arithmetic and of kinds.
-/
theorem operate_own {op : BinaryOp} {compute : Value → Value → Except RuntimeError Value}
    (computes : operate? op = some compute) : Own (compute a b) := by
  cases op <;> cases computes
  case add | sub | mul => exact arithmetic_own _
  case div | rem => exact division_own _
  case shiftLeft | shiftRight =>
    unfold shift
    split
    case h_1 => split <;> trivial
    case h_2 => trivial
  case less | greater | lessEqual | greaterEqual =>
    unfold comparison
    split <;> trivial
  case bitAnd | bitOr | bitXor =>
    unfold bitwise
    split
    case h_2 => split <;> trivial
    all_goals trivial
  case equal | notEqual => trivial

theorem operateUnary_own (op : UnaryOp) : Own (a.operateUnary op) := by
  cases op with
  | negate =>
    change Own (negate a)
    unfold negate
    split
    case h_1 => split <;> trivial
    all_goals trivial
  | not => cases a <;> trivial
  | complement => cases a <;> trivial

theorem truth_own : Own a.truth := by
  cases a <;> trivial

end Operators

section Conversions

theorem ofCode_own (code : Nat) : Own (ofCode code) := by
  unfold ofCode
  split <;> trivial

theorem ofDecimal?_own (converted : Option Decimal) : Own (ofDecimal? converted) := by
  cases converted <;> trivial

/-- No conversion between kinds reports the failure of a callable. -/
theorem toKind_own (kind : Kind) : Own (a.toKind kind) := by
  unfold toKind
  split
  case isTrue => trivial
  case isFalse =>
    split
    case isTrue => trivial
    case isFalse =>
      cases a with
      | char | integer =>
        cases kind with
        | char => exact ofCode_own _
        | decimal => exact ofDecimal?_own _
        | bool | integer | float | double => trivial
      | float | double =>
        cases kind with
        | char => exact ofCode_own _
        | decimal => exact ofDecimal?_own _
        | bool | integer | float | double => trivial
      | decimal d =>
        cases kind with
        | char =>
          simp only [ofDecimal]
          split
          case h_1 => exact ofCode_own _
          case h_2 => trivial
        | integer =>
          simp only [ofDecimal]
          split <;> trivial
        | bool | float | double | decimal => trivial
      | null | bool | string | type | array | object => trivial

/-- A cast fails with an invalid cast or with what a conversion between kinds reports. -/
theorem cast_own (source target : Ty) : Own (a.cast source target) := by
  unfold cast
  split
  case isTrue =>
    split
    case isTrue => trivial
    case isFalse => split <;> trivial
  case isFalse =>
    split
    case h_1 => trivial
    case h_2 kind _ =>
      split
      case isTrue => exact toKind_own kind
      case isFalse => split <;> trivial
    case h_3 => split <;> trivial

end Conversions
end Value

namespace Expr

open Value

variable {α β : Type} {args : List Value} {store last : Store} {blame : NativeError → Prop}

section Nodes

theorem argumentAt_own (args : List Value) (ordinal : Nat) : Own (argumentAt args ordinal) := by
  unfold argumentAt
  split <;> trivial

theorem checkReceiver_own (static : Ty) (use : Use) (value : Value) :
    Own (checkReceiver static use value) := by
  unfold checkReceiver
  split <;> trivial

theorem itemsOf_own (value : Value) : Own (itemsOf value) := by
  cases value <;> trivial

theorem itemAt_own (items : List Value) (position : Value) : Own (itemAt items position) := by
  unfold itemAt
  simp only
  split <;> trivial

theorem lengthOf_own (value : Value) : Own (lengthOf value) := by
  unfold lengthOf
  split
  case h_1 => split <;> trivial
  case h_2 => trivial

theorem sizeValue_own (ty : Ty) : Own (sizeValue ty) := by
  unfold sizeValue
  split <;> trivial

end Nodes

/-- If an outcome is the failure of a callable, that failure is to blame. -/
def Blamed (blame : NativeError → Prop) (outcome : Except RuntimeError α × Store) : Prop :=
  ∀ error, outcome.1 = .error (.native error) → blame error

/-- The failures of some calls are to blame. -/
def Faulty (blame : NativeError → Prop) (calls : List Invocation) : Prop :=
  ∀ made ∈ calls, ∀ error, (made.native made.call made.store).1 = .error error → blame error

/-- How an assignment fails to a member that nothing assigns to. -/
def unassigned (member : String) : NativeError := .other s!"'{member}' cannot be assigned"

/-- What is assigned in the braces of a node without a setter is to blame. -/
def Unset (blame : NativeError → Prop) (e : Expr) : Prop :=
  ∀ refs, e.filling = .members refs → ∀ ref ∈ refs, ref.setter = none → blame (unassigned ref.name)

section Runs

variable {first second : List Invocation} {outcome : Except RuntimeError α × Store}
  {rest : α → Store → List Invocation} {a : α}

theorem Faulty.left (faulty : Faulty blame (first ++ second)) : Faulty blame first :=
  fun made member => faulty made (List.mem_append_left _ member)

theorem Faulty.right (faulty : Faulty blame (first ++ second)) : Faulty blame second :=
  fun made member => faulty made (List.mem_append_right _ member)

/-- Behind an outcome, only the calls that follow it are to blame. -/
theorem Faulty.after (faulty : Faulty blame (afterOk outcome rest))
    (ran : outcome = (.ok a, last)) : Faulty blame (rest a last) := by
  rwa [ran] at faulty

theorem Faulty.head {made : Invocation} (faulty : Faulty blame (made :: second)) :
    Faulty blame [made] :=
  fun _ member => faulty _ (List.mem_singleton.mp member ▸ List.mem_cons_self)

theorem Faulty.tail {made : Invocation} (faulty : Faulty blame (made :: second)) :
    Faulty blame second :=
  fun other member => faulty other (List.mem_cons_of_mem _ member)

/-- A run that goes on reports what its first part reports, or else what it goes on to. -/
theorem Blamed.bind {first : Run α} {rest : α → Run β} (blamed : Blamed blame (first store))
    (goesOn : ∀ a after, first store = (.ok a, after) → Blamed blame (rest a after)) :
    Blamed blame ((first >>= rest) store) := by
  rw [run_bind]
  cases ran : first store with
  | mk outcome after =>
    rw [ran] at blamed
    cases outcome with
    | ok a => exact goesOn a after ran
    | error e =>
      intro error failed
      cases failed
      exact blamed error rfl

theorem Blamed.own {outcome : Except RuntimeError α} (own : Own outcome) :
    Blamed blame ((Action.ofExcept outcome : Run α) store) := by
  intro error failed
  cases outcome with
  | ok a => cases failed
  | error e =>
    cases failed
    exact absurd own id

/-- What is settled without a call is passed over: the blame lies behind it. -/
theorem Blamed.known {outcome : Except RuntimeError α} {rest : α → Run β} (own : Own outcome)
    (goesOn : ∀ a, outcome = .ok a → Blamed blame (rest a store)) :
    Blamed blame ((Action.ofExcept outcome >>= rest : Run β) store) := by
  refine .bind (.own own) fun a after ran => ?_
  cases outcome with
  | ok found =>
    cases ran
    exact goesOn a rfl
  | error e => cases ran

theorem Blamed.pure (a : α) : Blamed blame ((Pure.pure a : Run α) store) := nofun

/-- A callable that fails in a run is one of the calls, with that failure. -/
theorem callNative_blamed {made : Invocation} {native : Native} {this : Option Value}
    {given : List Value} {declaring : Ty} (faulty : Faulty blame [made])
    (same : made.native = native) (sameCall : made.call = ⟨this, given, declaring⟩) :
    Blamed blame (callNative native this given declaring made.store) := by
  intro error failed
  refine faulty made List.mem_cons_self error ?_
  rw [same, sameCall]
  unfold callNative Action.mapError at failed
  cases answered : native ⟨this, given, declaring⟩ made.store with
  | mk answer after =>
    rw [answered] at failed
    cases answer with
    | ok value => cases failed
    | error found =>
      cases failed
      rfl

/-- A step of an initializer fails as its callable does, and otherwise only for want of a setter. -/
theorem takeStep_blamed {static : Ty} {object value : Value} {handover : Handover}
    (faulty : Faulty blame (handing static object value handover store))
    (unset : handover.step.native = none → blame (unassigned handover.step.name)) :
    Blamed blame (takeStep object value handover.step store) := by
  unfold handing at faulty
  unfold takeStep
  cases native : handover.step.native with
  | none =>
    intro error failed
    cases failed
    exact unset native
  | some native =>
    rw [native] at faulty
    exact .bind (callNative_blamed faulty rfl rfl) fun _ _ _ => .pure _

end Runs

/-- The steps of an initializer without a setter are to blame, if those of its members are. -/
theorem unset_handovers {e : Expr} (unset : Unset blame e) :
    ∀ handover ∈ handovers e.filling, handover.step.native = none →
      blame (unassigned handover.step.name) := by
  intro handover listed none
  cases filled : e.filling with
  | none =>
    rw [filled] at listed
    cases listed
  | members refs =>
    rw [filled] at listed
    obtain ⟨ref, member, rfl⟩ := List.mem_map.mp listed
    exact unset refs filled ref member none
  | adds refs =>
    rw [filled] at listed
    obtain ⟨ref, member, rfl⟩ := List.mem_map.mp listed
    cases none

mutual
/-- The failure of a callable that a run reports is that of a call it makes, or that of an
assignment to a member without a setter. -/
theorem eval_blamed : (e : Expr) → (store : Store) → Everywhere (Unset blame) e →
    Faulty blame (invocations args e store) → Blamed blame (eval args e store)
  | literal _ _, _, _, _ | typeOf _ _, _, _, _ => by
    rw [eval]
    exact .pure _
  | parameter _ ordinal _, _, _, _ => by
    rw [eval]
    exact .own (argumentAt_own args ordinal)
  | sizeOf _ ty, _, _, _ => by
    rw [eval]
    exact .own (sizeValue_own ty)
  | unary _ op operand, store, unset, faulty => by
    rw [invocations] at faulty
    rw [eval]
    refine .bind (eval_blamed operand store (unset.child (by simp [children])) faulty) ?_
    exact fun value after _ => .own (operateUnary_own op)
  | cast info operand, store, unset, faulty => by
    rw [invocations] at faulty
    rw [eval]
    refine .bind (eval_blamed operand store (unset.child (by simp [children])) faulty) ?_
    exact fun value after _ => .own (cast_own _ _)
  | typeTest _ _ _ operand, store, unset, faulty => by
    rw [invocations] at faulty
    rw [eval]
    refine .bind (eval_blamed operand store (unset.child (by simp [children])) faulty) ?_
    exact fun value after _ => .pure _
  | newArray _ _ length, store, unset, faulty => by
    rw [invocations] at faulty
    rw [eval]
    refine .bind (eval_blamed length store (unset.child (by simp [children])) faulty) ?_
    exact fun value after _ => .known (lengthOf_own value) fun _ _ => nofun
  | binary _ op left right, store, unset, faulty => by
    rw [invocations] at faulty
    have first := eval_blamed left store (unset.child (by simp [children])) faulty.left
    have second : Everywhere (Unset blame) right := unset.child (by simp [children])
    cases computes : Value.operate? op with
    | some compute =>
      rw [eval_computed computes]
      refine .bind first fun a after ran => ?_
      have later := faulty.right.after ran
      rw [needsRight_of_computes computes] at later
      exact .bind (eval_blamed right after second later) fun b last _ => .own (operate_own computes)
    | none =>
      rw [eval_logical computes]
      refine .bind first fun a after ran => ?_
      refine .known truth_own fun x truth => ?_
      split
      case isTrue => exact .pure _
      case isFalse unsettled =>
        have later := faulty.right.after ran
        rw [truth_ok truth, needsRight_of_open computes unsettled] at later
        refine .bind (eval_blamed right after second later) fun b last _ => ?_
        exact .known truth_own fun _ _ => .pure _
  | conditional _ test yes no, store, unset, faulty => by
    rw [invocations] at faulty
    rw [eval]
    refine .bind (eval_blamed test store (unset.child (by simp [children])) faulty.left) ?_
    intro value after ran
    refine .known truth_own fun x truth => ?_
    have later := faulty.right.after ran
    rw [truth_ok truth] at later
    cases x with
    | true => exact eval_blamed yes after (unset.child (by simp [children])) later
    | false => exact eval_blamed no after (unset.child (by simp [children])) later
  | coalesce _ left right, store, unset, faulty => by
    rw [invocations] at faulty
    rw [eval]
    refine .bind (eval_blamed left store (unset.child (by simp [children])) faulty.left) ?_
    intro value after ran
    have later := faulty.right.after ran
    split
    case isTrue isNull =>
      rw [if_pos isNull] at later
      exact eval_blamed right after (unset.child (by simp [children])) later
    case isFalse => exact .own (cast_own _ _)
  | staticCall _ method operands, store, unset, faulty => by
    rw [invocations] at faulty
    rw [eval]
    have given : ∀ operand ∈ operands, Everywhere (Unset blame) operand :=
      fun operand member => unset.child member
    refine .bind (evalAll_blamed operands store given faulty.left) fun values after ran => ?_
    exact callNative_blamed (faulty.right.after ran) rfl rfl
  | call _ method target operands, store, unset, faulty => by
    rw [invocations] at faulty
    rw [eval]
    have given : ∀ operand ∈ operands, Everywhere (Unset blame) operand :=
      fun operand member => unset.child (List.mem_cons_of_mem _ member)
    refine .bind (eval_blamed target store (unset.child (by simp [children])) faulty.left) ?_
    intro this after ran
    refine .known (checkReceiver_own _ _ _) fun usable checked => ?_
    have later := faulty.right.after ran
    rw [checked] at later
    refine .bind (evalAll_blamed operands after given later.left) fun values last ran => ?_
    exact callNative_blamed (later.right.after ran) rfl rfl
  | staticMember _ ref, store, unset, faulty => by
    rw [invocations] at faulty
    rw [eval]
    exact callNative_blamed faulty rfl rfl
  | member _ ref target, store, unset, faulty => by
    rw [invocations] at faulty
    rw [eval]
    refine .bind (eval_blamed target store (unset.child (by simp [children])) faulty.left) ?_
    intro this after ran
    refine .known (checkReceiver_own _ _ _) fun usable checked => ?_
    have later := faulty.right.after ran
    rw [checked] at later
    exact callNative_blamed later rfl rfl
  | index _ target position, store, unset, faulty => by
    rw [invocations] at faulty
    rw [eval]
    refine .bind (eval_blamed target store (unset.child (by simp [children])) faulty.left) ?_
    intro array after ran
    refine .known (checkReceiver_own _ _ _) fun usable checked => ?_
    refine .known (itemsOf_own usable) fun items found => ?_
    have later := faulty.right.after ran
    rw [checked] at later
    have later : Faulty blame (match itemsOf usable with
      | .error _ => []
      | .ok _ => invocations args position after) := later
    rw [found] at later
    refine .bind (eval_blamed position after (unset.child (by simp [children])) later) ?_
    exact fun at_ last _ => .own (itemAt_own items at_)
  | create _ ref operands init values, store, unset, faulty => by
    rw [invocations] at faulty
    rw [eval, ← handovers_step init]
    have given : ∀ operand ∈ operands, Everywhere (Unset blame) operand :=
      fun operand member => unset.child (List.mem_append_left _ member)
    have contents : ∀ value ∈ values, Everywhere (Unset blame) value :=
      fun value member => unset.child (List.mem_append_right _ member)
    refine .bind (evalAll_blamed operands store given faulty.left) fun given after ran => ?_
    have later := faulty.right.after ran
    refine .bind (callNative_blamed later.head rfl rfl) fun object last made => ?_
    have steps := evalSteps_blamed ref.ty object (handovers init) values last
      (unset_handovers unset.own) contents (later.tail.after made)
    exact .bind steps fun _ _ _ => .pure _
  | arrayOf _ _ items, store, unset, faulty => by
    rw [invocations] at faulty
    rw [eval]
    exact .bind (evalAll_blamed items store (fun item member => unset.child member) faulty)
      fun _ _ _ => nofun

theorem evalAll_blamed : (operands : List Expr) → (store : Store) →
    (∀ operand ∈ operands, Everywhere (Unset blame) operand) →
    Faulty blame (invocationsAll args operands store) → Blamed blame (evalAll args operands store)
  | [], _, _, _ => by
    rw [evalAll]
    exact .pure _
  | expr :: rest, store, unset, faulty => by
    rw [invocationsAll] at faulty
    rw [evalAll]
    have ⟨first, others⟩ := List.forall_mem_cons.mp unset
    refine .bind (eval_blamed expr store first faulty.left) fun value after ran => ?_
    exact .bind (evalAll_blamed rest after others (faulty.right.after ran)) fun _ _ _ => .pure _

theorem evalSteps_blamed (static : Ty) (object : Value) : (todo : List Handover) →
    (values : List Expr) → (store : Store) →
    (∀ handover ∈ todo, handover.step.native = none → blame (unassigned handover.step.name)) →
    (∀ value ∈ values, Everywhere (Unset blame) value) →
    Faulty blame (invocationsSteps args static object todo values store) →
    Blamed blame (evalSteps args object (todo.map (·.step)) values store)
  | handover :: todo, expr :: rest, store, steps, unset, faulty => by
    rw [invocationsSteps] at faulty
    rw [List.map_cons, evalSteps]
    have ⟨step, otherSteps⟩ := List.forall_mem_cons.mp steps
    have ⟨first, others⟩ := List.forall_mem_cons.mp unset
    refine .bind (eval_blamed expr store first faulty.left) fun value after ran => ?_
    have later := faulty.right.after ran
    refine .bind (takeStep_blamed later.left step) fun _ last took => ?_
    exact evalSteps_blamed static object todo rest last otherSteps others (later.right.after took)
  | [], values, _, _, _, _ => by
    rw [List.map_nil, evalSteps]
    · exact .pure _
    · simp
  | handover :: todo, [], _, _, _, _ => by
    rw [List.map_cons, evalSteps]
    · exact .pure _
    · simp
end

end Expr
end Formula
