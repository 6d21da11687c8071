import Formula.Proofs.HostValues
import Formula.Proofs.Safety
import Formula.Proofs.Shapes

/-! Calls with host values. A function that was compiled against host shapes has their types as its
parameters, so host values of these shapes are accepted and its body finds every argument that it
reads; a default instance in front of the parameters takes one more argument, for which a call with
host values has no place. -/
namespace Formula

namespace RuntimeError

/-- Failures of the arguments of a call: their number or the type of one of them. -/
def isOfArguments : RuntimeError → Bool
  | argumentCount _ _ | missingArgument _ _ | argumentType _ _ => true
  | _ => false

theorem isOfArguments_iff {e : RuntimeError} :
    e.isOfArguments ↔ e.name = "ArgumentCount" ∨ e.name = "ArgumentType" := by
  cases e <;> simp [isOfArguments, name]

end RuntimeError

/-- An outcome in which the arguments of the call are not at fault. -/
def Sparing {α : Type} : Except RuntimeError α → Prop
  | .ok _ => True
  | .error e => e.isOfArguments = false

namespace Value

variable {a b value : Value}

theorem decimalResult_sparing (operation : Operation) (computed : Option Decimal) :
    Sparing (decimalResult operation computed) := by
  cases computed <;> trivial

theorem arithmetic_sparing (rule : Arithmetic) : Sparing (arithmetic rule a b) := by
  unfold arithmetic
  split
  case h_1 => split <;> trivial
  case h_4 => exact decimalResult_sparing _ _
  all_goals trivial

theorem bitwise_sparing {operation : Operation} {onBool : Bool → Bool → Bool}
    {onWord : (kind : IntKind) → Word kind → Word kind → Word kind} :
    Sparing (bitwise operation onBool onWord a b) := by
  unfold bitwise
  split
  case h_2 => split <;> trivial
  all_goals trivial

theorem operate_sparing {op : BinaryOp} {compute : Value → Value → Except RuntimeError Value}
    (computes : operate? op = some compute) : Sparing (compute a b) := by
  cases op with
  | add | sub | mul =>
    cases computes
    exact arithmetic_sparing _
  | div | rem =>
    cases computes
    unfold division
    split
    case isTrue => trivial
    case isFalse => exact arithmetic_sparing _
  | shiftLeft | shiftRight =>
    cases computes
    unfold shift
    split
    case h_1 => split <;> trivial
    case h_2 => trivial
  | less | greater | lessEqual | greaterEqual =>
    cases computes
    unfold comparison
    split <;> trivial
  | equal | notEqual =>
    cases computes
    trivial
  | bitAnd | bitOr | bitXor =>
    cases computes
    exact bitwise_sparing
  | and | or => cases computes

theorem operateUnary_sparing (op : UnaryOp) : Sparing (value.operateUnary op) := by
  cases op with
  | negate =>
    cases value with
    | integer kind n =>
      simp only [operateUnary, negate]
      split <;> trivial
    | _ => trivial
  | not => cases value <;> trivial
  | complement => cases value <;> trivial

theorem truth_sparing : Sparing value.truth := by
  cases value <;> trivial

theorem ofCode_sparing (code : Nat) : Sparing (ofCode code) := by
  unfold ofCode
  split <;> trivial

theorem ofDecimal?_sparing (converted : Option Decimal) : Sparing (ofDecimal? converted) := by
  cases converted <;> trivial

theorem ofInteger_sparing (n : Int) (kind : Kind) : Sparing (ofInteger n kind) := by
  cases kind with
  | char => exact ofCode_sparing _
  | decimal => exact ofDecimal?_sparing _
  | bool | integer | float | double => trivial

theorem ofFloating_sparing (x : Float) (kind : Kind) : Sparing (ofFloating x kind) := by
  cases kind with
  | char => exact ofCode_sparing _
  | decimal => exact ofDecimal?_sparing _
  | bool | integer | float | double => trivial

theorem ofDecimal_sparing (d : Decimal) (kind : Kind) : Sparing (ofDecimal d kind) := by
  cases kind with
  | char =>
    simp only [ofDecimal]
    split
    case h_1 => exact ofCode_sparing _
    case h_2 => trivial
  | integer =>
    simp only [ofDecimal]
    split <;> trivial
  | bool | float | double | decimal => trivial

theorem toKind_sparing (kind : Kind) : Sparing (value.toKind kind) := by
  unfold toKind
  split
  case isTrue => trivial
  case isFalse =>
    split
    case isTrue => trivial
    case isFalse =>
      cases value with
      | char | integer => exact ofInteger_sparing _ kind
      | float | double => exact ofFloating_sparing _ kind
      | decimal => exact ofDecimal_sparing _ kind
      | null | bool | string | type | array | object => trivial

theorem cast_sparing (source target : Ty) : Sparing (value.cast source target) := by
  unfold cast
  split
  case isTrue =>
    split
    case isTrue => trivial
    case isFalse => split <;> trivial
  case isFalse =>
    split
    case h_1 => trivial
    case h_2 =>
      split
      case isTrue => exact toKind_sparing _
      case isFalse => split <;> trivial
    case h_3 => split <;> trivial

end Value

namespace Expr

/-- A run in which the arguments of the call are never at fault. -/
def Spares {α : Type} (run : Run α) : Prop := ∀ store, Sparing (run store).1

section Runs

variable {α β : Type}

theorem Spares.pure {a : α} : Spares (Pure.pure a : Run α) := fun _ => trivial

theorem Spares.bind {first : Run α} {rest : α → Run β} (spares : Spares first)
    (goesOn : ∀ a, Spares (rest a)) : Spares (first >>= rest) := by
  intro store
  have here := spares store
  rw [run_bind]
  cases ran : first store with
  | mk outcome after =>
    rw [ran] at here
    cases outcome with
    | ok a => exact goesOn a after
    | error e => exact here

theorem Spares.ofExcept {outcome : Except RuntimeError α} (sparing : Sparing outcome) :
    Spares (Action.ofExcept outcome : Run α) := by
  intro store
  cases outcome <;> exact sparing

/-- Whatever a callable fails with is its own failure. -/
theorem callNative_spares {native : Native} {this : Option Value} {given : List Value}
    {declaring : Ty} : Spares (callNative native this given declaring) := by
  intro store
  unfold callNative Action.mapError
  cases native ⟨this, given, declaring⟩ store with
  | mk outcome after => cases outcome <;> trivial

theorem checkReceiver_sparing {static : Ty} {use : Use} {value : Value} :
    Sparing (checkReceiver static use value) := by
  unfold checkReceiver
  split <;> trivial

theorem itemsOf_sparing {value : Value} : Sparing (itemsOf value) := by
  cases value <;> trivial

theorem itemAt_sparing {items : List Value} {position : Value} : Sparing (itemAt items position) := by
  unfold itemAt
  simp only
  split <;> trivial

theorem lengthOf_sparing {value : Value} : Sparing (lengthOf value) := by
  unfold lengthOf
  split
  case h_1 => split <;> trivial
  case h_2 => trivial

theorem sizeValue_sparing {ty : Ty} : Sparing (sizeValue ty) := by
  unfold sizeValue
  split <;> trivial

end Runs

section Evaluation

variable {args : List Value} {scope : Scope} {operands : List Expr}

theorem evalAll_spares (each : ∀ e ∈ operands, Spares (eval args e)) :
    Spares (evalAll args operands) := by
  induction operands with
  | nil =>
    rw [evalAll]
    exact .pure
  | cons e rest ih =>
    obtain ⟨here, later⟩ := List.forall_mem_cons.mp each
    rw [evalAll]
    exact here.bind fun value => (ih later).bind fun values => .pure

theorem takeStep_spares {object value : Value} {step : Step} :
    Spares (takeStep object value step) := by
  unfold takeStep
  cases step.native with
  | some native => exact callNative_spares.bind fun _ => .pure
  | none => exact fun _ => rfl

theorem evalSteps_spares {object : Value} {todo : List Step} {values : List Expr}
    (each : ∀ e ∈ values, Spares (eval args e)) : Spares (evalSteps args object todo values) := by
  induction values generalizing todo with
  | nil =>
    cases todo <;> exact .pure
  | cons e rest ih =>
    cases todo with
    | nil => exact .pure
    | cons step todo =>
      obtain ⟨here, later⟩ := List.forall_mem_cons.mp each
      rw [evalSteps]
      exact here.bind fun value => takeStep_spares.bind fun _ => ih later

theorem binary_spares {info : Info} {op : BinaryOp} {l r : Expr} (left : Spares (eval args l))
    (right : Spares (eval args r)) : Spares (eval args (.binary info op l r)) := by
  cases computes : Value.operate? op with
  | some compute =>
    rw [eval_computed computes]
    exact left.bind fun a => right.bind fun b => .ofExcept (Value.operate_sparing computes)
  | none =>
    rw [eval_logical computes]
    refine left.bind fun a => Spares.bind (.ofExcept Value.truth_sparing) fun x => ?_
    split
    case isTrue => exact .pure
    case isFalse =>
      exact right.bind fun b => Spares.bind (.ofExcept Value.truth_sparing) fun y => .pure

/-- A tree against some parameters finds an argument wherever it reads one, if there are as many. -/
theorem eval_spares {e : Expr} (typed : WellTyped scope e)
    (count : args.length = scope.params.list.length) : Spares (eval args e) := by
  induction typed with
  | literal | typeOf =>
    rw [eval]
    exact .pure
  | parameter declared =>
    obtain ⟨inside, -⟩ := List.getElem?_eq_some_iff.mp declared
    rw [eval, argumentAt, List.getElem?_eq_getElem (count ▸ inside)]
    exact .pure
  | unary _ _ operand =>
    rw [eval]
    exact operand.bind fun value => .ofExcept (Value.operateUnary_sparing _)
  | binary _ _ _ left right => exact binary_spares left right
  | conditional _ _ _ _ _ _ test yes no =>
    rw [eval]
    refine test.bind fun value => Spares.bind (.ofExcept Value.truth_sparing) fun x => ?_
    split
    · exact yes
    · exact no
  | coalesce _ _ _ _ left right =>
    rw [eval]
    refine left.bind fun value => ?_
    split
    · exact right
    · exact .ofExcept (Value.cast_sparing _ _)
  | staticCall _ _ _ operands =>
    rw [eval]
    exact (evalAll_spares operands).bind fun values => callNative_spares
  | call _ _ _ _ target operands =>
    rw [eval]
    exact target.bind fun this => Spares.bind (.ofExcept checkReceiver_sparing) fun this =>
      (evalAll_spares operands).bind fun values => callNative_spares
  | staticMember =>
    rw [eval]
    exact callNative_spares
  | member _ _ target =>
    rw [eval]
    exact target.bind fun this => Spares.bind (.ofExcept checkReceiver_sparing) fun this =>
      callNative_spares
  | index _ _ _ _ target position =>
    rw [eval]
    exact target.bind fun array => Spares.bind (.ofExcept checkReceiver_sparing) fun array =>
      Spares.bind (.ofExcept itemsOf_sparing) fun items =>
        position.bind fun at_ => .ofExcept itemAt_sparing
  | create _ _ _ _ operands contents =>
    rw [eval]
    exact (evalAll_spares operands).bind fun given => callNative_spares.bind fun object =>
      (evalSteps_spares contents).bind fun _ => .pure
  | newArray _ _ _ length =>
    rw [eval]
    exact length.bind fun value => Spares.bind (.ofExcept lengthOf_sparing) fun n _ => trivial
  | arrayOf _ _ contents =>
    rw [eval]
    exact (evalAll_spares contents).bind fun values _ => trivial
  | cast _ _ _ operand =>
    rw [eval]
    exact operand.bind fun value => .ofExcept (Value.cast_sparing _ _)
  | sizeOf =>
    rw [eval]
    exact .ofExcept sizeValue_sparing
  | is _ operand | as _ _ operand =>
    rw [eval]
    exact operand.bind fun value => .pure

end Evaluation
end Expr

namespace Function

variable {function : Function} {values : List Value}

theorem checkArgs_ok {params : List Parameter} {first : Nat}
    (conform : List.Forall₂ (fun ty value => value.conforms ty = true) (params.map (·.ty)) values) :
    checkArgs first values params = .ok () := by
  induction params generalizing values first with
  | nil =>
    cases conform
    rfl
  | cons param params ih =>
    cases conform with
    | cons here later =>
      rw [checkArgs, if_pos here]
      exact ih later

/-- A call with a value for each parameter gets to the body. -/
theorem invoke_spares (body : Expr.Spares (function.bound.body.eval values))
    (conform : List.Forall₂ (fun ty value => value.conforms ty = true) function.params.types values) :
    Expr.Spares (function.invoke values) := by
  have count : values.length = function.params.list.length := by
    rw [← conform.length_eq, Parameters.types, List.length_map]
  rw [invoke_run count (checkArgs_ok conform)]
  exact body.bind fun value => .pure

/-- A call with another number of values fails before anything else is done. -/
theorem invoke_miscounted (store : Store) (count : values.length ≠ function.params.types.length) :
    (function.invoke values store).1 =
      .error (.argumentCount function.params.types.length values.length) := by
  rw [Parameters.types, List.length_map] at count ⊢
  unfold invoke
  simp only [if_pos count]
  rfl

end Function

namespace TypedFunction

variable {args : List HostType} {result : HostType} {typed : TypedFunction args result}

/-- What a call does with the value of its function. -/
theorem result_spares (value : Value) : Expr.Spares (match result.ofValue value with
    | .ok x => return x
    | .error mismatch => throw (.resultType mismatch) : Expr.Run result.Carrier) := by
  cases result.ofValue value with
  | ok x => exact .pure
  | error mismatch => exact fun _ => rfl

/-- Where the parameters are of the types of the shapes, no call is refused for its arguments. -/
theorem call_spares {scope : Scope} (typed : TypedFunction args result)
    (valued : ∀ shape ∈ args, shape.ty ≠ .void)
    (types : typed.function.params.types = args.map HostType.ty)
    (body : WellTyped scope typed.function.bound.body) (inForce : scope.params = typed.function.params)
    (given : HostType.Carriers args) : Expr.Spares (typed.call given) := by
  intro store
  obtain ⟨values, after, ran, conform⟩ := HostType.toValues_conform valued given store
  rw [← types] at conform
  have count : values.length = scope.params.list.length := by
    rw [inForce, ← conform.length_eq, Parameters.types, List.length_map]
  have invoked := Function.invoke_spares (Expr.eval_spares body count) conform
  rw [call, Action.run_ok ran]
  exact invoked.bind result_spares after

/-- Where there is a parameter more than there are shapes, every call is refused. -/
theorem call_miscounted (valued : ∀ shape ∈ args, shape.ty ≠ .void)
    (length : typed.function.params.types.length = args.length + 1) (given : HostType.Carriers args)
    (store : Store) :
    (typed.call given store).1 = .error (.argumentCount (args.length + 1) args.length) := by
  obtain ⟨values, after, ran, conform⟩ := HostType.toValues_conform valued given store
  have count : values.length = args.length := by
    rw [← conform.length_eq, List.length_map]
  have other : values.length ≠ typed.function.params.types.length := by omega
  have refused := Function.invoke_miscounted after other
  rw [length, count] at refused
  rw [call, Action.run_ok ran, Expr.run_bind]
  cases invoked : typed.function.invoke values after with
  | mk outcome last =>
    rw [invoked] at refused
    cases refused
    rfl

/-- The parameters of a function with host shapes are of their types, behind a default instance that
is not one of them. Without such an instance no call with host values is refused for its arguments;
with one, every call is. -/
theorem compile_callable {registry : Registry} {options : Options} {source : String}
    (valued : ∀ shape ∈ args, shape.ty ≠ .void)
    (compiled : compile args result registry.toUniverse options source = .ok typed) :
    typed.function.params.types = options.inserted.toList ++ args.map HostType.ty ∧
      (options.inserted = none → ∀ given store e, (typed.call given store).1 = .error e →
        e.name ≠ "ArgumentCount" ∧ e.name ≠ "ArgumentType") ∧
      ∀ receiver, options.inserted = some receiver → ∀ given store,
        (typed.call given store).1 = .error (.argumentCount (args.length + 1) args.length) := by
  obtain ⟨function, made, same⟩ := except_then.mp compiled
  cases same
  have types : function.params.types = options.inserted.toList ++ args.map HostType.ty :=
    Function.compile_types rfl (by simp) made
  refine ⟨types, ?direct, ?inserted⟩
  case direct =>
    intro direct given store e failed
    rw [direct, Option.toList_none, List.nil_append] at types
    have body := (Function.compile_typed made).1
    let typed : TypedFunction args result := ⟨function⟩
    have sparing := call_spares typed valued types body rfl given store
    rw [failed] at sparing
    have blameless : ¬ e.isOfArguments := by
      rw [sparing]
      exact Bool.false_ne_true
    rwa [RuntimeError.isOfArguments_iff, not_or] at blameless
  case inserted =>
    intro receiver isInserted given store
    apply call_miscounted valued
    rw [types, isInserted]
    simp

/-- A text that is the default instance, and a number that the header names. -/
theorem compile_callable_instance :
    let shapes : List HostType := [.string, .int]
    let options : Options := ⟨[], some .object, true⟩
    ∃ typed : TypedFunction shapes .int,
      compile shapes .int Registry.empty.toUniverse options "x => x * 2" = .ok typed ∧
      (∀ shape ∈ shapes, shape.ty ≠ .void) ∧ options.inserted = none ∧
      typed.function.params.types = [.string, .int] ∧
      ∀ given store e, (typed.call given store).1 = .error e →
        e.name ≠ "ArgumentCount" ∧ e.name ≠ "ArgumentType" := by
  intro shapes options
  obtain ⟨typed, compiled, -⟩ : ∃ typed : TypedFunction shapes .int,
      compile shapes .int Registry.empty.toUniverse options "x => x * 2" = .ok typed ∧
      typed.function.params.hasInstance := exists_ok_that (by decide +kernel)
  have valued : ∀ shape ∈ shapes, shape.ty ≠ .void := by simp [shapes, HostType.ty]
  obtain ⟨types, direct, -⟩ := compile_callable valued compiled
  exact ⟨typed, compiled, valued, rfl, types, direct rfl⟩

/-- A default instance that is put in front of one number leaves a function that cannot be called
with one number. -/
theorem call_refused_behind_instance :
    ∃ typed : TypedFunction [.int] .int,
      compile [.int] .int Registry.empty.toUniverse ⟨[], some .string, false⟩ "1" = .ok typed ∧
      typed.function.params.types = [.string, .int] ∧
      (typed.call (Word.ofInt .int 7, ()) .empty).1 = .error (.argumentCount 2 1) := by
  exact exists_ok_that (by decide +kernel)

end TypedFunction
end Formula
