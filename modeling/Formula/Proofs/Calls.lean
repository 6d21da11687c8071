import Formula.Proofs.Invocations

/-! Callables are called as they are declared. What a callable is given was computed by the trees of
its node, so the types of these trees say what it can be, as long as the calls that came before kept
their promises; the rules of the typing discipline relate these types to the declared ones. -/
namespace Formula

namespace Invocation

/-- The promise of a call: a result that is used fits its type, is filled with what fits at every
depth, and is an object where one is created. -/
def Kept (made : Invocation) : Prop :=
  ∀ value ∈ (made.native made.call made.store).1.toOption, ∀ ty ∈ made.result,
    value.Good ty ∧ (made.creates = true → value.isNull = false)

instance (made : Invocation) : Decidable made.Kept :=
  inferInstanceAs (Decidable (∀ value ∈ _, ∀ ty ∈ _, _))

/-- There is a receiver where a static type asks for one. It conforms to that type, and it is `null`
only if the type is a nullable one. -/
def Receives : Option Ty → Option Value → Prop
  | none, none => True
  | some static, some this => this.conforms static ∧ (static.inner? = none → this.isNull = false)
  | _, _ => False

/-- A call that gives the callable what its node declares: the receiver that the static type asks
for, and an argument that fits for every parameter. -/
structure AsDeclared (made : Invocation) : Prop where
  receiver : Receives made.receiver made.call.this
  arguments : List.Forall₂ (fun ty value => value.Fits ty) made.params made.call.args

end Invocation

namespace Expr

/-- All calls keep their promise. -/
def Reliable (calls : List Invocation) : Prop := ∀ made ∈ calls, made.Kept

/-- Each call is made as declared, as long as those before it keep their promise. -/
def Declared : List Invocation → Prop
  | [] => True
  | made :: rest => made.AsDeclared ∧ (made.Kept → Declared rest)

section Parts

variable {α : Type} {p : α → Prop} {first second : List Invocation} {made : Invocation}
  {outcome : Except RuntimeError α × Store} {rest : α → Store → List Invocation}

theorem Declared.nil : Declared [] := trivial

theorem Declared.one (declared : made.AsDeclared) : Declared [made] := ⟨declared, fun _ => .nil⟩

theorem Declared.append (front : Declared first) (back : Reliable first → Declared second) :
    Declared (first ++ second) := by
  induction first with
  | nil => exact back nofun
  | cons made rest ih =>
    refine ⟨front.1, fun kept => ih (front.2 kept) fun reliable => ?_⟩
    exact back (List.forall_mem_cons.mpr ⟨kept, reliable⟩)

/-- Callables that keep their promise where they are called as declared are always so called: a call
that is not would need one before it that breaks its promise. -/
theorem Declared.all (declared : Declared first)
    (keep : ∀ made ∈ first, made.AsDeclared → made.Kept) : ∀ made ∈ first, made.AsDeclared := by
  induction first with
  | nil => exact nofun
  | cons made rest ih =>
    obtain ⟨here, later⟩ := declared
    obtain ⟨kept, keep⟩ := List.forall_mem_cons.mp keep
    exact List.forall_mem_cons.mpr ⟨here, ih (later (kept here)) keep⟩

/-- What follows a run that is safe may count on the result that was to be expected. -/
theorem Declared.bind (front : Declared first) (safe : Reliable first → Safe p outcome)
    (goesOn : ∀ a after, p a → Declared (rest a after)) :
    Declared (first ++ afterOk outcome rest) := by
  refine front.append fun reliable => ?_
  have expected := safe reliable
  obtain ⟨found | a, after⟩ := outcome
  · exact .nil
  · exact goesOn a after expected

/-- Where every listed call keeps its promise, so do those of which the result is used. -/
theorem Reliable.trusted {known : List Visit} (reliable : Reliable first)
    (used : first.filterMap Invocation.visit? = known) : Trusted known := by
  rintro visit member value found
  rw [← used] at member
  obtain ⟨made, listed, same⟩ := List.mem_filterMap.mp member
  obtain ⟨ty, result, rfl⟩ := Option.map_eq_some_iff.mp same
  exact (reliable made listed value found ty result).1

end Parts

section Arguments

variable {operands : List Expr} {values : List Value} {params : List Ty}

/-- A value of a type that meets a parameter fits it. -/
theorem fits_of_meets {param ty : Ty} {value : Value} (meets : param.Meets ty)
    (good : value.Good ty) : value.Fits param := by
  obtain rfl | ⟨rfl, accepts⟩ := meets
  · exact good.fits
  · obtain isNull | ⟨void, -⟩ := good.fits
    · cases value with
      | null => exact .inl (Value.conforms_null accepts)
      | _ => cases isNull
    · cases void

theorem fit_of_meet (meet : Meet params operands)
    (goods : List.Forall₂ (fun e value => Value.Good e.ty value) operands values) :
    List.Forall₂ (fun ty value => value.Fits ty) params values := by
  induction goods generalizing params with
  | nil =>
    cases meet
    exact .nil
  | cons good _ ih =>
    cases meet with
    | cons meets rest => exact .cons (fits_of_meets meets good) (ih rest)

/-- A receiver that was checked is as its static type says. -/
theorem receives_checked {static : Ty} {use : Use} {value this : Value} (good : value.Good static)
    (checked : checkReceiver static use value = .ok this) :
    Invocation.Receives (some static) (some this) := by
  have meant := @checkReceiver_meant static use value
  rw [checked] at meant
  obtain ⟨rfl, usable⟩ := meant
  obtain conforms | ⟨rfl, rfl⟩ := good.fits
  · exact ⟨conforms, usable⟩
  · cases usable rfl

end Arguments

section Nodes

variable {args : List Value} {store : Store} {operands : List Expr}

/-- A tree that evaluates safely and makes its calls as declared. -/
structure Sound (args : List Value) (e : Expr) : Prop where
  safe : EvaluatesSafely args e
  calls : ∀ store, Declared (invocations args e store)

/-- What follows a sound tree may count on a value of its type. -/
theorem Sound.bind {e : Expr} {rest : Value → Store → List Invocation} (sound : Sound args e)
    (goesOn : ∀ value after, value.Good e.ty → Declared (rest value after)) :
    Declared (invocations args e store ++ afterOk (eval args e store) rest) := by
  refine (sound.calls store).bind (fun reliable => ?_) goesOn
  exact sound.safe store (reliable.trusted (invocations_used e store))

theorem declared_all (sound : ∀ e ∈ operands, Sound args e) :
    Declared (invocationsAll args operands store) := by
  induction operands generalizing store with
  | nil =>
    rw [invocationsAll]
    exact .nil
  | cons e rest ih =>
    rw [invocationsAll]
    refine (sound e List.mem_cons_self).bind fun _ after _ => ?_
    exact ih fun e member => sound e (List.mem_cons_of_mem _ member)

/-- What follows sound trees may count on values of their types. -/
theorem bind_all {rest : List Value → Store → List Invocation}
    (sound : ∀ e ∈ operands, Sound args e)
    (goesOn : ∀ values after,
      List.Forall₂ (fun e value => Value.Good e.ty value) operands values →
        Declared (rest values after)) :
    Declared
      (invocationsAll args operands store ++ afterOk (evalAll args operands store) rest) := by
  refine (declared_all sound).bind (fun reliable => ?_) goesOn
  exact evalAll_safe (fun e member => (sound e member).safe)
    (reliable.trusted (invocationsAll_used operands store))

/-- What is done with a value of a tree takes values of its type. -/
def Handover.Takes (handover : Handover) (e : Expr) : Prop :=
  ∀ value : Value, value.Good e.ty →
    List.Forall₂ (fun ty value => value.Fits ty) handover.params [value]

theorem handovers_take {init : Initializer} {values : List Expr} (takes : init.Takes values) :
    List.Forall₂ Handover.Takes (handovers init) values := by
  cases takes with
  | none => exact .nil
  | members same =>
    refine List.forall₂_map_left_iff.mpr (same.imp fun ref e assigned value good => ?_)
    exact .cons (assigned.1 ▸ good).fits .nil
  | adds given =>
    refine List.forall₂_map_left_iff.mpr (given.imp fun ref e added value good => ?_)
    exact fit_of_meet added.1 (.cons good .nil)

theorem declared_handing {static : Ty} {object value : Value} {handover : Handover}
    (receives : Invocation.Receives (some static) (some object))
    (fit : List.Forall₂ (fun ty value => value.Fits ty) handover.params [value]) :
    Declared (handing static object value handover store) := by
  unfold handing
  cases handover.step.native with
  | none => exact .nil
  | some native => exact .one ⟨receives, fit⟩

theorem declared_steps {static : Ty} {object : Value} {todo : List Handover} {values : List Expr}
    (receives : Invocation.Receives (some static) (some object))
    (sound : ∀ e ∈ values, Sound args e) (take : List.Forall₂ Handover.Takes todo values) :
    Declared (invocationsSteps args static object todo values store) := by
  induction take generalizing store with
  | nil =>
    rw [invocationsSteps]
    · exact .nil
    · simp
  | cons takes _ ih =>
    rw [invocationsSteps]
    refine (sound _ List.mem_cons_self).bind fun value after good => ?_
    refine (declared_handing receives (takes value good)).bind (fun _ => takeStep_safe)
      fun _ last _ => ?_
    exact ih fun e member => sound e (List.mem_cons_of_mem _ member)

theorem staticCall_declared {info : Info} {method : MethodRef}
    (sound : ∀ e ∈ operands, Sound args e) (given : Meet method.params operands) :
    Declared (invocations args (.staticCall info method operands) store) := by
  rw [invocations]
  exact bind_all sound fun values after goods => .one ⟨trivial, fit_of_meet given goods⟩

theorem call_declared {info : Info} {method : MethodRef} {t : Expr} (target : Sound args t)
    (sound : ∀ e ∈ operands, Sound args e) (given : Meet method.params operands) :
    Declared (invocations args (.call info method t operands) store) := by
  rw [invocations]
  refine target.bind fun value after good => ?_
  split
  case h_1 => exact .nil
  case h_2 this checked =>
    exact bind_all sound fun values last goods =>
      .one ⟨receives_checked good checked, fit_of_meet given goods⟩

theorem member_declared {info : Info} {ref : MemberRef} {t : Expr} (target : Sound args t) :
    Declared (invocations args (.member info ref t) store) := by
  rw [invocations]
  refine target.bind fun value after good => ?_
  split
  case h_1 => exact .nil
  case h_2 this checked => exact .one ⟨receives_checked good checked, .nil⟩

/-- A new object is one that its type describes. -/
theorem creation_safe {native : Native} {params : List Ty} {values : List Value} {ty : Ty}
    (reliable : Reliable [⟨native, ⟨none, values, ty⟩, store, none, params, some ty, true⟩]) :
    Safe (fun object => Invocation.Receives (some ty) (some object))
      (callNative native none values ty store) := by
  refine callNative_promised fun object found => ?_
  obtain ⟨good, nonnull⟩ := reliable _ List.mem_cons_self object found ty rfl
  obtain conforms | ⟨-, rfl⟩ := good.fits
  · exact ⟨conforms, fun _ => nonnull rfl⟩
  · cases nonnull rfl

theorem create_declared {info : Info} {ref : ConstructorRef} {init : Initializer}
    {values : List Expr} (sound : ∀ e ∈ operands, Sound args e) (given : Meet ref.params operands)
    (contents : ∀ e ∈ values, Sound args e) (filled : init.Takes values) :
    Declared (invocations args (.create info ref operands init values) store) := by
  rw [invocations]
  refine bind_all sound fun made after goods => ?_
  have creation : Declared [⟨ref.native, ⟨none, made, ref.ty⟩, after, none, ref.params,
      some ref.ty, true⟩] := .one ⟨trivial, fit_of_meet given goods⟩
  refine creation.bind creation_safe fun object last receives => ?_
  exact declared_steps receives contents (handovers_take filled)

end Nodes

/-- Every call of a tree that obeys the typing discipline is made as declared, as long as the calls
before it keep their promise. -/
theorem calls_declared {scope : Scope} {args : List Value} {e : Expr} (typed : WellTyped scope e)
    (given : Given scope.params args)
    (concrete : ∀ ty, scope.Denotes ty → ∀ index, ty ≠ .param index) (store : Store) :
    Declared (invocations args e store) := by
  have sound : ∀ {e : Expr}, WellTyped scope e → (∀ store, Declared (invocations args e store)) →
      Sound args e := fun typed calls => ⟨evaluates_safely typed given concrete, calls⟩
  induction typed generalizing store with
  | literal _ | parameter _ | typeOf | sizeOf _ =>
    rw [invocations]
    exact .nil
  | unary _ _ operand | cast _ _ _ operand | is _ operand | as _ _ operand
  | newArray _ _ _ operand =>
    rw [invocations]
    exact operand store
  | binary left right _ first second =>
    rw [invocations]
    refine (sound left first).bind fun a after _ => ?_
    split
    case isTrue => exact second after
    case isFalse => exact .nil
  | conditional test _ _ _ _ _ condition yes no =>
    rw [invocations]
    refine (sound test condition).bind fun value after _ => ?_
    split
    case h_1 => exact yes after
    case h_2 => exact no after
    case h_3 => exact .nil
  | coalesce left _ _ _ first second =>
    rw [invocations]
    refine (sound left first).bind fun value after _ => ?_
    split
    case isTrue => exact second after
    case isFalse => exact .nil
  | staticCall operands given _ calls =>
    exact staticCall_declared (fun e member => sound (operands e member) (calls e member)) given
  | call target operands given _ receiver calls =>
    exact call_declared (sound target receiver)
      (fun e member => sound (operands e member) (calls e member)) given
  | staticMember _ =>
    rw [invocations]
    exact .one ⟨trivial, .nil⟩
  | member target _ receiver => exact member_declared (sound target receiver)
  | index target _ _ _ array position =>
    rw [invocations]
    refine (sound target array).bind fun value after _ => ?_
    split
    case h_1 => exact .nil
    case h_2 => exact position after
  | create operands given contents filled calls fillings =>
    exact create_declared (fun e member => sound (operands e member) (calls e member)) given
      (fun e member => sound (contents e member) (fillings e member)) filled
  | arrayOf contents _ calls =>
    rw [invocations]
    exact declared_all fun e member => sound (contents e member) (calls e member)

end Expr

namespace Function

/-- The same function with other callables. -/
def rewired (swap : Native → Native) (function : Function) : Function :=
  { function with bound := { function.bound with body := function.bound.body.rewired swap } }

/-- Callables are called as they are declared. With arguments that a compiled function accepts, and
with nothing in their arrays that does not belong there, every call of the run gives the callable an
argument that fits for every parameter, and a receiver exactly where there is a target or a new
object to fill: one that conforms to the static type, and that is `null` only if the type is
nullable. The callables have to keep their promise only for calls as declared. There are no calls
but these: the answers to them settle what the function comes to. -/
theorem invoke_declared {registry : Registry} {signature : Signature} {options : Options}
    {source : String} {function : Function} {args : List Value} {store : Store}
    (concrete : registry.Concrete)
    (compiled : compile registry.toUniverse signature options source = .ok function)
    (count : args.length = function.params.list.length)
    (accepted : checkArgs 0 args function.params.list = .ok ())
    (filled : ∀ arg ∈ args, arg.Filled)
    (keep : ∀ made ∈ function.bound.body.invocations args store, made.AsDeclared → made.Kept) :
    (∀ made ∈ function.bound.body.invocations args store, made.AsDeclared) ∧
      ∀ swap, Expr.SameAnswers swap (function.bound.body.invocations args store) →
        (function.rewired swap).invoke args store = function.invoke args store := by
  obtain ⟨typed, -⟩ := compile_typed compiled
  have given := accepted_given count accepted filled
  have declared := Expr.calls_declared typed given (fun _ written => concrete.denotes written) store
  refine ⟨declared.all keep, fun swap alike => ?_⟩
  have again : (function.rewired swap).invoke args = _ := invoke_run count accepted
  rw [again, invoke_run count accepted]
  exact Expr.run_congr (Expr.eval_rewired _ store alike) fun _ _ _ => rfl

/-- Five calls are made: the constructor, the indexer of the particle, a tag handed to the new
particle and another one, and the number of tags. -/
theorem invoke_declared_particle :
    let registry := (Registry.empty.register (Library.particleClass Registry.empty)).2
    let signature : Signature := ⟨some [⟨some "p", some (.named "Physics.Particle")⟩], some .long⟩
    let args : List Value := [.object ⟨.named "Physics.Particle", Library.particleHost, 0⟩]
    let store : Store := ⟨1, [(0, .record [] [.string "a"])], id⟩
    ∃ function, compile registry.toUniverse signature ⟨[], none, false⟩
        "(new Physics.Particle() \x7b p[0], \"b\" \x7d).TagCount" = .ok function ∧
      registry.Concrete ∧ args.length = function.params.list.length ∧
      checkArgs 0 args function.params.list = .ok () ∧ (∀ arg ∈ args, arg.Filled) ∧
      (∀ made ∈ function.bound.body.invocations args store, made.Kept) ∧
      (function.bound.body.invocations args store).length = 5 ∧
      (∀ made ∈ function.bound.body.invocations args store, made.AsDeclared) ∧
      ∀ swap, Expr.SameAnswers swap (function.bound.body.invocations args store) →
        (function.rewired swap).invoke args store = function.invoke args store := by
  intro registry signature args store
  have concrete : registry.Concrete := by
    refine Registry.Concrete.register ?_ rfl
    exact fun _ member => nomatch member
  obtain ⟨function, compiled, count, accepted, kept, five⟩ :
      ∃ function, compile registry.toUniverse signature ⟨[], none, false⟩
        "(new Physics.Particle() \x7b p[0], \"b\" \x7d).TagCount" = .ok function ∧
      args.length = function.params.list.length ∧
      checkArgs 0 args function.params.list = .ok () ∧
      (∀ made ∈ function.bound.body.invocations args store, made.Kept) ∧
      (function.bound.body.invocations args store).length = 5 :=
    exists_ok_that (by decide +kernel)
  have filled : ∀ arg ∈ args, arg.Filled := by decide +kernel
  exact ⟨function, compiled, concrete, count, accepted, filled, kept, five,
    invoke_declared concrete compiled count accepted filled fun made member _ => kept made member⟩

/-- A parameter is given `null`, although no value conforms to its type, where that is `void`, and
where a name stands for a parameter of a generic type and the parameter has that type: an array of
either type is filled with `null`. There are no arguments, and the one call of the run comes to
`null`, which conforms to its result. -/
theorem parameter_given_null :
    let giving (ty : Ty) (registry : Registry) : Registry :=
      (registry.register ((registry.newClass "T").asStatic.withStatic "f" [ty] .object
        fun call => call.argument 0)).2
    let placeholder := Entry.new "Foo" (.param 0) .builtin none
    let plain := giving .void Registry.empty
    let named := giving (.param 0) (Registry.empty.register placeholder).2
    plain.Concrete ∧ ¬ named.Concrete ∧ Value.null.conforms .object = true ∧
      ∀ run ∈ [(plain, "T.f((new System.Void[1])[0])"), (named, "T.f((new Foo[1])[0])")],
        ∃ function, compile run.1.toUniverse ⟨some [], none⟩ ⟨[], none, false⟩ run.2
            = .ok function ∧
          function.params.list.length = 0 ∧
          (∀ made ∈ function.bound.body.invocations [] .empty,
            made.result = some .object ∧ made.creates = false ∧
            ∀ value ∈ (made.native made.call made.store).1.toOption, value.isNull = true) ∧
          ∃ made ∈ function.bound.body.invocations [] .empty,
            ¬ List.Forall₂ (fun ty value => value.conforms ty = true) made.params made.call.args := by
  intro giving placeholder plain named
  have concrete : plain.Concrete := by
    refine Registry.Concrete.register ?_ rfl
    exact fun _ member => nomatch member
  have bare : ¬ named.Concrete := by
    intro concrete
    have unnamed := concrete placeholder List.mem_cons_self 0 rfl
    exact absurd unnamed (by decide)
  refine ⟨concrete, bare, rfl, List.forall_mem_cons.mpr ⟨?void, List.forall_mem_singleton.mpr ?bare⟩⟩
  case void => exact exists_ok_that (by decide +kernel)
  case bare => exact exists_ok_that (by decide +kernel)

end Function
end Formula
