import Formula.Proofs.Ancestry
import Formula.Proofs.Blame

/-! What may be assigned in the braces behind a creation, and what can be. The reader asks whether a
member is marked as writable; carrying an assignment out takes its setter. However an entry is put
together, a property with a setter is marked, but a property can be marked that has none: an
assignment to such a one compiles and fails whenever it is reached. -/
namespace Formula

/-- A property that an initializer takes and that nothing assigns to. -/
structure Property.Unassignable (property : Property) : Prop where
  marked : property.flags.isWritable = true
  ofInstance : property.flags.isStatic = false
  noSetter : property.setter = none

/-- Entries as they are put together, member by member. -/
inductive Entry.Built : Entry → Prop where
  | new {name : String} {ty : Ty} {kind : TypeKind} {base : Option String} :
      Built (.new name ty kind base)
  | asStatic {entry : Entry} (built : Built entry) : Built entry.asStatic
  | derivingFrom {entry : Entry} {base : String} (built : Built entry) :
      Built (entry.derivingFrom base)
  | withConstructor {entry : Entry} {params : List Ty} {native : Native} (built : Built entry) :
      Built (entry.withConstructor params native)
  | withOverload {entry : Entry} {overload : Overload} (built : Built entry) :
      Built (entry.withOverload overload)
  | withProperty {entry : Entry} {name : String} {ty : Ty} {flags : MemberFlags} {getter : Native}
      {setter : Option Native} (built : Built entry) :
      Built (entry.withProperty name ty flags getter setter)
  | withIndexer {entry : Entry} {property : String} {params : List Ty} {result : Ty}
      {native : Native} (built : Built entry) :
      Built (entry.withIndexer property params result native)

/-- A property with a setter is marked as writable. -/
theorem Entry.Built.marked {entry : Entry} (built : entry.Built) :
    ∀ property ∈ entry.properties, property.setter.isSome → property.flags.isWritable := by
  induction built with
  | new => exact List.forall_mem_nil _
  | asStatic _ ih | derivingFrom _ ih | withConstructor _ ih | withOverload _ ih
  | withIndexer _ ih => exact ih
  | withProperty _ ih =>
    intro property listed hasSetter
    obtain earlier | last := List.mem_append.mp listed
    · exact ih property (List.mem_of_mem_filter earlier) hasSetter
    · cases List.mem_singleton.mp last
      exact Bool.or_eq_true_iff.mpr (.inr hasSetter)

section Lookup

variable {entries : List Entry} {ty : Ty} {name : String} {ref : MemberRef}

/-- A member that is found is a registered property. -/
theorem Registry.member_registered {wantStatic : Bool}
    (found : (Registry.empty.registerAll entries).member ty name wantStatic = some ref) :
    ∃ entry ∈ entries, ∃ property ∈ entry.properties, property.name = ref.name ∧
      property.flags = ref.flags ∧ property.flags.isStatic = wantStatic ∧
      property.setter = ref.setter := by
  obtain ⟨entry, inLineage, property, declared, isStatic, rfl⟩ := Registry.member_origin found
  have registered := Registry.lineage_registered entry inLineage
  have among := Registry.registerAll_among entries entry registered
  refine ⟨entry, by simpa [Registry.empty] using among, property, ?_, rfl, rfl, isStatic, rfl⟩
  exact List.mem_of_find?_eq_some declared

/-- The reader takes a member for an assignment just if it is marked as writable. -/
theorem Expr.assignable_iff (built : ∀ entry ∈ entries, entry.Built) {name : Token} :
    Expr.assignable (Registry.empty.registerAll entries).toUniverse ty name = .ok ref ↔
      (Registry.empty.registerAll entries).member ty name.lexeme false = some ref ∧
        ref.flags.isWritable := by
  have known : (Registry.empty.registerAll entries).toUniverse.member =
      (Registry.empty.registerAll entries).member := rfl
  unfold Expr.assignable
  rw [known]
  cases found : (Registry.empty.registerAll entries).member ty name.lexeme false with
  | none =>
    constructor
    · intro taken
      cases taken
    · rintro ⟨none, -⟩
      cases none
  | some member =>
    obtain ⟨entry, listed, property, declared, -, flags, -, setter⟩ :=
      Registry.member_registered found
    have marked := (built entry listed).marked property declared
    rw [setter, flags] at marked
    simp only [Expr.found, Except.bind, bind]
    split
    case isTrue refused =>
      simp only [Bool.and_eq_true, Bool.not_eq_true'] at refused
      constructor
      · intro taken
        cases taken
      · rintro ⟨⟨⟩, writable⟩
        cases refused.2.symm.trans writable
    case isFalse taken =>
      have writable : member.flags.isWritable := by
        by_contra noMark
        have noSetter : member.setter.isNone := by
          rw [← Option.not_isSome_iff_eq_none.trans Option.isNone_iff_eq_none.symm]
          exact fun some => noMark (marked some)
        exact taken (by simp [noSetter, noMark])
      constructor
      · rintro ⟨⟩
        exact ⟨rfl, writable⟩
      · rintro ⟨⟨⟩, -⟩
        rfl

end Lookup

namespace Expr

variable {world : Universe} {e : Expr} {operands : List Expr} {span : Span}
  {holds : Expr → Prop}

/-- Every member that a node assigns to was taken by the reader. -/
def Assigns (world : Universe) (e : Expr) : Prop :=
  ∀ refs, e.filling = .members refs → ∀ ref ∈ refs,
    ∃ ty name, Expr.assignable world ty name = .ok ref

/-- Every member that a tree assigns to was taken by the reader. -/
abbrev AllAssigns (world : Universe) : Expr → Prop := Everywhere (Assigns world)

theorem Assigns.plain (plain : e.filling = .none) : Assigns world e := by
  intro refs filled
  cases plain.symm.trans filled

theorem Enters.assigns {c : Expr} (enters : Enters e c) (assigns : AllAssigns world e) :
    AllAssigns world c :=
  enters.everywhere (fun _ _ _ => .plain rfl) assigns

theorem entered_assigns {items : List Expr} (entered : List.Forall₂ Enters operands items)
    (assigns : ∀ operand ∈ operands, AllAssigns world operand) :
    ∀ item ∈ items, AllAssigns world item :=
  entered_everywhere entered (fun _ _ _ => .plain rfl) assigns

theorem Made.assigns (made : Made operands span e)
    (assigns : ∀ operand ∈ operands, AllAssigns world operand) :
    AllAssigns world e :=
  .node (.plain made.plain) (entered_assigns made.entered assigns)

/-- Whatever is built assigns to no more than its operands do. -/
theorem Builds.assigns {blamed : List Span} {result : Except CompileError Expr}
    (builds : Builds operands span blamed result)
    (assigns : ∀ operand ∈ operands, AllAssigns world operand) (built : result = .ok e) :
    AllAssigns world e := by
  subst built
  obtain made | rfl := builds
  · exact made.assigns assigns
  · exact assigns e List.mem_cons_self

end Expr

namespace Reader

open Formula.Expr

/-- What a derivation of a part says about the members that its nodes assign to. -/
def Part.Assigned (world : Universe) : (part : Part) → part.Result → Prop
  | .expression _ _, e | .operand _, e => AllAssigns world e
  | .operators _ _ left, e | .operator _ _ left, e =>
    AllAssigns world left → AllAssigns world e
  | .arguments _, args | .items _, args | .givens, args =>
    ∀ arg ∈ args, AllAssigns world arg
  | .assignments _, steps => ∀ step ∈ steps,
    (∃ ty name, Expr.assignable world ty name = .ok step.1) ∧ AllAssigns world step.2
  | .initializer _, (init, values) => (∀ refs, init = .members refs → ∀ ref ∈ refs,
    ∃ ty name, Expr.assignable world ty name = .ok ref) ∧
      ∀ value ∈ values, AllAssigns world value

/-- Every member that is assigned to was taken for that when it was read. -/
theorem Reads.assigns {scope : Scope} {part : Part} {s t : Stream} {result : part.Result}
    (reads : Reads scope part s result t) : Part.Assigned scope.world part result := by
  have two {a b : Expr} (first : AllAssigns scope.world a)
      (second : AllAssigns scope.world b) :
      ∀ c ∈ [a, b], AllAssigns scope.world c :=
    List.forall_mem_cons.mpr ⟨first, List.forall_mem_singleton.mpr second⟩
  have one {a : Expr} (first : AllAssigns scope.world a) :
      ∀ c ∈ [a], AllAssigns scope.world c := List.forall_mem_singleton.mpr first
  have named {param : Parameter} {span : Span} :
      AllAssigns scope.world (parameterNode param span) :=
    .node (e := parameterNode param span) (.plain rfl) (List.forall_mem_nil _)
  induction reads with
  | expression _ _ first more => exact more first
  | literal _ | typeOf _ _ _ _ => exact .node (.plain rfl) (List.forall_mem_nil _)
  | parameter _ _ => exact named
  | cast _ _ _ built operand => exact castWritten_builds.assigns (one operand) built
  | group _ _ _ _ inner => exact inner
  | sign _ _ built operand => exact applySign_builds.assigns (one operand) built
  | arrayItems _ _ _ _ built given =>
    exact .node (.plain rfl) (entered_assigns (convertAll_enters built) given)
  | arrayLength _ _ _ _ _ _ given => exact .node (.plain rfl) given
  | create _ _ _ _ _ _ given filled =>
    exact .node filled.1 fun c member => (List.mem_append.mp member).elim (given c) (filled.2 c)
  | sizeOf _ _ _ _ built => exact measure_builds.assigns (List.forall_mem_nil _) built
  | defaultCall _ _ _ _ _ built given =>
    obtain ofInstance | static := callDefault_builds
    · exact ofInstance.assigns (List.forall_mem_cons.mpr ⟨named, given⟩) built
    · exact static.assigns given built
  | defaultMember _ _ _ _ built =>
    obtain ofInstance | static := memberDefault_made built
    · exact ofInstance.assigns (one named)
    · exact static.assigns (List.forall_mem_nil _)
  | staticCall _ _ _ _ _ _ built given => exact callStatic_builds.assigns given built
  | staticMember _ _ _ _ _ built =>
    exact memberStatic_builds.assigns (List.forall_mem_nil _) built
  | done _ => exact id
  | more _ _ _ first rest => exact fun left => rest (first left)
  | memberCall _ _ _ _ built given =>
    exact fun left => callOn_builds.assigns (List.forall_mem_cons.mpr ⟨left, given⟩) built
  | member _ _ _ built => exact fun left => memberOf_builds.assigns (one left) built
  | index _ _ built given =>
    exact fun left => indexInto_builds.assigns (List.forall_mem_cons.mpr ⟨left, given⟩) built
  | conditional _ _ _ _ _ built yes no =>
    exact fun test =>
      choose_builds.assigns (List.forall_mem_cons.mpr ⟨test, two yes no⟩) built
  | coalesce _ _ built right =>
    exact fun left => coalesceWith_builds.assigns (two left right) built
  | typeTest _ _ built => exact fun left => testType_builds.assigns (one left) built
  | binary _ _ built right =>
    exact fun left => applyOperator_builds.assigns (two left right) built
  | noArguments _ _ | noGivens _ => exact List.forall_mem_nil _
  | noInitializer _ => exact ⟨nofun, List.forall_mem_nil _⟩
  | arguments _ _ _ items | givens _ _ items => exact items
  | adds _ _ _ _ items => exact ⟨nofun, items⟩
  | lastItem _ _ item => exact one item
  | nextItem _ _ _ item others => exact List.forall_mem_cons.mpr ⟨item, others⟩
  | members _ _ _ _ steps =>
    refine ⟨?refs, fun value listed => ?values⟩
    case refs =>
      rintro refs ⟨⟩ ref listed
      obtain ⟨step, inside, rfl⟩ := List.mem_map.mp listed
      exact (steps step inside).1
    case values =>
      obtain ⟨step, inside, rfl⟩ := List.mem_map.mp listed
      exact (steps step inside).2
  | lastAssignment _ _ member _ built _ value | trailingComma _ _ member _ built _ _ value =>
    refine List.forall_mem_singleton.mpr ⟨⟨_, _, member⟩, ?_⟩
    exact (convertImplicit_enters built).assigns value
  | nextAssignment _ _ member _ built _ _ _ value rest =>
    refine List.forall_mem_cons.mpr ⟨⟨⟨_, _, member⟩, ?_⟩, rest⟩
    exact (convertImplicit_enters built).assigns value

end Reader
namespace Expr

variable {args : List Value} {store last : Store} {object value : Value}

/-- What comes to a result begins with what comes to one. -/
theorem run_split {α β : Type} {first : Run α} {rest : α → Run β} {b : β}
    (ran : (first >>= rest) store = (.ok b, last)) :
    ∃ a after, first store = (.ok a, after) ∧ rest a after = (.ok b, last) := by
  rw [run_bind] at ran
  cases begun : first store with
  | mk outcome after =>
    rw [begun] at ran
    cases outcome with
    | ok a => exact ⟨a, after, rfl, ran⟩
    | error e => cases ran

/-- Values are handed over to the last only if each step has a callable. -/
theorem evalSteps_native {todo : List Step} {values : List Expr}
    (enough : todo.length ≤ values.length)
    (ran : evalSteps args object todo values store = (.ok (), last)) :
    ∀ step ∈ todo, step.native.isSome := by
  induction todo generalizing values store with
  | nil => exact List.forall_mem_nil _
  | cons step todo ih =>
    cases values with
    | nil => cases enough
    | cons expr rest =>
      rw [evalSteps] at ran
      obtain ⟨value, middle, -, ran⟩ := run_split ran
      obtain ⟨_, after, took, ran⟩ := run_split ran
      refine List.forall_mem_cons.mpr ⟨?_, ih (Nat.le_of_succ_le_succ enough) ran⟩
      unfold takeStep at took
      cases native : step.native with
      | some native => rfl
      | none =>
        rw [native] at took
        cases took

/-- A creation that assigns to a member without a setter comes to no object. -/
theorem create_unset {info : Info} {constructor : ConstructorRef} {operands values : List Expr}
    {refs : List MemberRef} {ref : MemberRef} (same : refs.length = values.length)
    (listed : ref ∈ refs) (noSetter : ref.setter = none) :
    eval args (.create info constructor operands (.members refs) values) store ≠
      (.ok value, last) := by
  intro ran
  rw [eval] at ran
  obtain ⟨given, middle, -, ran⟩ := run_split ran
  obtain ⟨object, after, -, ran⟩ := run_split ran
  obtain ⟨_, final, handed, -⟩ := run_split ran
  have all := evalSteps_native (by simp [steps, same]) handed
  have native := all ⟨ref.setter, ref.owner, ref.name⟩ (List.mem_map.mpr ⟨ref, listed, rfl⟩)
  rw [noSetter] at native
  cases native

end Expr

namespace Function

open Formula.Expr

variable {entries : List Entry} {signature : Signature} {options : Options} {source : String}
  {function : Function}

theorem checkArgs_own (params : List Parameter) (args : List Value) (index : Nat) :
    Value.Own (checkArgs index args params) := by
  induction params generalizing args index with
  | nil => cases args <;> trivial
  | cons param params ih =>
    cases args with
    | nil => trivial
    | cons arg args =>
      simp only [checkArgs]
      split
      case isTrue => exact ih args (index + 1)
      case isFalse => trivial

/-- The body of a compiled function assigns to what the reader took. -/
theorem compile_assigns {world : Universe}
    (compiled : Function.compile world signature options source = .ok function) :
    AllAssigns world function.bound.body := by
  obtain ⟨bound, binds, same⟩ := except_then.mp compiled
  cases same
  obtain ⟨⟨receiver, declared⟩, -, binds⟩ := except_then.mp binds
  obtain ⟨parsed, read, binds⟩ := except_then.mp binds
  obtain ⟨body, converts, same⟩ := except_then.mp binds
  cases same
  obtain ⟨-, s, t, -, reads⟩ := Lambda.parse_reads read
  have assigns : AllAssigns world parsed.body := reads.assigns
  have entered : Enters parsed.body body := by
    unfold convertResult at converts
    split at converts
    case h_1 =>
      cases converts
      exact .same
    case h_2 target =>
      split at converts
      case isTrue =>
        cases converts
        exact .same
      case isFalse =>
        split at converts
        case isTrue => cases converts
        case isFalse =>
          split at converts
          case isTrue =>
            cases converts
            exact castTo_enters
          case isFalse => cases converts
  exact entered.assigns assigns

/-- A failure that some calls come to, or that of an assignment to a property without a setter. -/
def Accountable (entries : List Entry) (calls : List Invocation) (error : NativeError) : Prop :=
  (∃ made ∈ calls, (made.native made.call made.store).1 = .error error) ∨
    ∃ entry ∈ entries, ∃ property ∈ entry.properties, property.Unassignable ∧
      error = unassigned property.name

theorem invoke_blamed {blame : NativeError → Prop} {args : List Value} {store : Store}
    (blamed : Blamed blame (eval args function.bound.body store)) :
    Blamed blame (function.invoke args store) := by
  unfold invoke
  split
  case isTrue => exact nofun
  case isFalse => exact .known (checkArgs_own _ args 0) fun _ _ => .bind blamed fun _ _ _ => .pure _

/-- An assignment compiles just if the property is marked as writable. If it has no setter, no
creation with the assignment comes to an object; and a run fails for that reason alone, or with the
failure of a call that it makes. -/
theorem compile_assignable (built : ∀ entry ∈ entries, entry.Built)
    (compiled : Function.compile (Registry.empty.registerAll entries).toUniverse signature options
      source = .ok function) :
    (∀ ty name ref,
      Expr.assignable (Registry.empty.registerAll entries).toUniverse ty name = .ok ref ↔
        (Registry.empty.registerAll entries).member ty name.lexeme false = some ref ∧
          ref.flags.isWritable) ∧
      (∀ info constructor operands refs values,
        (Expr.create info constructor operands (.members refs) values).In function.bound.body →
          ∀ ref ∈ refs, ref.setter = none → ∀ args store value last,
            eval args (.create info constructor operands (.members refs) values) store ≠
              (.ok value, last)) ∧
      ∀ args store error last, function.invoke args store = (.error (.native error), last) →
        Accountable entries (invocations args function.bound.body store) error := by
  refine ⟨fun ty name ref => assignable_iff built, ?never, ?blamed⟩
  case never =>
    intro info constructor operands refs values inside ref listed noSetter args store value last
    have same : refs.length = values.length := by
      cases (compile_typed compiled).1.inside inside with
      | create _ _ _ filled =>
        cases filled with
        | members same => exact same.length_eq
    exact create_unset same listed noSetter
  case blamed =>
    intro args store error last ran
    have unset : Everywhere
        (Unset (Accountable entries (invocations args function.bound.body store)))
        function.bound.body := by
      intro part inside refs filled ref listed noSetter
      obtain ⟨ty, name, taken⟩ := compile_assigns compiled part inside refs filled ref listed
      obtain ⟨found, writable⟩ := (assignable_iff built).mp taken
      obtain ⟨entry, among, property, declared, named, flags, ofInstance, setter⟩ :=
        Registry.member_registered found
      have marked : property.flags.isWritable = true := flags ▸ writable
      refine .inr ⟨entry, among, property, declared, ⟨marked, ofInstance, ?_⟩, ?_⟩
      · exact setter.trans noSetter
      · rw [named]
    have faulty : Faulty (Accountable entries (invocations args function.bound.body store))
        (invocations args function.bound.body store) :=
      fun made listed error failed => .inl ⟨made, listed, failed⟩
    refine invoke_blamed (eval_blamed _ store unset faulty) error ?_
    rw [ran]

/-- A class of objects with a property that can be assigned to. -/
def boxClass (setter : Option Native) : Entry :=
  ((Entry.new "Box" (.named "Box") .instantiable none).withConstructor []
    (Native.create ⟨"Box", []⟩ [] (.record [] []))).withProperty "Size" .int ⟨false, false, true⟩
      (fun _ => return .int 0) setter

theorem boxClass_built (setter : Option Native) : (boxClass setter).Built :=
  .withProperty (.withConstructor .new)

/-- The size of a new box is assigned by its setter. -/
theorem compile_assignable_box :
    let entries := [boxClass (some fun _ => return .null)]
    let registry := Registry.empty.registerAll entries
    ∃ function, Function.compile registry.toUniverse ⟨none, none⟩ ⟨[], none, false⟩
        "new Box() \x7b Size = 1 \x7d" = .ok function ∧
      (∀ entry ∈ entries, entry.Built) ∧
      (function.invoke [] .empty).1.toOption.isSome ∧
      (∀ entry ∈ entries, ∀ property ∈ entry.properties, ¬ property.Unassignable) ∧
      ∀ args store error last, function.invoke args store = (.error (.native error), last) →
        Accountable entries (invocations args function.bound.body store) error := by
  intro entries registry
  have built : ∀ entry ∈ entries, entry.Built :=
    List.forall_mem_singleton.mpr (boxClass_built _)
  obtain ⟨function, compiled, ran⟩ : ∃ function, Function.compile registry.toUniverse ⟨none, none⟩
      ⟨[], none, false⟩ "new Box() \x7b Size = 1 \x7d" = .ok function ∧
        (function.invoke [] .empty).1.toOption.isSome := exists_ok_that (by decide +kernel)
  refine ⟨function, compiled, built, ran, ?_, (compile_assignable built compiled).2.2⟩
  refine List.forall_mem_singleton.mpr (List.forall_mem_singleton.mpr fun unset => ?_)
  cases unset.noSetter

/-- Without a setter the same assignment compiles and cannot be carried out. -/
theorem compile_assignable_unset :
    let entries := [boxClass none]
    let registry := Registry.empty.registerAll entries
    ∃ function, Function.compile registry.toUniverse ⟨none, none⟩ ⟨[], none, false⟩
        "new Box() \x7b Size = 1 \x7d" = .ok function ∧
      (∀ entry ∈ entries, entry.Built) ∧
      ∃ last, function.invoke [] .empty = (.error (.native (unassigned "Size")), last) := by
  intro entries registry
  obtain ⟨function, compiled, ran⟩ : ∃ function, Function.compile registry.toUniverse ⟨none, none⟩
      ⟨[], none, false⟩ "new Box() \x7b Size = 1 \x7d" = .ok function ∧
        Except.casesOn (function.invoke [] .empty).1
          (fun error => decide (error = .native (unassigned "Size"))) (fun _ => false) = true :=
    exists_ok_that (by decide +kernel)
  refine ⟨function, compiled, List.forall_mem_singleton.mpr (boxClass_built _), ?_⟩
  cases outcome : function.invoke [] .empty with
  | mk result last =>
    rw [outcome] at ran
    cases result with
    | ok value => cases ran
    | error error => exact ⟨last, by rw [of_decide_eq_true ran]⟩

end Function
end Formula
