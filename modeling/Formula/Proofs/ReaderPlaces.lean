import Formula.Proofs.Nesting
import Formula.Proofs.TokenOrder

/-! Where a reading fails. An error is blamed on a token, on what was read already, or on all that was
consumed from some token on; every one of these lies in the source. What was read and where the
reading stands is known from its derivation, so a reader is gone through once more for its failures
alone. -/
namespace Formula

namespace Reader

open Formula.Expr

/-- If a reader fails, then at a place in the source. -/
def FailsIn {α : Type} (source : String) (read : Reader α) (s : Stream) : Prop :=
  ∀ error, read s = .error error → error.span.Lies source

section Rules

variable {α β : Type} {source : String} {s : Stream} {read : Reader α}
  {kind : TokenKind} {span : Span}

theorem pure_failsIn {given : α} : FailsIn source (pure given) s := nofun

theorem fail_failsIn {fault : CompileFault} (lies : span.Lies source) :
    FailsIn source (fail fault span : Reader α) s := by
  rintro error ⟨⟩
  exact lies

/-- A sequence fails as one of its parts does, the second from where the first came out. -/
theorem bind_failsIn {next : α → Reader β} (first : FailsIn source read s)
    (rest : ∀ a m, Yields read s a m → FailsIn source (next a) m) :
    FailsIn source (read >>= next) s := by
  intro error ran
  simp only [bind, StateT.bind, Except.bind] at ran
  cases came : read s with
  | error fault =>
    rw [came] at ran
    cases ran
    exact first _ came
  | ok reply =>
    rw [came] at ran
    exact rest reply.1 reply.2 came error ran

theorem only_lies (lies : span.Lies source) : ∀ blamed ∈ [span], blamed.Lies source :=
  List.forall_mem_singleton.mpr lies

theorem ofExcept_failsIn {known : Except CompileError α} {blamed : List Span}
    (fails : FailsAt blamed known) (lie : ∀ span ∈ blamed, span.Lies source) :
    FailsIn source (ofExcept known) s := by
  intro error ran
  cases known with
  | ok a => cases ran
  | error fault =>
    cases ran
    exact lie _ fails

theorem ofExcept_then_failsIn {known : Except CompileError α} {next : α → Reader β}
    {blamed : List Span} (fails : FailsAt blamed known) (lie : ∀ span ∈ blamed, span.Lies source)
    (rest : ∀ a, known = .ok a → FailsIn source (next a) s) :
    FailsIn source (ofExcept known >>= next) s := by
  refine bind_failsIn (ofExcept_failsIn fails lie) fun a m came => ?_
  obtain ⟨settled, rfl⟩ := ofExcept_yields.mp came
  exact rest a settled

section Tokens

variable {next : Token → Reader β}

@[simp] theorem peek_failsIn :
    FailsIn source (peek >>= next) s ↔ FailsIn source (next s.peek) s := Iff.rfl

@[simp] theorem advance_failsIn :
    FailsIn source (advance >>= next) s ↔ FailsIn source (next s.peek) s.next := Iff.rfl

end Tokens

@[simp] theorem skip_failsIn {next : Unit → Reader β} :
    FailsIn source (discard advance >>= next) s ↔ FailsIn source (next ()) s.next := Iff.rfl

@[simp] theorem kindAt_failsIn {places : Nat} {next : TokenKind → Reader β} :
    FailsIn source (kindAt places >>= next) s ↔ FailsIn source (next (s.kindAt places)) s := Iff.rfl

@[simp] theorem check_failsIn {next : Bool → Reader β} :
    FailsIn source (check kind >>= next) s ↔ FailsIn source (next (s.kind == kind)) s := Iff.rfl

@[simp] theorem spanFrom_failsIn {next : Span → Reader β} :
    FailsIn source (spanFrom span >>= next) s ↔ FailsIn source (next (s.spanFrom span)) s := Iff.rfl

@[simp] theorem fuel_failsIn {next : Nat → Reader β} :
    FailsIn source (fuel >>= next) s ↔ FailsIn source (next (s.rest.length + 1)) s := Iff.rfl

/-- What comes behind a step that succeeds fails as the whole does. -/
theorem then_failsIn {next : α → Reader β} {a : α} {m : Stream} (came : Yields read s a m) :
    FailsIn source (read >>= next) s ↔ FailsIn source (next a) m := by
  have same : (read >>= next) s = next a m := by
    simp only [bind, StateT.bind, Except.bind]
    rw [came]
  rw [FailsIn, FailsIn, same]

theorem eat_failsIn {next : Bool → Reader β}
    (found : s.kind = kind → FailsIn source (next true) s.next)
    (other : s.kind ≠ kind → FailsIn source (next false) s) :
    FailsIn source (eat kind >>= next) s := by
  by_cases same : s.kind = kind
  · have ran : Yields (eat kind) s true s.next := by simp [Yields, eat, Stream.eat?, same]
    exact (then_failsIn ran).mpr (found same)
  · have ran : Yields (eat kind) s false s := by simp [Yields, eat, Stream.eat?, same]
    exact (then_failsIn ran).mpr (other same)

theorem expect_failsIn {next : Unit → Reader β} (placed : s.Placed source)
    (rest : s.kind = kind → FailsIn source (next ()) s.next) :
    FailsIn source (expect kind >>= next) s := by
  by_cases same : s.kind = kind
  · have ran : Yields (expect kind) s () s.next := by simp [Yields, expect, Stream.eat?, same]
    exact (then_failsIn ran).mpr (rest same)
  · refine bind_failsIn (fun error ran => ?_) fun _ m came => ?_
    · simp only [expect, Stream.eat?, same] at ran
      cases ran
      exact placed.lies
    · simp [Yields, expect, Stream.eat?, same] at came

theorem attempt_failsIn {read : Attempt α} {next : Option α → Reader β}
    (found : ∀ a m, read s = some (a, m) → FailsIn source (next (some a)) m)
    (nothing : read s = none → FailsIn source (next none) s) :
    FailsIn source (attempt read >>= next) s := by
  cases tried : read s with
  | none =>
    have ran : Yields (attempt read) s none s := by simp [Yields, attempt, tried]
    exact (then_failsIn ran).mpr (nothing tried)
  | some reply =>
    have ran : Yields (attempt read) s (some reply.1) reply.2 := by simp [Yields, attempt, tried]
    exact (then_failsIn ran).mpr (found _ _ tried)

theorem exhausted_failsIn (placed : s.Placed source) :
    FailsIn source (exhausted : Reader α) s :=
  peek_failsIn.mpr (fail_failsIn placed.lies)

end Rules

section TypeNames

variable {β : Type} {source : String} {scope : Scope} {s : Stream}

/-- A dotted name is gone over token by token. -/
theorem dottedFrom_later (fuel : Nat) (name : String) (placed : s.Placed source) :
    Stream.Later source s (dottedFrom fuel name s).2 := by
  induction fuel generalizing s name with
  | zero => exact placed.here
  | succ fuel ih =>
    unfold dottedFrom
    split
    case isTrue goesOn =>
      rw [Stream.kindAt_one] at goesOn
      have dot := placed.after (by simp [goesOn.1])
      have part := dot.placed.after (by simp [goesOn.2])
      exact (dot.trans part).trans (ih _ part.placed)
    case isFalse => exact placed.here

theorem unknownType_failsIn {α : Type} (placed : s.Placed source) (name : s.kind = .identifier) :
    FailsIn source (unknownType : Reader α) s := by
  rintro error ⟨⟩
  have first := placed.next (by simp [name])
  exact placed.lies.join ((dottedFrom_later _ _ first).lies placed.lies)

theorem expectType_failsIn (placed : s.Placed source) : FailsIn source (expectType scope) s := by
  refine peek_failsIn.mpr (attempt_failsIn (fun ty m _ => pure_failsIn) fun _ => ?_)
  simp only
  split
  case isTrue name => exact unknownType_failsIn placed name
  case isFalse => exact fail_failsIn placed.lies

theorem expectType_then_failsIn {next : Ty → Reader β} (placed : s.Placed source)
    (rest : ∀ ty m, type? scope s = some (ty, m) → FailsIn source (next ty) m) :
    FailsIn source (expectType scope >>= next) s :=
  bind_failsIn (expectType_failsIn placed) fun ty m came => rest ty m (expectType_yields.mp came)

theorem typeInParens_then_failsIn {next : Ty → Reader β} (placed : s.Placed source)
    (rest : ∀ ty m, Stream.Later source s m → FailsIn source (next ty) m) :
    FailsIn source (typeInParens scope >>= next) s := by
  simp only [typeInParens, bind_assoc, pure_bind]
  refine expect_failsIn placed fun opens => ?_
  have first := placed.after (by simp [opens])
  refine expectType_then_failsIn first.placed fun ty m named => ?_
  have inner := type_later named first.placed
  refine expect_failsIn inner.placed fun closes => ?_
  exact rest ty _ (typeInParens_later opens named closes placed)

end TypeNames

/-- A reader of subexpressions reads what the grammar has, and fails within the source. -/
structure SubPlaced (source : String) (scope : Scope) (sub : Sub) : Prop where
  sound : SubSound scope sub
  fails : ∀ least inside s, s.Placed source → FailsIn source (sub least inside) s

section Readers

variable {source : String} {scope : Scope} {sub : Sub} {s m : Stream} {e left : Expr}
  {inside : Option Bracket} {bracket : Bracket} {level least start : Nat} {ty : Ty}
  {args : List Expr} {β : Type}

theorem SubPlaced.passed (places : SubPlaced source scope sub) (placed : s.Placed source)
    (ran : Yields (sub least inside) s e m) : Passed source s.peek.span.offset m [e] :=
  (places.sound _ _ _ _ _ ran).passed placed (Nat.le_refl _)

/-- A subexpression fails within the source, or else what comes behind it meets a tree that lies
there. -/
theorem SubPlaced.then_failsIn {next : Expr → Reader β} (places : SubPlaced source scope sub)
    (placed : s.Placed source)
    (rest : ∀ e m, Passed source s.peek.span.offset m [e] → FailsIn source (next e) m) :
    FailsIn source (sub least inside >>= next) s :=
  bind_failsIn (places.fails _ _ _ placed) fun e m came => rest e m (places.passed placed came)

/-- Each of the expressions in a bracket begins where the one before ended, so all their errors lie
in the source. -/
theorem itemsFrom_failsIn {fuel : Nat} (places : SubPlaced source scope sub)
    (placed : s.Placed source) : FailsIn source (itemsFrom sub bracket fuel) s := by
  induction fuel generalizing s with
  | zero => exact exhausted_failsIn placed
  | succ fuel ih =>
    refine places.then_failsIn placed fun first m passed =>
      eat_failsIn (fun comma => ?_) fun _ => ?_
    · have rest := passed.placed.next (by simp [comma])
      exact bind_failsIn (ih rest) fun _ _ _ => pure_failsIn
    · exact eat_failsIn (fun _ => pure_failsIn) fun _ =>
        peek_failsIn.mpr (fail_failsIn passed.placed.lies)

theorem arguments_failsIn (places : SubPlaced source scope sub) (placed : s.Placed source) :
    FailsIn source (arguments sub bracket) s := by
  refine expect_failsIn placed fun opens => ?_
  have first := placed.next (ne_end_of_opener opens)
  refine eat_failsIn (fun _ => pure_failsIn) fun _ => ?_
  exact itemsFrom_failsIn places first

/-- Arguments, and what comes behind them. -/
theorem arguments_then_failsIn {next : List Expr → Reader β} (places : SubPlaced source scope sub)
    (placed : s.Placed source)
    (rest : ∀ args m, Passed source s.peek.span.offset m args → FailsIn source (next args) m) :
    FailsIn source (arguments sub bracket >>= next) s :=
  bind_failsIn (arguments_failsIn places placed) fun args m came =>
    rest args m ((arguments_reads places.sound came).passed placed (Nat.le_refl _))

theorem memberName_then_failsIn {next : Token → Reader β} (placed : s.Placed source)
    (rest : s.kind = .identifier → FailsIn source (next s.peek) s.next) :
    FailsIn source (memberName >>= next) s := by
  by_cases name : s.peek.kind = .identifier
  · have ran : Yields memberName s s.peek s.next := by simp [memberName, name]
    exact (then_failsIn ran).mpr (rest name)
  · refine bind_failsIn (peek_failsIn.mpr ?_) fun _ m came => ?_
    · rw [if_neg name]
      exact fail_failsIn placed.lies
    · simp [memberName, name] at came

theorem memberAccess_failsIn (places : SubPlaced source scope sub)
    (target : Passed source start s [left]) (dot : s.kind = .dot) :
    FailsIn source (memberAccess scope sub left) s := by
  have first := target.placed.next (by simp [dot])
  refine skip_failsIn.mpr (memberName_then_failsIn first fun name => check_failsIn.mpr ?_)
  have second := first.next (by simp [name])
  split
  case isTrue =>
    refine arguments_then_failsIn places second fun args m passed => spanFrom_failsIn.mpr ?_
    exact ofExcept_failsIn callOn_builds.fails (only_lies first.lies)
  case isFalse =>
    exact spanFrom_failsIn.mpr (ofExcept_failsIn memberOf_builds.fails (only_lies first.lies))

theorem indexAccess_failsIn (places : SubPlaced source scope sub) (placed : s.Placed source) :
    FailsIn source (indexAccess scope sub left) s := by
  refine peek_failsIn.mpr <| arguments_then_failsIn places placed fun args m passed =>
    spanFrom_failsIn.mpr <| ofExcept_failsIn indexInto_builds.fails ?_
  exact List.forall_mem_cons.mpr ⟨placed.lies, List.forall_mem_map.mpr passed.trees_lie⟩

theorem branches_failsIn (places : SubPlaced source scope sub)
    (target : Passed source start s [left]) (asks : s.kind = .question) :
    FailsIn source (branches scope sub left inside) s := by
  have first := target.placed.next (by simp [asks])
  refine skip_failsIn.mpr <| ofExcept_then_failsIn checkCondition_fails
    (only_lies target.tree_lies) fun _ _ => ?_
  refine places.then_failsIn first fun yes m passed => expect_failsIn passed.placed fun colon => ?_
  refine places.then_failsIn (passed.placed.next (by simp [colon])) fun no n passedNo => ?_
  exact ofExcept_failsIn choose_builds.fails
    (only_lies (passed.tree_lies.join passedNo.tree_lies))

theorem coalesceRest_failsIn (places : SubPlaced source scope sub) (placed : s.Placed source)
    (asks : s.kind = .questionQuestion) :
    FailsIn source (coalesceRest scope sub left level inside) s := by
  refine advance_failsIn.mpr <| places.then_failsIn (placed.next (by simp [asks])) fun _ _ _ => ?_
  exact ofExcept_failsIn coalesceWith_builds.fails (only_lies placed.lies)

theorem testRest_failsIn {op : TypeTest} (placed : s.Placed source)
    (asks : test? s.kind = some op) : FailsIn source (testRest scope op left) s := by
  have first := placed.next (ne_end_of_plain (plain_of_test asks))
  refine advance_failsIn.mpr <| expectType_then_failsIn first fun ty m _ => spanFrom_failsIn.mpr ?_
  exact ofExcept_failsIn testType_builds.fails (only_lies placed.lies)

theorem afterOperand_failsIn (places : SubPlaced source scope sub)
    (target : Passed source start s [left]) :
    FailsIn source (afterOperand scope sub left s.peek level inside) s := by
  have placed := target.placed
  unfold afterOperand
  split
  case h_1 kind => exact memberAccess_failsIn places target kind
  case h_2 kind => exact indexAccess_failsIn places placed
  case h_3 kind => exact fail_failsIn placed.lies
  case h_4 kind => exact branches_failsIn places target kind
  case h_5 kind => exact coalesceRest_failsIn places placed kind
  case h_6 kind => exact testRest_failsIn placed (by rw [Stream.kind, kind]; rfl)
  case h_7 kind => exact testRest_failsIn placed (by rw [Stream.kind, kind]; rfl)
  case h_8 =>
    split
    case h_1 => exact fail_failsIn placed.lies
    case h_2 op sign =>
      have first := placed.next (ne_end_of_operator sign)
      refine skip_failsIn.mpr <| places.then_failsIn first fun right m _ => ?_
      exact ofExcept_failsIn applyOperator_builds.fails (only_lies placed.lies)

theorem endsBefore_fails {token : Token} : FailsAt [token.span] (endsBefore token inside) := by
  have blamed : token.span ∈ [token.span] := List.mem_singleton.mpr rfl
  unfold endsBefore
  split
  case isTrue =>
    cases inside with
    | none => trivial
    | some bracket => exact blamed
  case isFalse =>
    split
    case isTrue =>
      cases inside with
      | none => exact blamed
      | some bracket =>
        simp only
        split
        case isTrue => trivial
        case isFalse => exact blamed
    case isFalse =>
      split
      case h_1 =>
        split
        case isTrue => exact blamed
        case isFalse => trivial
      case h_2 | h_3 | h_4 => trivial

/-- Errors among operators lie in the source, if those of their operands do. -/
theorem climb_failsIn {fuel : Nat} (places : SubPlaced source scope sub)
    (target : Passed source start s [left]) :
    FailsIn source (climb scope sub least inside fuel left) s := by
  induction fuel generalizing s left with
  | zero => exact exhausted_failsIn target.placed
  | succ fuel ih =>
    refine peek_failsIn.mpr <|
      ofExcept_then_failsIn endsBefore_fails (only_lies target.placed.lies) fun ended _ => ?_
    split
    case isTrue => exact pure_failsIn
    case isFalse =>
      split
      case h_1 => exact pure_failsIn
      case h_2 level _ =>
        split
        case isTrue => exact pure_failsIn
        case isFalse =>
          refine bind_failsIn (afterOperand_failsIn places target) fun folded m came => ?_
          exact ih ((afterOperand_reads places.sound came).passed target.placed target)

theorem signed_failsIn (places : SubPlaced source scope sub) (placed : s.Placed source)
    (sign : isSign s.kind) : FailsIn source (signed sub inside) s := by
  have first := placed.next (ne_end_of_sign sign)
  refine advance_failsIn.mpr <| places.then_failsIn first fun operand m _ => ?_
  exact ofExcept_failsIn applySign_builds.fails (only_lies placed.lies)

theorem group_failsIn (places : SubPlaced source scope sub) (placed : s.Placed source)
    (opens : s.kind = .leftParen) : FailsIn source (group scope sub inside) s := by
  have first := placed.next (by simp [opens])
  refine advance_failsIn.mpr <| attempt_failsIn (fun ty m target => ?cast) fun _ => ?inner
  case cast =>
    refine places.then_failsIn (castTarget_later target first).placed fun operand n passed => ?_
    exact ofExcept_failsIn castWritten_builds.fails
      (only_lies (placed.lies.join passed.tree_lies))
  case inner =>
    refine places.then_failsIn first fun inner m passed => ?_
    exact expect_failsIn passed.placed fun _ => pure_failsIn

theorem assignmentsFrom_failsIn {fuel : Nat} (places : SubPlaced source scope sub)
    (placed : s.Placed source) : FailsIn source (assignmentsFrom scope sub ty fuel) s := by
  induction fuel generalizing s with
  | zero => exact exhausted_failsIn placed
  | succ fuel ih =>
    refine peek_failsIn.mpr ?_
    split
    case isTrue => exact fail_failsIn placed.lies
    case isFalse named =>
      have name : s.kind = .identifier := not_not.mp named
      have first := placed.next (by simp [name])
      refine skip_failsIn.mpr <| expect_failsIn first fun equal => ?_
      refine ofExcept_then_failsIn assignable_fails (only_lies placed.lies) fun ref _ => ?_
      refine places.then_failsIn (first.next (by simp [equal])) fun value m passed => ?_
      refine ofExcept_then_failsIn convertImplicit_fails (only_lies passed.tree_lies) fun _ _ => ?_
      refine eat_failsIn (fun comma => ?_) fun _ =>
        expect_failsIn passed.placed fun _ => pure_failsIn
      have rest := passed.placed.next (by simp [comma])
      refine eat_failsIn (fun _ => pure_failsIn) fun _ => ?_
      exact bind_failsIn (ih rest) fun _ _ _ => pure_failsIn

theorem initializer_failsIn (places : SubPlaced source scope sub) (placed : s.Placed source)
    (opens : s.kind = .leftBrace) : FailsIn source (initializer scope sub ty) s := by
  refine kindAt_failsIn.mpr <| kindAt_failsIn.mpr ?_
  split
  case isTrue =>
    refine skip_failsIn.mpr <| fuel_failsIn.mpr ?_
    refine bind_failsIn (assignmentsFrom_failsIn places (placed.next (by simp [opens]))) ?_
    exact fun _ _ _ => pure_failsIn
  case isFalse =>
    refine arguments_then_failsIn places placed fun items m passed => ?_
    refine ofExcept_then_failsIn addsFor_fails (List.forall_mem_map.mpr passed.trees_lie) ?_
    exact fun _ _ => pure_failsIn

theorem arrayItems_failsIn {keyword : Span} {element : Ty} (places : SubPlaced source scope sub)
    (placed : s.Placed source) :
    FailsIn source (arrayItems scope sub keyword ty element) s := by
  refine peek_failsIn.mpr ?_
  split
  case isTrue =>
    refine arguments_then_failsIn places placed fun items m passed => ?_
    refine ofExcept_then_failsIn convertAll_fails (List.forall_mem_map.mpr passed.trees_lie) ?_
    exact fun _ _ => spanFrom_failsIn.mpr pure_failsIn
  case isFalse => exact fail_failsIn placed.lies

theorem arrayLength_failsIn {keyword : Span} {element : Ty} (places : SubPlaced source scope sub)
    (placed : s.Placed source) : FailsIn source (arrayLength sub keyword element) s := by
  refine peek_failsIn.mpr <| arguments_then_failsIn places placed fun bounds m passed => ?_
  refine ofExcept_then_failsIn single_fails (only_lies placed.lies) fun length one => ?_
  have lies := passed.trees_lie length (single_ok.mp one ▸ List.mem_cons_self)
  refine ofExcept_then_failsIn checkIntegral_fails (only_lies lies) fun _ _ => ?_
  exact spanFrom_failsIn.mpr pure_failsIn

/-- The constructor is chosen and the braces are read, whatever the arguments are. -/
private theorem constructed_failsIn {keyword : Span} (places : SubPlaced source scope sub)
    (placed : s.Placed source) (lies : keyword.Lies source) :
    FailsIn source (do
      let constructor ← ofExcept (Expr.constructorFor scope.world ty args keyword)
      let (init, values) ←
        if ← check .leftBrace then initializer scope sub ty else pure (.none, [])
      return Expr.create ⟨ty, ← spanFrom keyword⟩ constructor args init values) s := by
  refine ofExcept_then_failsIn found_fails (only_lies lies) fun ref _ => check_failsIn.mpr ?_
  split
  case isTrue brace =>
    refine bind_failsIn (initializer_failsIn places placed (by simpa using brace)) ?_
    exact fun _ _ _ => spanFrom_failsIn.mpr pure_failsIn
  case isFalse =>
    simp only [pure_bind]
    exact spanFrom_failsIn.mpr pure_failsIn

theorem newObject_failsIn {keyword : Span} (places : SubPlaced source scope sub)
    (placed : s.Placed source) (lies : keyword.Lies source) :
    FailsIn source (newObject scope sub keyword ty) s := by
  refine peek_failsIn.mpr ?_
  split
  case isTrue => exact fail_failsIn placed.lies
  case isFalse =>
    split
    case isTrue =>
      exact arguments_then_failsIn places placed fun args m passed =>
        constructed_failsIn places passed.placed lies
    case isFalse => exact constructed_failsIn places placed lies

theorem creation_failsIn (places : SubPlaced source scope sub) (placed : s.Placed source)
    (new : s.kind = .new) : FailsIn source (creation scope sub) s := by
  have first := placed.next (by simp [new])
  refine advance_failsIn.mpr <| expectType_then_failsIn first fun ty m named => ?_
  have named := (type_later named first).placed
  split
  case h_1 => exact arrayItems_failsIn places named
  case h_2 =>
    refine check_failsIn.mpr ?_
    split
    case isTrue => exact arrayLength_failsIn places named
    case isFalse => exact newObject_failsIn places named placed.lies

theorem typeValue_failsIn (placed : s.Placed source) (keyword : s.kind = .typeOf) :
    FailsIn source (typeValue scope) s :=
  advance_failsIn.mpr <| typeInParens_then_failsIn (placed.next (by simp [keyword]))
    fun _ _ _ => spanFrom_failsIn.mpr pure_failsIn

theorem typeSize_failsIn (placed : s.Placed source) (keyword : s.kind = .sizeOf) :
    FailsIn source (typeSize scope) s := by
  have first := placed.next (by simp [keyword])
  refine advance_failsIn.mpr <| typeInParens_then_failsIn first fun ty m onward =>
    spanFrom_failsIn.mpr ?_
  exact ofExcept_failsIn measure_builds.fails
    (only_lies (placed.lies.join (onward.lies placed.lies)))

theorem staticAccess_failsIn (places : SubPlaced source scope sub) (placed : s.Placed source)
    (name : s.kind = .identifier) : FailsIn source (staticAccess scope sub) s := by
  refine peek_failsIn.mpr <| attempt_failsIn (fun ty m named => ?path) fun _ =>
    unknownType_failsIn placed name
  have path := (typePath_onward named placed).placed
  refine eat_failsIn (fun dot => ?member) fun _ => peek_failsIn.mpr (fail_failsIn path.lies)
  have first := path.next (by simp [dot])
  refine memberName_then_failsIn first fun name => check_failsIn.mpr ?_
  split
  case isTrue =>
    refine arguments_then_failsIn places (first.next (by simp [name])) fun args n _ => ?_
    exact spanFrom_failsIn.mpr (ofExcept_failsIn callStatic_builds.fails (only_lies first.lies))
  case isFalse =>
    exact spanFrom_failsIn.mpr (ofExcept_failsIn memberStatic_builds.fails (only_lies first.lies))

theorem defaultAccess_failsIn (places : SubPlaced source scope sub) (placed : s.Placed source)
    (name : s.kind = .identifier) :
    FailsIn source (defaultAccess scope sub e s.peek) s := by
  refine kindAt_failsIn.mpr ?_
  split
  case isTrue =>
    refine skip_failsIn.mpr <| arguments_then_failsIn places (placed.next (by simp [name]))
      fun args m _ => spanFrom_failsIn.mpr ?_
    have fails {span : Span} : FailsAt [s.peek.span]
        (callDefault scope.world e s.peek args span) := by
      obtain ofInstance | static := callDefault_builds
      · exact ofInstance.fails
      · exact static.fails
    exact ofExcept_then_failsIn fails (only_lies placed.lies) fun _ _ => pure_failsIn
  case isFalse =>
    split
    case h_1 => exact pure_failsIn
    case h_2 => exact skip_failsIn.mpr pure_failsIn

theorem named_failsIn (places : SubPlaced source scope sub) (placed : s.Placed source)
    (name : s.kind = .identifier) : FailsIn source (named scope sub) s := by
  refine peek_failsIn.mpr ?_
  split
  case h_1 => exact skip_failsIn.mpr pure_failsIn
  case h_2 =>
    split
    case h_1 => exact staticAccess_failsIn places placed name
    case h_2 =>
      refine bind_failsIn (defaultAccess_failsIn places placed name) fun answer m came => ?_
      cases answer with
      | some node => exact pure_failsIn
      | none =>
        obtain rfl := defaultAccess_none came
        exact staticAccess_failsIn places placed name

theorem operand_failsIn (places : SubPlaced source scope sub) (placed : s.Placed source) :
    FailsIn source (operand scope sub inside) s := by
  have literal {value : Value} {ty : Ty} : FailsIn source (literal value ty) s :=
    advance_failsIn.mpr pure_failsIn
  refine peek_failsIn.mpr ?_
  split
  case h_1 =>
    split
    case h_1 => exact literal
    case h_2 => exact fail_failsIn placed.lies
  case h_3 =>
    split
    case h_1 => exact literal
    case h_2 => exact fail_failsIn placed.lies
  case h_2 | h_4 | h_5 | h_6 => exact literal
  case h_7 kind => exact group_failsIn places placed kind
  case h_8 kind | h_9 kind | h_10 kind | h_11 kind =>
    exact signed_failsIn places placed (by rw [Stream.kind, kind]; rfl)
  case h_12 kind => exact creation_failsIn places placed kind
  case h_13 kind => exact typeValue_failsIn placed kind
  case h_14 kind => exact typeSize_failsIn placed kind
  case h_15 kind => exact named_failsIn places placed kind
  case h_16 =>
    rintro error ⟨⟩
    exact placed.lies

end Readers

/-- However deep expressions may nest, reading them fails within the source. -/
theorem expressionWithin_placed {source : String} {scope : Scope} (depth : Nat) :
    SubPlaced source scope (expressionWithin scope depth) := by
  refine ⟨expressionWithin_reads depth, ?_⟩
  induction depth with
  | zero => exact fun _ _ _ placed => exhausted_failsIn placed
  | succ depth ih =>
    intro least inside s placed
    have places : SubPlaced source scope (expressionWithin scope depth) :=
      ⟨expressionWithin_reads depth, ih⟩
    refine bind_failsIn (operand_failsIn places placed) fun first m came => fuel_failsIn.mpr ?_
    exact climb_failsIn places
      ((operand_reads places.sound came).passed placed (Nat.le_refl s.peek.span.offset))

theorem expression_failsIn {source : String} {scope : Scope} {s : Stream} {least : Nat}
    {inside : Option Bracket} (placed : s.Placed source) :
    FailsIn source (expression scope least inside) s :=
  fuel_failsIn.mpr ((expressionWithin_placed _).fails _ _ _ placed)

section Headers

variable {source : String} {scope : Scope} {s t : Stream} {header : List HeaderParam}
  {declared : Option (List ParamSpec)}

/-- A parameter of a header stands from its type, or else its name, to its name. -/
theorem headerFrom_lies {fuel : Nat} (placed : s.Placed source)
    (read : headerFrom scope fuel s = some (header, t)) :
    ∀ param ∈ header, param.span.Lies source := by
  induction fuel generalizing s header with
  | zero => cases read
  | succ fuel ih =>
    obtain ⟨ty, m, others, front, name, rfl, behind⟩ := headerFrom_cases read
    have named := ((front.walk none).later placed).placed
    refine List.forall_mem_cons.mpr ⟨placed.lies.join named.lies, ?_⟩
    obtain ⟨comma, rest⟩ | ⟨-, rfl, -⟩ := behind
    · have next := named.next (by simp [name])
      exact ih (next.next (by simp [comma])) rest
    · exact List.forall_mem_nil _

theorem header_lies (placed : s.Placed source) (read : header? scope s = some (header, t)) :
    ∀ param ∈ header, param.span.Lies source := by
  obtain ⟨-, -, -, rfl⟩ | ⟨opens, m, -, -, ⟨-, -, rfl⟩ | list⟩ := header_cases read
  · exact List.forall_mem_singleton.mpr placed.lies
  · exact List.forall_mem_nil _
  · exact headerFrom_lies (placed.next (by simp [opens])) list

theorem header_onward (placed : s.Placed source) (read : header? scope s = some (header, t)) :
    Stream.Later source s.next t := by
  obtain ⟨name, arrow, rfl⟩ | ⟨opens, m, walk, closes, arrow, rfl⟩ := header_walk read
  · exact (placed.next (by simp [name])).after (by simp [arrow])
  · have inner := walk.later_next (by simp [closes]) (placed.next (by simp [opens]))
    exact inner.trans (inner.placed.after (by simp [arrow]))

/-- A header that does not suit the declared parameters is refused at one of its own. -/
theorem bindFrom_fails {params : Parameters} {earlier : List String} {specs : List ParamSpec} :
    FailsAt (header.map (·.span)) (bindFrom params earlier header specs) := by
  induction header generalizing params earlier specs with
  | nil => trivial
  | cons param header ih =>
    have own : param.span ∈ (param :: header).map (·.span) := List.mem_cons_self
    have others {params : Parameters} :
        FailsAt ((param :: header).map (·.span))
          (bindFrom params (param.name :: earlier) header specs.tail) :=
      ih.mono (List.subset_cons_self _ _)
    unfold bindFrom
    simp only
    split
    case isTrue => exact own
    case isFalse =>
      split
      case h_1 =>
        split
        case isTrue => exact others
        case isFalse => exact own
      case h_2 | h_3 | h_4 => exact others

theorem bindHeader_fails {params : Parameters} {span : Span} :
    FailsAt (span :: header.map (·.span)) (bindHeader params header declared span) := by
  have bound {specs : List ParamSpec} :
      FailsAt (span :: header.map (·.span)) (bindFrom params [] header specs) :=
    bindFrom_fails.mono (List.subset_cons_self _ _)
  unfold bindHeader
  split
  case h_1 => exact bound
  case h_2 =>
    split
    case isTrue => exact bound
    case isFalse => exact List.mem_cons_self

theorem parameters_failsIn (placed : s.Placed source) :
    FailsIn source (parameters scope declared) s := by
  refine peek_failsIn.mpr <| attempt_failsIn (fun header m read => spanFrom_failsIn.mpr ?_)
    fun _ => pure_failsIn
  have whole := placed.lies.join ((header_onward placed read).lies placed.lies)
  refine ofExcept_failsIn bindHeader_fails (List.forall_mem_cons.mpr ⟨whole, ?_⟩)
  exact List.forall_mem_map.mpr (header_lies placed read)

/-- The body of a formula begins in the source. -/
theorem parameters_placed {params : Parameters} (placed : s.Placed source)
    (ran : Yields (parameters scope declared) s params t) : t.Placed source := by
  simp only [parameters, peek_then] at ran
  obtain ⟨header, m, read, ran⟩ | ⟨-, ran⟩ := attempt_then.mp ran
  · obtain ⟨-, rfl⟩ := ofExcept_yields.mp (spanFrom_then.mp ran)
    exact (header_onward placed read).placed
  · obtain ⟨-, rfl⟩ := pure_yields.mp ran
    exact placed

theorem lambda_failsIn (placed : s.Placed source) : FailsIn source (lambda scope declared) s := by
  refine bind_failsIn (parameters_failsIn placed) fun params m bound => ?_
  have body := parameters_placed placed bound
  refine bind_failsIn (expression_failsIn body) fun e n came => peek_failsIn.mpr ?_
  split
  case isTrue => exact pure_failsIn
  case isFalse =>
    exact fail_failsIn ((expression_reads came).later body).placed.lies

theorem lambda_laid {parsed : Lambda} (placed : s.Placed source)
    (ran : Yields (lambda scope declared) s parsed t) : AllLaid source parsed.body := by
  obtain ⟨params, m, bound, ran⟩ := bind_yields.mp ran
  obtain ⟨body, n, read, ran⟩ := bind_yields.mp ran
  have passed := (expression_reads read).passed (parameters_placed placed bound)
    (Nat.le_refl m.peek.span.offset)
  simp only [peek_then] at ran
  split at ran
  case isTrue =>
    obtain ⟨rfl, -⟩ := pure_yields.mp ran
    exact passed.row.head
  case isFalse => simp at ran

end Headers

end Reader

/-- What the lexer answers with is a stream over its source, and before it nothing was consumed. -/
theorem Token.tokenize_placed {source : String} {tokens : List Token}
    (lexed : Token.tokenize source = .ok tokens) : (Stream.ofTokens tokens).Placed source where
  closed := Stream.before_ofTokens.closed (tokenize_tiled lexed).ended
  inPlace := (tokenize_tiled lexed).inPlace rfl
  order := (tokenize_tiled lexed).order.imp And.right
  behind := Nat.zero_le _

namespace Lambda

variable {world : Universe} {namespaces : List String} {declared : Option (List ParamSpec)}
  {receiver : Option Ty} {source : String}

/-- A formula that is not read has its error in the source. -/
theorem parse_error_lies {error : CompileError}
    (refused : Lambda.parse world namespaces declared receiver source = .error error) :
    error.span.Lies source := by
  obtain ⟨fault, lexed, rfl⟩ | ⟨tokens, lexed, ran⟩ := parse_refused refused
  · exact Token.tokenize_error_lies lexed
  · exact Reader.lambda_failsIn (Token.tokenize_placed lexed) error ran

/-- Where a formula that is read has its nodes, and where one that is not has its error. Every node
lies in the source, at its line and column, with its children in it, in order and apart; and so does
the error lie there. -/
theorem parse_places (world : Universe) (namespaces : List String)
    (declared : Option (List ParamSpec)) (receiver : Option Ty) (source : String) :
    match Lambda.parse world namespaces declared receiver source with
    | .ok lambda => Expr.AllLaid source lambda.body
    | .error error => error.span.Lies source := by
  cases read : Lambda.parse world namespaces declared receiver source with
  | ok lambda =>
    obtain ⟨tokens, lexed, read⟩ := except_then.mp read
    obtain ⟨⟨lambda, rest⟩, ran, same⟩ := except_then.mp read
    cases same
    exact Reader.lambda_laid (Token.tokenize_placed (tokenize_of_tokensOf lexed)) ran
  | error error => exact parse_error_lies read

end Lambda
end Formula
