import Formula.Proofs.Faults
import Formula.Proofs.Rounds
import Mathlib.Logic.Function.Iterate

/-! How deep readings nest. What a reading reads inside itself begins behind a token of its own, where
fewer tokens are left. So readings nest no deeper than there are tokens, and what stands in for those
that would nest deeper makes no difference: it is never asked. -/
namespace Formula.Reader

open Formula.Stream

section TypeNames

variable {scope : Scope} {readTy readTy' : Attempt Ty} {s : Stream} {bound fuel : Nat}

/-- What reading a type does, given what reads the types that are its arguments. -/
def typeStep (scope : Scope) (readTy : Attempt Ty) : Attempt Ty := fun stream =>
  (path scope readTy stream).map fun reply =>
    let marked := withNullable reply.1 reply.2
    withArrays marked.2.rest.length marked.1 marked.2

/-- Two attempts come to the same wherever fewer tokens are left than a bound. -/
def SameWithin {α : Type} (bound : Nat) (read read' : Attempt α) : Prop :=
  ∀ s, s.Within bound → read s = read' s

/-- The arguments of a type are read alike, since each of them begins where fewer tokens are left. -/
theorem argsFrom_same (walks : Walks readTy') (same : SameWithin bound readTy readTy') :
    SameWithin bound (argsFrom readTy fuel) (argsFrom readTy' fuel) := by
  intro s within
  induction fuel generalizing s with
  | zero => rfl
  | succ fuel ih =>
    unfold argsFrom
    rw [same s within]
    cases came : readTy' s with
    | none => rfl
    | some reply =>
      have middle := within.onward (walks.onward came)
      simp only [Option.bind_some]
      cases ate : reply.2.eat? .comma with
      | none => rfl
      | some next =>
        obtain ⟨comma, rfl⟩ := eat_eq.mp ate
        simp only [ih _ (middle.same (by simp [comma]))]

theorem typeArgs_same (walks : Walks readTy') (same : SameWithin bound readTy readTy') :
    SameWithin bound (typeArgs readTy) (typeArgs readTy') := by
  intro s within
  unfold typeArgs
  cases ate : s.eat? .less with
  | none => rfl
  | some next =>
    obtain ⟨less, rfl⟩ := eat_eq.mp ate
    exact argsFrom_same walks same _ (within.same (by simp [less]))

theorem pathFrom_same {name : String} (walks : Walks readTy')
    (same : SameWithin bound readTy readTy') :
    SameWithin bound (pathFrom scope readTy fuel name) (pathFrom scope readTy' fuel name) := by
  intro s within
  induction fuel generalizing s name with
  | zero => rfl
  | succ fuel ih =>
    have generic : generic? scope readTy name s = generic? scope readTy' name s := by
      simp only [generic?, typeArgs_same walks same s within]
    unfold pathFrom
    rw [generic]
    by_cases dotted : s.kind = .dot ∧ s.kindAt 1 = .identifier
    · have part := dotted.2
      rw [kindAt_one] at part
      have next := (within.same (by simp [dotted.1])).same (by simp [part])
      simp only [dotted, true_and, ↓reduceIte, ih _ next]
    · simp only [dotted, ↓reduceIte]

/-- A dotted path reads types behind its first name only, so one token more may be left. -/
theorem path_same (walks : Walks readTy') (same : SameWithin bound readTy readTy') :
    SameWithin (bound + 1) (path scope readTy) (path scope readTy') := by
  intro s within
  unfold path
  by_cases name : s.kind = .identifier
  · simp only [name, ↓reduceIte]
    exact pathFrom_same walks same _ (within.next (by simp [name]))
  · simp only [name, ↓reduceIte]

theorem typeStep_same (walks : Walks readTy') (same : SameWithin bound readTy readTy') :
    SameWithin (bound + 1) (typeStep scope readTy) (typeStep scope readTy') := by
  intro s within
  simp only [typeStep, path_same walks same s within]

/-- Types are read the same however deep they may nest, if as deep as there are tokens, and whatever is
answered where they may not. -/
theorem typeWithin_unrolls (base : Attempt Ty) {n depth : Nat} (reaches : bound ≤ n)
    (deep : bound ≤ depth) :
    SameWithin (bound + 1) ((typeStep scope)^[n] base) (typeWithin scope depth) := by
  induction bound generalizing n depth with
  | zero => exact fun s within => absurd within.one_lt (Nat.lt_irrefl 1)
  | succ bound ih =>
    obtain ⟨n, rfl⟩ : ∃ k, n = k + 1 := ⟨n - 1, by omega⟩
    obtain ⟨depth, rfl⟩ : ∃ k, depth = k + 1 := ⟨depth - 1, by omega⟩
    rw [Function.iterate_succ_apply']
    exact typeStep_same (typeWithin_walks depth) (ih (by omega) (by omega))

end TypeNames

open Formula.Expr

/-- An outcome that does not say that the steps have run out. -/
def Settled {α : Type} : Except CompileError α → Prop
  | .ok _ => True
  | .error error => error.fault ≠ .grammar .tooDeep

/-- A failure by types does not say that steps have run out. -/
theorem settled_of_byTypes {α : Type} {known : Except CompileError α}
    (byTypes : FailsByTypes known) : Settled known := by
  cases known with
  | ok a => trivial
  | error error =>
    intro deep
    simp [FailsByTypes, deep, CompileFault.IsOfTypes] at byTypes

/-- Two readers come to the same from a stream, and not for want of steps. -/
def Alike {α : Type} (read read' : Reader α) (s : Stream) : Prop :=
  read s = read' s ∧ Settled (read s)

section Rules

variable {α β : Type} {scope : Scope} {s m : Stream} {read read' : Reader α}
  {next next' : α → Reader β} {kind : TokenKind} {fault : CompileFault} {span : Span} {a : α}

theorem pure_alike : Alike (pure a) (pure a) s := ⟨rfl, trivial⟩

theorem fail_alike (other : fault ≠ .grammar .tooDeep) :
    Alike (fail fault span : Reader α) (fail fault span) s := ⟨rfl, other⟩

/-- A sequence is alike where its first part is, and what it goes on with from each result of that.
-/
theorem bind_alike (first : Alike read read' s)
    (rest : ∀ a m, Yields read' s a m → Alike (next a) (next' a) m) :
    Alike (read >>= next) (read' >>= next') s := by
  obtain ⟨same, settled⟩ := first
  simp only [Alike, bind, StateT.bind, Except.bind]
  rw [same] at settled ⊢
  cases came : read' s with
  | error error =>
    rw [came] at settled
    exact ⟨rfl, settled⟩
  | ok reply => exact rest reply.1 reply.2 came

theorem ofExcept_then_alike {known : Except CompileError α} (settled : Settled known)
    (rest : ∀ a, Alike (next a) (next' a) s) :
    Alike (ofExcept known >>= next) (ofExcept known >>= next') s := by
  cases known with
  | error error => exact ⟨rfl, settled⟩
  | ok a => exact rest a

theorem ofExcept_alike {known : Except CompileError α} (settled : Settled known) :
    Alike (ofExcept known) (ofExcept known) s := by
  cases known with
  | error error => exact ⟨rfl, settled⟩
  | ok a => exact ⟨rfl, trivial⟩

theorem known_alike {known : Except CompileError α} (byTypes : FailsByTypes known) :
    Alike (ofExcept known) (ofExcept known) s := ofExcept_alike (settled_of_byTypes byTypes)

theorem known_then_alike {known : Except CompileError α} (byTypes : FailsByTypes known)
    (rest : ∀ a, Alike (next a) (next' a) s) :
    Alike (ofExcept known >>= next) (ofExcept known >>= next') s :=
  ofExcept_then_alike (settled_of_byTypes byTypes) rest

section Tokens

variable {next next' : Token → Reader β}

theorem peek_alike : Alike (peek >>= next) (peek >>= next') s ↔
    Alike (next s.peek) (next' s.peek) s := Iff.rfl

theorem advance_alike : Alike (advance >>= next) (advance >>= next') s ↔
    Alike (next s.peek) (next' s.peek) s.next := Iff.rfl

end Tokens

theorem skip_alike {next next' : Unit → Reader β} :
    Alike (discard advance >>= next) (discard advance >>= next') s ↔
      Alike (next ()) (next' ()) s.next := Iff.rfl

theorem kindAt_alike {places : Nat} {next next' : TokenKind → Reader β} :
    Alike (kindAt places >>= next) (kindAt places >>= next') s ↔
      Alike (next (s.kindAt places)) (next' (s.kindAt places)) s := Iff.rfl

theorem check_alike {next next' : Bool → Reader β} :
    Alike (check kind >>= next) (check kind >>= next') s ↔
      Alike (next (s.kind == kind)) (next' (s.kind == kind)) s := Iff.rfl

theorem spanFrom_alike {next next' : Span → Reader β} :
    Alike (spanFrom span >>= next) (spanFrom span >>= next') s ↔
      Alike (next (s.spanFrom span)) (next' (s.spanFrom span)) s := Iff.rfl

theorem fuel_alike {next next' : Nat → Reader β} :
    Alike (fuel >>= next) (fuel >>= next') s ↔
      Alike (next (s.rest.length + 1)) (next' (s.rest.length + 1)) s := Iff.rfl

/-- What comes behind a step that succeeds is alike where the whole is. -/
theorem then_alike (came : Yields read s a m) :
    Alike (read >>= next) (read >>= next') s ↔ Alike (next a) (next' a) m := by
  simp only [Alike, bind, StateT.bind, Except.bind]
  rw [came]

theorem eat_alike {next next' : Bool → Reader β}
    (found : s.kind = kind → Alike (next true) (next' true) s.next)
    (other : s.kind ≠ kind → Alike (next false) (next' false) s) :
    Alike (eat kind >>= next) (eat kind >>= next') s := by
  by_cases same : s.kind = kind
  · have ran : Yields (eat kind) s true s.next := by simp [Yields, eat, Stream.eat?, same]
    exact (then_alike ran).mpr (found same)
  · have ran : Yields (eat kind) s false s := by simp [Yields, eat, Stream.eat?, same]
    exact (then_alike ran).mpr (other same)

theorem expect_alike {next next' : Unit → Reader β}
    (rest : s.kind = kind → Alike (next ()) (next' ()) s.next) :
    Alike (expect kind >>= next) (expect kind >>= next') s := by
  by_cases same : s.kind = kind
  · have ran : Yields (expect kind) s () s.next := by simp [Yields, expect, Stream.eat?, same]
    exact (then_alike ran).mpr (rest same)
  · refine bind_alike ⟨rfl, ?_⟩ fun _ m came => ?_
    · simp [Settled, expect, Stream.eat?, same]
    · simp [Yields, expect, Stream.eat?, same] at came

/-- An attempt that is the same for both leads them on alike, whether it succeeds or not. -/
theorem attempt_alike {read : Attempt α} {next next' : Option α → Reader β}
    (found : ∀ a m, read s = some (a, m) → Alike (next (some a)) (next' (some a)) m)
    (nothing : Alike (next none) (next' none) s) :
    Alike (attempt read >>= next) (attempt read >>= next') s := by
  cases tried : read s with
  | none =>
    have ran : Yields (attempt read) s none s := by simp [Yields, attempt, tried]
    exact (then_alike ran).mpr nothing
  | some reply =>
    have ran : Yields (attempt read) s (some reply.1) reply.2 := by simp [Yields, attempt, tried]
    exact (then_alike ran).mpr (found _ _ tried)

theorem unknownType_alike : Alike (unknownType : Reader α) unknownType s :=
  ⟨rfl, by simp [Settled, unknownType]⟩

/-- Reading a type has its own steps and takes no part in how deep expressions nest. -/
theorem expectType_then_alike {next next' : Ty → Reader β}
    (rest : ∀ ty m, type? scope s = some (ty, m) → Alike (next ty) (next' ty) m) :
    Alike (expectType scope >>= next) (expectType scope >>= next') s := by
  refine bind_alike ?_ fun ty m came => rest ty m (expectType_yields.mp came)
  refine peek_alike.mpr (attempt_alike (fun _ _ _ => pure_alike) ?_)
  simp only
  split
  case isTrue => exact unknownType_alike
  case isFalse => exact fail_alike (by simp)

theorem typeInParens_then_alike {next : Ty → Reader β}
    (rest : ∀ ty m, Alike (next ty) (next ty) m) :
    Alike (typeInParens scope >>= next) (typeInParens scope >>= next) s := by
  simp only [typeInParens, bind_assoc, pure_bind]
  exact expect_alike fun _ => expectType_then_alike fun _ _ _ => expect_alike fun _ => rest _ _

theorem memberName_then_alike {next next' : Token → Reader β}
    (rest : s.kind = .identifier → Alike (next s.peek) (next' s.peek) s.next) :
    Alike (memberName >>= next) (memberName >>= next') s := by
  by_cases name : s.peek.kind = .identifier
  · have ran : Yields memberName s s.peek s.next := by simp [memberName, name]
    exact (then_alike ran).mpr (rest name)
  · refine bind_alike (peek_alike.mpr ?_) fun _ m came => ?_
    · rw [if_neg name]
      exact fail_alike (by simp)
    · simp [memberName, name] at came

/-- Two loops are alike if their rounds are wherever what goes on with the loops is, and if they may take
as many rounds as there are tokens left. -/
theorem loop_alike (round round' : (α → Reader β) → α → Reader β) (loop loop' : Nat → α → Reader β)
    (a : α) {bound fuel : Nat} (unrolls : ∀ fuel, loop (fuel + 1) = round (loop fuel))
    (unrolls' : ∀ fuel, loop' (fuel + 1) = round' (loop' fuel))
    (rounds : ∀ again again' a s, s.Within bound →
      (∀ b t, t.Within s.rest.length → Alike (again b) (again' b) t) →
        Alike (round again a) (round' again' a) s)
    (within : s.Within bound) (enough : s.rest.length ≤ fuel) :
    Alike (loop fuel a) (loop' fuel a) s := by
  induction fuel generalizing s a with
  | zero => exact absurd enough (Nat.not_le.mpr within.live.nonempty)
  | succ fuel ih =>
    rw [unrolls, unrolls']
    refine rounds _ _ _ _ within fun b t ahead => ?_
    have fewer := ahead.short
    exact ih _ (ahead.mono (Nat.le_of_lt within.short)) (by omega)

end Rules

/-- Two readers of subexpressions are alike where fewer tokens are left than a bound, and what the
second one reads is what the grammar has. -/
structure SubAlike (scope : Scope) (bound : Nat) (sub sub' : Sub) : Prop where
  alike : ∀ least inside s, s.Within bound → Alike (sub least inside) (sub' least inside) s
  sound : SubSound scope sub'

section Readers

variable {scope : Scope} {bound : Nat} {sub sub' : Sub} {s m : Stream} {e left : Expr}
  {inside : Option Bracket} {bracket : Bracket} {level least fuel : Nat} {ty : Ty}
  {keyword : Span} {β : Type}

/-- Behind a subexpression no more tokens are left than before it, so the bound still holds. -/
theorem SubAlike.then_alike {next next' : Expr → Reader β} (subs : SubAlike scope bound sub sub')
    (within : s.Within bound) (rest : ∀ e m, m.Within bound → Alike (next e) (next' e) m) :
    Alike (sub least inside >>= next) (sub' least inside >>= next') s :=
  bind_alike (subs.alike _ _ _ within) fun e m came =>
    rest e m (within.onward (subs.sound _ _ _ _ _ came).walked.onward)

theorem itemsFrom_alike (subs : SubAlike scope bound sub sub') (within : s.Within bound)
    (enough : s.rest.length ≤ fuel) :
    Alike (itemsFrom sub bracket fuel) (itemsFrom sub' bracket fuel) s := by
  refine loop_alike (itemsRound sub bracket) (itemsRound sub' bracket)
    (fun fuel _ => itemsFrom sub bracket fuel) (fun fuel _ => itemsFrom sub' bracket fuel) ()
    (fun _ => rfl) (fun _ => rfl) (fun again again' _ s within rest => ?_) within enough
  refine bind_alike (subs.alike _ _ _ within) fun first m came => ?_
  refine eat_alike (fun comma => ?_) fun _ => ?_
  · have onward := (subs.sound _ _ _ _ _ came).walked.onward
    exact bind_alike (rest _ _ (onward.behind within.live (by simp [comma]))) fun _ _ _ => pure_alike
  · exact eat_alike (fun _ => pure_alike) fun _ => peek_alike.mpr (fail_alike (by simp))

/-- The expressions in a bracket begin behind its opening, where fewer tokens are left. -/
theorem arguments_alike (subs : SubAlike scope bound sub sub') (within : s.Within (bound + 1)) :
    Alike (arguments sub bracket) (arguments sub' bracket) s := by
  refine expect_alike fun opens => ?_
  have first := within.next (ne_end_of_opener opens)
  exact eat_alike (fun _ => pure_alike) fun _ =>
    fuel_alike.mpr (itemsFrom_alike subs first (Nat.le_succ _))

theorem arguments_then_alike {next next' : List Expr → Reader β}
    (subs : SubAlike scope bound sub sub') (within : s.Within (bound + 1))
    (rest : ∀ args m, m.Within bound → Alike (next args) (next' args) m) :
    Alike (arguments sub bracket >>= next) (arguments sub' bracket >>= next') s := by
  refine bind_alike (arguments_alike subs within) fun args m came => rest args m ?_
  have ahead := arguments_past within.live (arguments_reads subs.sound came)
  exact ahead.mono (Nat.le_of_lt_succ within.short)

theorem memberAccess_alike (subs : SubAlike scope bound sub sub') (within : s.Within (bound + 1))
    (dot : s.kind = .dot) :
    Alike (memberAccess scope sub left) (memberAccess scope sub' left) s := by
  have first := within.next (by simp [dot])
  refine skip_alike.mpr <| memberName_then_alike fun name => check_alike.mpr ?_
  have second := first.same (by simp [name])
  split
  case isTrue =>
    exact arguments_then_alike subs (second.mono (Nat.le_succ _)) fun args m _ =>
      spanFrom_alike.mpr (known_alike callOn_byTypes)
  case isFalse => exact spanFrom_alike.mpr (known_alike memberOf_byTypes)

theorem indexAccess_alike (subs : SubAlike scope bound sub sub') (within : s.Within (bound + 1)) :
    Alike (indexAccess scope sub left) (indexAccess scope sub' left) s :=
  peek_alike.mpr <| arguments_then_alike subs within fun _ _ _ =>
    spanFrom_alike.mpr (known_alike indexInto_byTypes)

theorem branches_alike (subs : SubAlike scope bound sub sub') (within : s.Within (bound + 1))
    (asks : s.kind = .question) :
    Alike (branches scope sub left inside) (branches scope sub' left inside) s := by
  have first := within.next (by simp [asks])
  refine skip_alike.mpr <| known_then_alike checkCondition_byTypes fun _ => ?_
  refine subs.then_alike first fun yes m middle => expect_alike fun colon => ?_
  refine subs.then_alike (middle.same (by simp [colon])) fun no n _ => ?_
  exact known_alike choose_byTypes

theorem coalesceRest_alike (subs : SubAlike scope bound sub sub') (within : s.Within (bound + 1))
    (asks : s.kind = .questionQuestion) :
    Alike (coalesceRest scope sub left level inside) (coalesceRest scope sub' left level inside) s :=
  advance_alike.mpr <| subs.then_alike (within.next (by simp [asks])) fun _ _ _ =>
    known_alike coalesceWith_byTypes

theorem testRest_alike {op : TypeTest} : Alike (testRest scope op left) (testRest scope op left) s :=
  advance_alike.mpr <| expectType_then_alike fun _ _ _ =>
    spanFrom_alike.mpr (known_alike testType_byTypes)

/-- Whatever stands behind an operand reads its subexpressions behind a token of its own. -/
theorem afterOperand_alike (subs : SubAlike scope bound sub sub') (within : s.Within (bound + 1)) :
    Alike (afterOperand scope sub left s.peek level inside)
      (afterOperand scope sub' left s.peek level inside) s := by
  unfold afterOperand
  split
  case h_1 kind => exact memberAccess_alike subs within kind
  case h_2 => exact indexAccess_alike subs within
  case h_3 => exact fail_alike (by simp)
  case h_4 kind => exact branches_alike subs within kind
  case h_5 kind => exact coalesceRest_alike subs within kind
  case h_6 | h_7 => exact testRest_alike
  case h_8 =>
    split
    case h_1 => exact fail_alike (by simp)
    case h_2 op sign =>
      have first := within.next (ne_end_of_operator sign)
      exact skip_alike.mpr <| subs.then_alike first fun _ _ _ => known_alike applyOperator_byTypes

/-- A bracket that is closed by the wrong token is reported as that, not as too deep. -/
theorem endsBefore_settled {token : Token} : Settled (endsBefore token inside) := by
  unfold endsBefore
  split
  case isTrue =>
    cases inside with
    | none => trivial
    | some bracket => simp [Settled]
  case isFalse =>
    split
    case isTrue =>
      cases inside with
      | none => simp [Settled]
      | some bracket =>
        simp only
        split
        case isTrue => trivial
        case isFalse => simp [Settled]
    case isFalse =>
      split
      case h_1 =>
        split
        case isTrue => simp [Settled]
        case isFalse => trivial
      case h_2 | h_3 | h_4 => trivial

/-- The operators behind an operand are read alike: every round consumes a token, so their number is
no concern either. -/
theorem climb_alike (subs : SubAlike scope bound sub sub') (within : s.Within (bound + 1))
    (enough : s.rest.length ≤ fuel) :
    Alike (climb scope sub least inside fuel left) (climb scope sub' least inside fuel left) s := by
  refine loop_alike (climbRound scope sub least inside) (climbRound scope sub' least inside) _ _ left
    (fun _ => rfl) (fun _ => rfl) (fun again again' left s within rest => ?_) within enough
  refine peek_alike.mpr <| ofExcept_then_alike endsBefore_settled fun ended => ?_
  split
  case isTrue => exact pure_alike
  case isFalse =>
    split
    case h_1 => exact pure_alike
    case h_2 level _ =>
      split
      case isTrue => exact pure_alike
      case isFalse =>
        refine bind_alike (afterOperand_alike subs within) fun folded m came => rest _ _ ?_
        exact operator_past within.live (afterOperand_reads subs.sound came)

theorem signed_alike (subs : SubAlike scope bound sub sub') (within : s.Within (bound + 1))
    (sign : isSign s.kind) : Alike (signed sub inside) (signed sub' inside) s :=
  advance_alike.mpr <| subs.then_alike (within.next (ne_end_of_sign sign)) fun _ _ _ =>
    known_alike applySign_byTypes

/-- Behind an opening parenthesis a cast and a group alike read their operand one token further on.
-/
theorem group_alike (subs : SubAlike scope bound sub sub') (within : s.Within (bound + 1))
    (opens : s.kind = .leftParen) : Alike (group scope sub inside) (group scope sub' inside) s := by
  have first := within.next (by simp [opens])
  refine advance_alike.mpr <| attempt_alike (fun ty m target => ?cast) ?inner
  case cast =>
    exact subs.then_alike (first.onward (castTarget_onward target)) fun _ _ _ =>
      known_alike castWritten_byTypes
  case inner => exact subs.then_alike first fun _ _ _ => expect_alike fun _ => pure_alike

theorem assignmentsFrom_alike (subs : SubAlike scope bound sub sub') (within : s.Within bound)
    (enough : s.rest.length ≤ fuel) :
    Alike (assignmentsFrom scope sub ty fuel) (assignmentsFrom scope sub' ty fuel) s := by
  refine loop_alike (assignmentsRound scope sub ty) (assignmentsRound scope sub' ty)
    (fun fuel _ => assignmentsFrom scope sub ty fuel)
    (fun fuel _ => assignmentsFrom scope sub' ty fuel) ()
    (fun _ => rfl) (fun _ => rfl) (fun again again' _ s within rest => ?_) within enough
  refine peek_alike.mpr ?_
  split
  case isTrue => exact fail_alike (by simp)
  case isFalse other =>
    have name : s.kind = .identifier := not_not.mp other
    refine skip_alike.mpr <| expect_alike fun equal => ?_
    refine known_then_alike assignable_byTypes fun ref => ?_
    have named := onward_next (s := s) (by simp [name])
    have assigned := named.trans (onward_next (by simp [equal]))
    refine bind_alike (subs.alike _ _ _ (within.onward assigned)) fun value m came => ?_
    have valued := assigned.trans (subs.sound _ _ _ _ _ came).walked.onward
    refine known_then_alike convertImplicit_byTypes fun converted => ?_
    refine eat_alike (fun comma => ?_) fun _ => expect_alike fun _ => pure_alike
    refine eat_alike (fun _ => pure_alike) fun _ => ?_
    exact bind_alike (rest _ _ (valued.behind within.live (by simp [comma]))) fun _ _ _ => pure_alike

/-- Braces of either form read their values behind the opening one. -/
theorem initializer_alike (subs : SubAlike scope bound sub sub') (within : s.Within (bound + 1))
    (opens : s.kind = .leftBrace) : Alike (initializer scope sub ty) (initializer scope sub' ty) s := by
  refine kindAt_alike.mpr <| kindAt_alike.mpr ?_
  split
  case isTrue =>
    have first := within.next (by simp [opens])
    exact skip_alike.mpr <| fuel_alike.mpr <|
      bind_alike (assignmentsFrom_alike subs first (Nat.le_succ _)) fun _ _ _ => pure_alike
  case isFalse =>
    exact arguments_then_alike subs within fun _ _ _ =>
      known_then_alike addsFor_byTypes fun _ => pure_alike

theorem arrayItems_alike {element : Ty} (subs : SubAlike scope bound sub sub')
    (within : s.Within (bound + 1)) :
    Alike (arrayItems scope sub keyword ty element) (arrayItems scope sub' keyword ty element) s := by
  refine peek_alike.mpr ?_
  split
  case isTrue =>
    exact arguments_then_alike subs within fun _ _ _ =>
      known_then_alike convertAll_byTypes fun _ => spanFrom_alike.mpr pure_alike
  case isFalse => exact fail_alike (by simp)

theorem arrayLength_alike {element : Ty} (subs : SubAlike scope bound sub sub')
    (within : s.Within (bound + 1)) :
    Alike (arrayLength sub keyword element) (arrayLength sub' keyword element) s :=
  peek_alike.mpr <| arguments_then_alike subs within fun _ _ _ =>
    known_then_alike single_byTypes fun _ => known_then_alike checkIntegral_byTypes fun _ =>
      spanFrom_alike.mpr pure_alike

private theorem constructed_alike {args : List Expr} (subs : SubAlike scope bound sub sub')
    (within : s.Within (bound + 1)) :
    Alike (do
      let constructor ← ofExcept (Expr.constructorFor scope.world ty args keyword)
      let (init, values) ←
        if ← check .leftBrace then initializer scope sub ty else pure (.none, [])
      return Expr.create ⟨ty, ← spanFrom keyword⟩ constructor args init values)
    (do
      let constructor ← ofExcept (Expr.constructorFor scope.world ty args keyword)
      let (init, values) ←
        if ← check .leftBrace then initializer scope sub' ty else pure (.none, [])
      return Expr.create ⟨ty, ← spanFrom keyword⟩ constructor args init values) s := by
  refine known_then_alike found_byTypes fun ref => check_alike.mpr ?_
  split
  case isTrue brace =>
    exact bind_alike (initializer_alike subs within (by simpa using brace)) fun _ _ _ =>
      spanFrom_alike.mpr pure_alike
  case isFalse =>
    simp only [pure_bind]
    exact spanFrom_alike.mpr pure_alike

theorem newObject_alike (subs : SubAlike scope bound sub sub') (within : s.Within (bound + 1)) :
    Alike (newObject scope sub keyword ty) (newObject scope sub' keyword ty) s := by
  refine peek_alike.mpr ?_
  split
  case isTrue => exact fail_alike (by simp)
  case isFalse =>
    split
    case isTrue =>
      exact arguments_then_alike subs within fun _ _ behind =>
        constructed_alike subs (behind.mono (Nat.le_succ _))
    case isFalse => exact constructed_alike subs within

/-- A creation reads its arguments, its length or its items behind the keyword and the type. -/
theorem creation_alike (subs : SubAlike scope bound sub sub') (within : s.Within (bound + 1))
    (new : s.kind = .new) : Alike (creation scope sub) (creation scope sub') s := by
  refine advance_alike.mpr <| expectType_then_alike fun ty m named => ?_
  have behind := (within.same (by simp [new])).onward (type_onward named)
  split
  case h_1 => exact arrayItems_alike subs behind
  case h_2 =>
    refine check_alike.mpr ?_
    split
    case isTrue => exact arrayLength_alike subs behind
    case isFalse => exact newObject_alike subs behind

theorem typeValue_alike : Alike (typeValue scope) (typeValue scope) s :=
  advance_alike.mpr <| typeInParens_then_alike fun _ _ => spanFrom_alike.mpr pure_alike

theorem typeSize_alike : Alike (typeSize scope) (typeSize scope) s :=
  advance_alike.mpr <| typeInParens_then_alike fun _ _ =>
    spanFrom_alike.mpr (known_alike measure_byTypes)

theorem staticAccess_alike (subs : SubAlike scope bound sub sub') (within : s.Within (bound + 1)) :
    Alike (staticAccess scope sub) (staticAccess scope sub') s := by
  refine peek_alike.mpr <| attempt_alike (fun ty m named => ?path) unknownType_alike
  have path := within.onward (typePath_walks.onward named)
  refine eat_alike (fun dot => ?_) fun _ => peek_alike.mpr (fail_alike (by simp))
  refine memberName_then_alike fun name => check_alike.mpr ?_
  split
  case isTrue =>
    have behind := (path.same (by simp [dot])).same (by simp [name])
    exact arguments_then_alike subs behind fun _ _ _ =>
      spanFrom_alike.mpr (known_alike callStatic_byTypes)
  case isFalse => exact spanFrom_alike.mpr (known_alike memberStatic_byTypes)

theorem defaultAccess_alike (subs : SubAlike scope bound sub sub') (within : s.Within (bound + 1))
    (name : s.kind = .identifier) :
    Alike (defaultAccess scope sub e s.peek) (defaultAccess scope sub' e s.peek) s := by
  refine kindAt_alike.mpr ?_
  split
  case isTrue =>
    exact skip_alike.mpr <| arguments_then_alike subs (within.same (by simp [name])) fun _ _ _ =>
      spanFrom_alike.mpr <| known_then_alike callDefault_byTypes fun _ => pure_alike
  case isFalse =>
    split
    case h_1 => exact pure_alike
    case h_2 => exact skip_alike.mpr pure_alike

theorem named_alike (subs : SubAlike scope bound sub sub') (within : s.Within (bound + 1))
    (name : s.kind = .identifier) : Alike (named scope sub) (named scope sub') s := by
  refine peek_alike.mpr ?_
  split
  case h_1 => exact skip_alike.mpr pure_alike
  case h_2 =>
    split
    case h_1 => exact staticAccess_alike subs within
    case h_2 =>
      refine bind_alike (defaultAccess_alike subs within name) fun answer m came => ?_
      cases answer with
      | some node => exact pure_alike
      | none =>
        obtain rfl := defaultAccess_none came
        exact staticAccess_alike subs within

/-- Whatever an operand begins with, it reads its subexpressions behind that. -/
theorem operand_alike (subs : SubAlike scope bound sub sub') (within : s.Within (bound + 1)) :
    Alike (operand scope sub inside) (operand scope sub' inside) s := by
  have literal {value : Value} {ty : Ty} : Alike (literal value ty) (literal value ty) s :=
    advance_alike.mpr pure_alike
  refine peek_alike.mpr ?_
  split
  case h_1 =>
    split
    case h_1 => exact literal
    case h_2 => exact fail_alike (by simp)
  case h_3 =>
    split
    case h_1 => exact literal
    case h_2 => exact fail_alike (by simp)
  case h_2 | h_4 | h_5 | h_6 => exact literal
  case h_7 kind => exact group_alike subs within kind
  case h_8 kind | h_9 kind | h_10 kind | h_11 kind =>
    exact signed_alike subs within (by rw [Stream.kind, kind]; rfl)
  case h_12 kind => exact creation_alike subs within kind
  case h_13 => exact typeValue_alike
  case h_14 => exact typeSize_alike
  case h_15 kind => exact named_alike subs within kind
  case h_16 =>
    refine ⟨rfl, ?_⟩
    show (noExpression s.peek inside).fault ≠ _
    unfold noExpression
    simp only
    split
    case isTrue => split <;> simp
    case isFalse =>
      split
      case isTrue => split <;> simp
      case isFalse => simp

end Readers

/-- What reading an expression does, given what reads the expressions inside it. -/
def expressionStep (scope : Scope) (sub : Sub) : Sub := fun least inside => do
  let first ← operand scope sub inside
  climb scope sub least inside (← fuel) first

section Expressions

variable {scope : Scope} {bound : Nat}

/-- One level of nesting: if subexpressions are read alike under a bound, expressions are under the
next. -/
theorem expressionStep_alike {sub sub' : Sub} {s : Stream} {least : Nat} {inside : Option Bracket}
    (subs : SubAlike scope bound sub sub') (within : s.Within (bound + 1)) :
    Alike (expressionStep scope sub least inside) (expressionStep scope sub' least inside) s := by
  refine bind_alike (operand_alike subs within) fun first m came => fuel_alike.mpr ?_
  have ahead := operand_past within.live (operand_reads subs.sound came)
  exact climb_alike subs (ahead.mono (Nat.le_of_lt within.short)) (Nat.le_succ _)

/-- Expressions are read alike however deep they may nest, if as deep as there are tokens, and whatever
is done where they may not. -/
theorem expressionWithin_unrolls (base : Sub) {n depth : Nat} (reaches : bound ≤ n)
    (deep : bound ≤ depth) :
    SubAlike scope (bound + 1) ((expressionStep scope)^[n] base) (expressionWithin scope depth) := by
  refine ⟨?_, expressionWithin_reads depth⟩
  induction bound generalizing n depth with
  | zero => exact fun least inside s within => absurd within.one_lt (Nat.lt_irrefl 1)
  | succ bound ih =>
    intro least inside s within
    obtain ⟨n, rfl⟩ : ∃ k, n = k + 1 := ⟨n - 1, by omega⟩
    obtain ⟨depth, rfl⟩ : ∃ k, depth = k + 1 := ⟨depth - 1, by omega⟩
    rw [Function.iterate_succ_apply']
    exact expressionStep_alike
      ⟨ih (by omega) (by omega), expressionWithin_reads depth⟩ within

end Expressions

end Formula.Reader
