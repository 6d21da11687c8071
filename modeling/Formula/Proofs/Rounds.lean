import Formula.Proofs.Onward

/-! The loops of reading, round by round. A round is given what goes on with the loop: it comes to an
answer, or it hands the loop on where fewer tokens are left. So every loop comes to its answer in at
most as many rounds as there are tokens left, and no bound on the rounds that is not below that number
is ever reached. -/
namespace Formula

section Loops

variable {α β : Type} {s t : Stream}

/-- What one round of a loop does, given what goes on with the loop: it ends it, or goes on where fewer
tokens are left and puts what it has gathered to what comes of that. -/
inductive Round (s : Stream) (step : (α → Stream → β) → β) : Prop where
  | ends (answer : β) (same : ∀ again, step again = answer)
  | goesOn (b : α) (t : Stream) (gather : β → β) (ahead : t.Within s.rest.length)
      (same : ∀ again, step again = gather (again b t))

/-- The rounds of a loop up to its answer, each of them further ahead than the one before. Nothing that
would be answered anywhere else has a part in it. -/
inductive Runs (round : (α → Stream → β) → α → Stream → β) : α → Stream → β → Prop where
  | ends {a : α} {s : Stream} {answer : β} (same : ∀ again, round again a s = answer) :
      Runs round a s answer
  | goesOn {a b : α} {s t : Stream} {answer : β} (gather : β → β) (ahead : t.Beyond s)
      (same : ∀ again, round again a s = gather (again b t)) (rest : Runs round b t answer) :
      Runs round a s (gather answer)

/-- A loop that unrolls into such rounds runs to its answer, if it may take as many rounds as there are
tokens left. -/
theorem runs_of_rounds {round : (α → Stream → β) → α → Stream → β} (loop : Nat → α → Stream → β)
    (unrolls : ∀ fuel, loop (fuel + 1) = round (loop fuel))
    (rounds : ∀ a s, s.Terminated → Round s fun again => round again a s) {fuel : Nat} {a : α}
    (live : s.Terminated) (enough : s.rest.length ≤ fuel) : Runs round a s (loop fuel a s) := by
  induction fuel generalizing a s with
  | zero => exact absurd enough (Nat.not_le.mpr live.nonempty)
  | succ fuel ih =>
    rw [unrolls]
    cases rounds a s live with
    | ends answer same => exact .ends fun again => (same again).trans (same (loop fuel)).symm
    | goesOn b t gather ahead same =>
      have fewer := ahead.short
      rw [same]
      exact .goesOn gather (.inl fewer) same (ih ahead.live (by omega))

end Loops

namespace Reader

open Formula.Stream

section TypeNames

variable {scope : Scope} {readTy : Attempt Ty} {s : Stream} {fuel : Nat}

/-- One round of the arguments of a type: an argument, and whether another one follows. -/
def argsRound (readTy : Attempt Ty) (again : Unit → Attempt (List Ty)) : Unit → Attempt (List Ty) :=
  fun _ stream =>
    (readTy stream).bind fun (first, after) =>
      match after.eat? .comma with
      | some next => (again () next).map fun (others, last) => (first :: others, last)
      | none =>
        ((after.eat? .greater).or after.splitShift?).map fun last => ([first], last)

theorem args_round (walks : Walks readTy) (live : s.Terminated) :
    Round s fun again => argsRound readTy again () s := by
  cases came : readTy s with
  | none => exact .ends none fun again => by simp [argsRound, came]
  | some reply =>
    obtain ⟨first, m⟩ := reply
    cases ate : m.eat? .comma with
    | none => exact .ends _ fun again => by simp only [argsRound, came, ate, Option.bind_some]; rfl
    | some next =>
      obtain ⟨comma, rfl⟩ := eat_eq.mp ate
      have ahead := (walks.onward came).behind live (by simp [comma])
      exact .goesOn () m.next (Option.map fun reply => (first :: reply.1, reply.2)) ahead
        fun again => by simp only [argsRound, came, ate, Option.bind_some]

/-- The arguments of a type take no more rounds than there are tokens. -/
theorem args_runs (walks : Walks readTy) (live : s.Terminated) (enough : s.rest.length ≤ fuel) :
    Runs (argsRound readTy) () s (argsFrom readTy fuel s) :=
  runs_of_rounds (fun fuel _ => argsFrom readTy fuel) (fun _ => rfl)
    (fun _ _ live => args_round walks live) live enough

/-- What a round of a dotted path does where no type arguments follow: the name so far names a type, or
another part may follow. -/
def nameRound (scope : Scope) (again : String → Attempt Ty) : String → Attempt Ty := fun name stream =>
  match scope.resolveName name with
  | some ty => some (ty, stream)
  | none =>
    if stream.kind = .dot ∧ stream.kindAt 1 = .identifier then
      again (name ++ "." ++ stream.next.peek.lexeme) stream.next.next
    else none

/-- One round of a dotted path: a generic type, or else what the name alone comes to. -/
def pathRound (scope : Scope) (readTy : Attempt Ty) (again : String → Attempt Ty) :
    String → Attempt Ty := fun name stream =>
  match generic? scope readTy name stream with
  | some found => some found
  | none => nameRound scope again name stream

/-- Behind a dot and a name two tokens less are left. -/
theorem part_past (live : s.Terminated) (dotted : s.kind = .dot ∧ s.kindAt 1 = .identifier) :
    s.next.next.Within s.rest.length := by
  rw [kindAt_one] at dotted
  exact (onward_next (by simp [dotted.2])).past live (by simp [dotted.1])

/-- A round of a path goes on with the name made longer by what stands behind the dot. -/
theorem path_round (name : String) (live : s.Terminated) :
    Round s fun again => pathRound scope readTy again name s := by
  unfold pathRound
  cases generic? scope readTy name s with
  | some found => exact .ends _ fun _ => rfl
  | none =>
    unfold nameRound
    cases scope.resolveName name with
    | some ty => exact .ends _ fun _ => rfl
    | none =>
      by_cases dotted : s.kind = .dot ∧ s.kindAt 1 = .identifier
      · exact .goesOn _ _ id (part_past live dotted) fun _ => if_pos dotted
      · exact .ends none fun _ => if_neg dotted

theorem path_runs {name : String} (live : s.Terminated) (enough : s.rest.length ≤ fuel) :
    Runs (pathRound scope readTy) name s (pathFrom scope readTy fuel name s) :=
  runs_of_rounds _ (fun _ => rfl) (fun _ _ live => path_round _ live) live enough

/-- One round of the brackets of arrays: a pair of them, if one follows. -/
def arraysRound (again : Ty → Stream → Ty × Stream) : Ty → Stream → Ty × Stream := fun ty stream =>
  if stream.kind = .leftBracket ∧ stream.kindAt 1 = .rightBracket then
    again (.array ty) stream.next.next
  else (ty, stream)

theorem arrays_round (ty : Ty) (live : s.Terminated) :
    Round s fun again => arraysRound again ty s := by
  by_cases pair : s.kind = .leftBracket ∧ s.kindAt 1 = .rightBracket
  · have closes := pair.2
    rw [kindAt_one] at closes
    have ahead := (onward_next (by simp [closes])).past live (by simp [pair.1])
    exact .goesOn _ _ id ahead fun _ => if_pos pair
  · exact .ends _ fun _ => if_neg pair

theorem arrays_runs {ty : Ty} (live : s.Terminated) (enough : s.rest.length ≤ fuel) :
    Runs arraysRound ty s (withArrays fuel ty s) :=
  runs_of_rounds _ (fun _ => rfl) (fun _ _ live => arrays_round _ live) live enough

/-- One round of a dotted name that names nothing: another part, if one follows. -/
def dottedRound (again : String → Stream → String × Stream) : String → Stream → String × Stream :=
  fun name stream =>
    if stream.kind = .dot ∧ stream.kindAt 1 = .identifier then
      again (name ++ "." ++ stream.next.peek.lexeme) stream.next.next
    else (name, stream)

theorem dotted_round (name : String) (live : s.Terminated) :
    Round s fun again => dottedRound again name s := by
  by_cases dotted : s.kind = .dot ∧ s.kindAt 1 = .identifier
  · exact .goesOn _ _ id (part_past live dotted) fun _ => if_pos dotted
  · exact .ends _ fun _ => if_neg dotted

theorem dotted_runs {name : String} (live : s.Terminated) (enough : s.rest.length ≤ fuel) :
    Runs dottedRound name s (dottedFrom fuel name s) :=
  runs_of_rounds _ (fun _ => rfl) (fun _ _ live => dotted_round _ live) live enough

end TypeNames

section Headers

variable {scope : Scope} {s : Stream} {fuel : Nat}

/-- What stands in front of the name of a parameter: nothing, or its type. -/
def front? (scope : Scope) (stream : Stream) : Option (Option Ty × Stream) :=
  if stream.kind = .identifier ∧ (stream.next.kind = .comma ∨ stream.next.kind = .rightParen) then
    some (none, stream)
  else (type? scope stream).map fun reply => (some reply.1, reply.2)

/-- One round of the parameters of a header: a parameter, and whether another one follows. -/
def headerRound (scope : Scope) (again : Unit → Attempt (List HeaderParam)) :
    Unit → Attempt (List HeaderParam) := fun _ stream =>
  (front? scope stream).bind fun reply =>
    if reply.2.kind = .identifier then
      let param : HeaderParam :=
        ⟨reply.2.peek.lexeme, reply.1, stream.peek.span.join reply.2.peek.span⟩
      match reply.2.next.eat? .comma with
      | some after => (again () after).map fun others => (param :: others.1, others.2)
      | none => (reply.2.next.eat? .rightParen).map fun after => ([param], after)
    else none

theorem front_onward {ty : Option Ty} {m : Stream} (front : front? scope s = some (ty, m)) :
    s.Onward m := by
  unfold front? at front
  split at front
  case isTrue =>
    cases front
    exact .refl
  case isFalse =>
    obtain ⟨reply, named, same⟩ := Option.map_eq_some_iff.mp front
    cases same
    exact type_onward named

/-- A round of a header reads a parameter and goes on behind its comma. -/
theorem header_round (live : s.Terminated) : Round s fun again => headerRound scope again () s := by
  unfold headerRound
  cases came : front? scope s with
  | none => exact .ends none fun _ => rfl
  | some reply =>
    obtain ⟨ty, m⟩ := reply
    simp only [Option.bind_some]
    by_cases name : m.kind = .identifier
    · simp only [name, ↓reduceIte]
      cases ate : m.next.eat? .comma with
      | none => exact .ends _ fun _ => rfl
      | some after =>
        obtain ⟨comma, rfl⟩ := eat_eq.mp ate
        have named := (front_onward came).behind live (by simp [name])
        let param : HeaderParam := ⟨m.peek.lexeme, ty, s.peek.span.join m.peek.span⟩
        exact .goesOn () m.next.next (Option.map fun others => (param :: others.1, others.2))
          (named.same (by simp [comma])) fun _ => rfl
    · exact .ends none fun _ => if_neg name

theorem header_runs (live : s.Terminated) (enough : s.rest.length ≤ fuel) :
    Runs (headerRound scope) () s (headerFrom scope fuel s) :=
  runs_of_rounds (fun fuel _ => headerFrom scope fuel)
    (fun _ => funext fun _ => funext fun _ => headerFrom_succ)
    (fun _ _ live => header_round live) live enough

end Headers

section Expressions

variable {α γ : Type} {scope : Scope} {sub : Sub} {s m : Stream} {bracket : Bracket} {ty : Ty}
  {least fuel : Nat} {inside : Option Bracket} {kind : TokenKind}

/-- What a round reads first either fails, and the round with it, or else the round goes on from
there. -/
theorem Round.after {δ : Type} {read : Reader δ} {next : (α → Reader γ) → δ → Reader γ}
    (rest : ∀ d n, Yields read m d n → Round s fun again => next again d n) :
    Round s fun again => (read >>= next again) m := by
  cases came : read m with
  | error error =>
    exact .ends (.error error) fun again => by simp [bind, StateT.bind, came, Except.bind]
  | ok reply =>
    have same (again : α → Reader γ) : (read >>= next again) m = next again reply.1 reply.2 := by
      simp [bind, StateT.bind, came, Except.bind]
    simpa only [same] using rest _ _ came

theorem Round.peek {next : (α → Reader γ) → Token → Reader γ}
    (rest : Round s fun again => next again m.peek m) :
    Round s fun again => (Reader.peek >>= next again) m := rest

theorem Round.skip {next : (α → Reader γ) → Unit → Reader γ}
    (rest : Round s fun again => next again () m.next) :
    Round s fun again => (discard advance >>= next again) m := rest

theorem Round.known {δ : Type} {known : Except CompileError δ} {next : (α → Reader γ) → δ → Reader γ}
    (rest : ∀ d, Round s fun again => next again d m) :
    Round s fun again => (ofExcept known >>= next again) m := by
  refine Round.after fun d n came => ?_
  obtain ⟨-, rfl⟩ := ofExcept_yields.mp came
  exact rest d

theorem Round.expect {next : (α → Reader γ) → Unit → Reader γ}
    (rest : m.kind = kind → Round s fun again => next again () m.next) :
    Round s fun again => (Reader.expect kind >>= next again) m := by
  refine Round.after fun _ n came => ?_
  by_cases same : m.kind = kind
  · have ran : Reader.expect kind m = .ok ((), m.next) := by
      simp [Reader.expect, Stream.eat?, same]
    cases ran.symm.trans came
    exact rest same
  · simp [Yields, Reader.expect, Stream.eat?, same] at came

theorem Round.eat {next : (α → Reader γ) → Bool → Reader γ}
    (found : m.kind = kind → Round s fun again => next again true m.next)
    (other : m.kind ≠ kind → Round s fun again => next again false m) :
    Round s fun again => (Reader.eat kind >>= next again) m := by
  by_cases same : m.kind = kind
  · refine Round.after fun eaten n came => ?_
    have ran : Reader.eat kind m = .ok (true, m.next) := by simp [Reader.eat, Stream.eat?, same]
    cases ran.symm.trans came
    exact found same
  · refine Round.after fun eaten n came => ?_
    have ran : Reader.eat kind m = .ok (false, m) := by simp [Reader.eat, Stream.eat?, same]
    cases ran.symm.trans came
    exact other same

/-- A round that hands the loop on where fewer tokens are left, and then puts something to what comes
of it. -/
theorem Round.again {b : α} {rest : γ → Reader γ} (ahead : m.Within s.rest.length) :
    Round s fun again : α → Reader γ => (again b >>= rest) m :=
  .goesOn b m (fun outcome => outcome >>= fun reply => rest reply.1 reply.2) ahead fun _ => rfl

/-- One round of the expressions in a bracket. -/
def itemsRound (sub : Sub) (bracket : Bracket) (again : Unit → Reader (List Expr)) :
    Unit → Reader (List Expr) := fun _ => do
  let first ← sub 0 (some bracket)
  if ← eat .comma then
    let others ← again ()
    return first :: others
  else if ← eat bracket.closer then return [first]
  else
    let found ← peek
    fail (.grammar (.expectedSeparator bracket.closer.text found.description)) found.span

/-- A round of the expressions in a bracket goes on behind the comma, and a comma is a token. -/
theorem items_round (sound : SubSound scope sub) (live : s.Terminated) :
    Round s fun again => itemsRound sub bracket again () s := by
  refine Round.after fun first m came => Round.eat (fun comma => ?_) fun _ => .ends _ fun _ => rfl
  exact Round.again ((sound _ _ _ _ _ came).walked.onward.behind live (by simp [comma]))

theorem items_runs (sound : SubSound scope sub) (live : s.Terminated)
    (enough : s.rest.length ≤ fuel) :
    Runs (itemsRound sub bracket) () s (itemsFrom sub bracket fuel s) :=
  runs_of_rounds (fun fuel _ => itemsFrom sub bracket fuel) (fun _ => rfl)
    (fun _ _ live => items_round sound live) live enough

/-- One round of the operators behind an operand. -/
def climbRound (scope : Scope) (sub : Sub) (least : Nat) (inside : Option Bracket)
    (again : Expr → Reader Expr) : Expr → Reader Expr := fun left => do
  let sign ← peek
  if ← ofExcept (endsBefore sign inside) then return left
  else match Precedence.afterOperand? sign.kind with
    | none => return left
    | some level =>
      if level ≤ least then return left
      else
        let folded ← afterOperand scope sub left sign level inside
        again folded

/-- A round of the operators goes on behind what belongs to one of them, which is at least its token.
-/
theorem climb_round (sound : SubSound scope sub) (left : Expr) (live : s.Terminated) :
    Round s fun again => climbRound scope sub least inside again left s := by
  refine Round.peek <| Round.known fun ended => ?_
  cases ended with
  | true => exact .ends _ fun _ => rfl
  | false =>
    simp only [Bool.false_eq_true, ↓reduceIte]
    cases Precedence.afterOperand? s.peek.kind with
    | none => exact .ends _ fun _ => rfl
    | some level =>
      by_cases loose : level ≤ least
      · simp only [loose, ↓reduceIte]
        exact .ends _ fun _ => rfl
      · simp only [loose, ↓reduceIte]
        refine Round.after fun folded m came => ?_
        exact .goesOn folded m id (operator_past live (afterOperand_reads sound came)) fun _ => rfl

/-- Operators behind an operand take no more rounds than there are tokens. -/
theorem climb_runs {left : Expr} (sound : SubSound scope sub) (live : s.Terminated)
    (enough : s.rest.length ≤ fuel) :
    Runs (climbRound scope sub least inside) left s (climb scope sub least inside fuel left s) :=
  runs_of_rounds _ (fun _ => rfl) (fun left _ live => climb_round sound left live) live enough

/-- One round of the assignments in braces. -/
def assignmentsRound (scope : Scope) (sub : Sub) (ty : Ty)
    (again : Unit → Reader (List (MemberRef × Expr))) :
    Unit → Reader (List (MemberRef × Expr)) := fun _ => do
  let name ← peek
  if name.kind ≠ .identifier then fail (.grammar (.expectedMember name.description)) name.span
  else
    discard advance
    expect .equal
    let ref ← ofExcept (Expr.assignable scope.world ty name)
    let value ← sub 0 (some .brace)
    let value ← ofExcept (Expr.convertImplicit scope.world value ref.ty)
    if ← eat .comma then
      if ← eat .rightBrace then return [(ref, value)]
      else
        let others ← again ()
        return (ref, value) :: others
    else
      expect .rightBrace
      return [(ref, value)]

theorem assignments_round (sound : SubSound scope sub) (live : s.Terminated) :
    Round s fun again => assignmentsRound scope sub ty again () s := by
  refine Round.peek ?_
  by_cases name : s.peek.kind = .identifier
  · simp only [ne_eq, name, not_true_eq_false, ↓reduceIte]
    refine Round.skip <| Round.expect fun equal => Round.known fun ref => ?_
    refine Round.after fun value m came => Round.known fun converted => ?_
    have named := onward_next (s := s) (by simp [Stream.kind, name])
    have assigned := named.trans (onward_next (by simp [equal]))
    have valued := assigned.trans (sound _ _ _ _ _ came).walked.onward
    refine Round.eat (fun comma => ?_) fun _ => .ends _ fun _ => rfl
    refine Round.eat (fun _ => .ends _ fun _ => rfl) fun _ => ?_
    exact Round.again (valued.behind live (by simp [comma]))
  · simp only [ne_eq, name, not_false_eq_true, ↓reduceIte]
    exact .ends _ fun _ => rfl

theorem assignments_runs (sound : SubSound scope sub) (live : s.Terminated)
    (enough : s.rest.length ≤ fuel) :
    Runs (assignmentsRound scope sub ty) () s (assignmentsFrom scope sub ty fuel s) :=
  runs_of_rounds (fun fuel _ => assignmentsFrom scope sub ty fuel) (fun _ => rfl)
    (fun _ _ live => assignments_round sound live) live enough

end Expressions

end Reader
end Formula
