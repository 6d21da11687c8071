import Formula.Reader.Expression

/-! When a reader succeeds. For every primitive of the reader there is one equation that says when a
computation beginning with it succeeds, so that a successful run opens step by step, and steps that
succeed make up a successful run. -/
namespace Formula.Reader

variable {α β : Type} {s t : Stream} {result : β}

/-- A reader comes out with a result and the stream that is left. -/
abbrev Yields (read : Reader α) (stream : Stream) (result : α) (after : Stream) : Prop :=
  read stream = .ok (result, after)

@[simp] theorem pure_yields {given : β} :
    Yields (pure given) s result t ↔ given = result ∧ s = t := by
  have ran : (pure given : Reader β) s = .ok (given, s) := rfl
  simp [Yields, ran]

/-- A sequence succeeds as both of its parts do, the second from where the first came out. -/
theorem bind_yields {read : Reader α} {next : α → Reader β} :
    Yields (read >>= next) s result t ↔
      ∃ first m, Yields read s first m ∧ Yields (next first) m result t := by
  simp only [Yields, bind, StateT.bind, Except.bind]
  constructor
  · intro ran
    cases first : read s with
    | error error => simp [first] at ran
    | ok reply => exact ⟨reply.1, reply.2, rfl, by simpa [first] using ran⟩
  · rintro ⟨first, m, ran, rest⟩
    simpa [ran] using rest

private theorem then_of_ok {read : Reader α} {next : α → Reader β} {first : α} {m : Stream}
    (ran : read s = .ok (first, m)) :
    Yields (read >>= next) s result t ↔ Yields (next first) m result t := by
  simp only [bind_yields, Yields, ran, Except.ok.injEq, Prod.mk.injEq]
  constructor
  · rintro ⟨_, _, ⟨rfl, rfl⟩, rest⟩
    exact rest
  · intro rest
    exact ⟨_, _, ⟨rfl, rfl⟩, rest⟩

private theorem then_of_error {read : Reader α} {next : α → Reader β} {error : CompileError}
    (ran : read s = .error error) : ¬ Yields (read >>= next) s result t := by
  simp [bind_yields, Yields, ran]

@[simp] theorem fail_yields {fault : CompileFault} {span : Span} :
    ¬ Yields (fail fault span) s result t := by
  simp [Yields, fail, throw, throwThe, MonadExceptOf.throw, StateT.lift, bind, Except.bind]

@[simp] theorem throw_yields {error : CompileError} : ¬ Yields (throw error) s result t := by
  simp [Yields, throw, throwThe, MonadExceptOf.throw, StateT.lift, bind, Except.bind]

@[simp] theorem ofExcept_yields {known : Except CompileError β} :
    Yields (ofExcept known) s result t ↔ known = .ok result ∧ s = t := by
  cases known <;> simp [Yields, ofExcept]

/-- What is known without reading goes on where it is, from the same tokens. -/
@[simp] theorem ofExcept_then {known : Except CompileError α} {next : α → Reader β} :
    Yields (ofExcept known >>= next) s result t ↔
      ∃ first, known = .ok first ∧ Yields (next first) s result t := by
  simp [bind_yields, and_assoc]

section
variable {next : Token → Reader β}

@[simp] theorem peek_then : Yields (peek >>= next) s result t ↔ Yields (next s.peek) s result t :=
  Iff.rfl

@[simp] theorem advance_then :
    Yields (advance >>= next) s result t ↔ Yields (next s.peek) s.next result t := Iff.rfl

end

@[simp] theorem skip_then {next : Unit → Reader β} :
    Yields (discard advance >>= next) s result t ↔ Yields (next ()) s.next result t := Iff.rfl

@[simp] theorem advance_yields {token : Token} :
    Yields advance s token t ↔ s.peek = token ∧ s.next = t := by
  simp [Yields, advance]

@[simp] theorem kindAt_then {places : Nat} {next : TokenKind → Reader β} :
    Yields (kindAt places >>= next) s result t ↔ Yields (next (s.kindAt places)) s result t :=
  Iff.rfl

@[simp] theorem check_then {kind : TokenKind} {next : Bool → Reader β} :
    Yields (check kind >>= next) s result t ↔ Yields (next (s.kind == kind)) s result t := Iff.rfl

@[simp] theorem spanFrom_then {start : Span} {next : Span → Reader β} :
    Yields (spanFrom start >>= next) s result t ↔ Yields (next (s.spanFrom start)) s result t :=
  Iff.rfl

@[simp] theorem fuel_then {next : Nat → Reader β} :
    Yields (fuel >>= next) s result t ↔ Yields (next (s.rest.length + 1)) s result t := Iff.rfl

@[simp] theorem exhausted_yields : ¬ Yields exhausted s result t := by simp [exhausted]

/-- A token that may be next is consumed just where it is. -/
@[simp] theorem eat_then {kind : TokenKind} {next : Bool → Reader β} :
    Yields (eat kind >>= next) s result t ↔
      s.kind = kind ∧ Yields (next true) s.next result t ∨
      s.kind ≠ kind ∧ Yields (next false) s result t := by
  by_cases same : s.kind = kind
  · have ran : eat kind s = .ok (true, s.next) := by simp [eat, Stream.eat?, same]
    simp [then_of_ok ran, same]
  · have ran : eat kind s = .ok (false, s) := by simp [eat, Stream.eat?, same]
    simp [then_of_ok ran, same]

/-- A token that has to be next is there and is consumed, or nothing succeeds. -/
@[simp] theorem expect_then {kind : TokenKind} {next : Unit → Reader β} :
    Yields (expect kind >>= next) s result t ↔
      s.kind = kind ∧ Yields (next ()) s.next result t := by
  by_cases same : s.kind = kind
  · have ran : expect kind s = .ok ((), s.next) := by simp [expect, Stream.eat?, same]
    simp [then_of_ok ran, same]
  · have ran : ∃ error, expect kind s = .error error := by simp [expect, Stream.eat?, same]
    obtain ⟨error, ran⟩ := ran
    simp [then_of_error ran, same]

/-- An attempt that fails leaves the tokens as they were. -/
@[simp] theorem attempt_then {read : Attempt α} {next : Option α → Reader β} :
    Yields (attempt read >>= next) s result t ↔
      (∃ first m, read s = some (first, m) ∧ Yields (next (some first)) m result t) ∨
      read s = none ∧ Yields (next none) s result t := by
  cases found : read s with
  | none =>
    have ran : attempt read s = .ok (none, s) := by simp [attempt, found]
    simp [then_of_ok ran]
  | some reply =>
    have ran : attempt read s = .ok (some reply.1, reply.2) := by simp [attempt, found]
    simp [then_of_ok ran, Prod.ext_iff, and_assoc]

@[simp] theorem unknownType_yields : ¬ Yields unknownType s result t := by
  simp [Yields, unknownType]

/-- A type that has to be next is read where an attempt at it succeeds. -/
@[simp] theorem expectType_yields {scope : Scope} {ty : Ty} :
    Yields (expectType scope) s ty t ↔ type? scope s = some (ty, t) := by
  by_cases named : s.peek.kind = .identifier <;> simp [expectType, named]

@[simp] theorem expectType_then {scope : Scope} {next : Ty → Reader β} :
    Yields (expectType scope >>= next) s result t ↔
      ∃ ty m, type? scope s = some (ty, m) ∧ Yields (next ty) m result t := by
  simp [bind_yields]

/-- A member is named by an identifier. -/
@[simp] theorem memberName_then {next : Token → Reader β} :
    Yields (memberName >>= next) s result t ↔
      s.kind = .identifier ∧ Yields (next s.peek) s.next result t := by
  by_cases named : s.peek.kind = .identifier
  · have ran : Yields memberName s s.peek s.next := by simp [memberName, named]
    simp [then_of_ok ran, named, Stream.kind]
  · have ran : ∀ name m, ¬ Yields memberName s name m := by simp [memberName, named]
    simp [bind_yields, ran, named, Stream.kind]

/-- A type in parentheses stands between an opening and a closing one. -/
@[simp] theorem typeInParens_then {scope : Scope} {next : Ty → Reader β} :
    Yields (typeInParens scope >>= next) s result t ↔
      s.kind = .leftParen ∧ ∃ ty m, type? scope s.next = some (ty, m) ∧ m.kind = .rightParen ∧
        Yields (next ty) m.next result t := by
  simp only [typeInParens, bind_assoc, pure_bind, expect_then, expectType_then]

end Formula.Reader
