import Formula.Function
import Formula.Proofs.Headers

/-! The shape of a bound formula. Its parameters are those that the signature declares, behind a
default instance unless it is the first of them; a header may name them and may write the types that
are not declared, and settles them alone where none are declared. Its result is the declared one, to
which the body is converted, or else what the body gives. -/
namespace Formula

namespace Parameters

variable {params : Parameters}

/-- Each parameter has the number of its place. -/
def Ordered (params : Parameters) : Prop :=
  params.list.map (·.ordinal) = List.range params.list.length

theorem ofInstance_ordered (receiver : Option Ty) : (ofInstance receiver).Ordered := by
  cases receiver <;> rfl

theorem Ordered.push (ordered : params.Ordered) (name : String) (ty : Ty) :
    (params.push name ty).Ordered := by
  unfold Ordered at ordered ⊢
  simp [Parameters.push, ordered, List.range_succ]

theorem Ordered.pushAll (ordered : params.Ordered) (pairs : List (String × Ty)) :
    (params.pushAll pairs).Ordered := by
  induction pairs generalizing params with
  | nil => exact ordered
  | cons pair pairs ih => exact ih (ordered.push _ _)

@[simp] theorem types_push (params : Parameters) (name : String) (ty : Ty) :
    (params.push name ty).types = params.types ++ [ty] := by
  simp [types, push]

@[simp] theorem types_ofInstance (receiver : Option Ty) :
    (ofInstance receiver).types = receiver.toList := by
  cases receiver <;> rfl

theorem types_pushAll (params : Parameters) (pairs : List (String × Ty)) :
    (params.pushAll pairs).types = params.types ++ pairs.map (·.2) := by
  induction pairs generalizing params with
  | nil => simp [pushAll]
  | cons pair pairs ih =>
    have rest := ih (params.push pair.1 pair.2)
    rw [types_push, List.append_assoc] at rest
    exact rest

end Parameters

namespace Reader

section Settling

variable {params bound : Parameters} {header : List HeaderParam} {specs : List ParamSpec}
  {scope : Scope} {declared : Option (List ParamSpec)} {s t : Stream}

/-- The type of a parameter is the declared one; where none is declared, a header may write it. -/
def settledTy (written declared : Option Ty) : Ty := (declared.or written).getD .object

/-- The parameters of a header beside those that are declared. -/
def headed (header : List HeaderParam) (specs : List ParamSpec) : List (String × Ty) :=
  header.mapIdx fun i param => (param.name, settledTy param.ty (specs[i]?.bind (·.ty)))

/-- The declared parameters without a header. -/
def headless (specs : List ParamSpec) : List (String × Ty) :=
  specs.mapIdx fun i spec => (spec.name.getD (unnamed i), settledTy none spec.ty)

/-- The types of the parameters behind the default instance: of those that are declared, or else of
those for which a header writes types. -/
def parameterTypes (written : List (Option Ty)) : Option (List ParamSpec) → List Ty
  | some specs => specs.mapIdx fun i spec => settledTy written[i]?.join spec.ty
  | none => written.map fun ty => settledTy ty none

theorem headed_cons (param : HeaderParam) (header : List HeaderParam) (specs : List ParamSpec) :
    headed (param :: header) specs =
      (param.name, settledTy param.ty (specs.head?.bind (·.ty))) :: headed header specs.tail := by
  simp [headed, List.mapIdx_cons, List.head?_eq_getElem?, List.getElem?_tail]

/-- A header puts its parameters in force one by one. -/
theorem bindFrom_pushed {earlier : List String}
    (ran : bindFrom params earlier header specs = .ok bound) :
    bound = params.pushAll (headed header specs) := by
  induction header generalizing params earlier specs with
  | nil =>
    cases ran
    rfl
  | cons param header ih =>
    have settled : ∀ ty, ty = settledTy param.ty (specs.head?.bind (·.ty)) →
        bindFrom (params.push param.name ty) (param.name :: earlier) header specs.tail = .ok bound →
        bound = params.pushAll (headed (param :: header) specs) := by
      rintro ty rfl ran
      rw [headed_cons]
      exact ih ran
    simp only [bindFrom] at ran
    split at ran
    case isTrue => cases ran
    case isFalse =>
      split at ran
      case h_1 written declared isWritten isDeclared =>
        split at ran
        case isTrue same => exact settled written (by simp [settledTy, isDeclared, same]) ran
        case isFalse => cases ran
      case h_2 ty isWritten isDeclared =>
        exact settled ty (by simp [settledTy, isWritten, isDeclared]) ran
      case h_3 ty isWritten isDeclared => exact settled ty (by simp [settledTy, isDeclared]) ran
      case h_4 isWritten isDeclared =>
        exact settled .object (by simp [settledTy, isWritten, isDeclared]) ran

theorem bindDeclared_pushed (params : Parameters) (declared : Option (List ParamSpec)) :
    bindDeclared params declared = params.pushAll (headless (declared.getD [])) := by
  rw [bindDeclared, Parameters.pushAll, headless, List.mapIdx_eq_zipIdx_map, List.foldl_map]
  congr 1
  funext params pair
  simp [settledTy]

/-- The types that the header of a stream writes, if it has one. -/
def headerTypes (scope : Scope) (s : Stream) : List (Option Ty) :=
  ((header? scope s).map fun read => read.1.map (·.ty)).getD []

theorem headed_types (count : header.length = specs.length) :
    (headed header specs).map (·.2) = parameterTypes (header.map (·.ty)) (some specs) := by
  apply List.ext_getElem
  · simp [headed, parameterTypes, count]
  · intro i inside _
    have inHeader : i < header.length := by simpa [headed] using inside
    have inSpecs : i < specs.length := count ▸ inHeader
    simp [headed, parameterTypes, inHeader, inSpecs]

/-- Behind what was in force come the parameters that are declared, or those of the header. -/
theorem parameters_pushed (ran : Yields (parameters scope declared) s params t) :
    ∃ pairs, params = scope.params.pushAll pairs ∧
      pairs.map (·.2) = parameterTypes (headerTypes scope s) declared := by
  obtain ⟨header, read, ran⟩ | ⟨none, rfl, -⟩ := parameters_yields.mp ran
  · have written : headerTypes scope s = header.map (·.ty) := by simp [headerTypes, read]
    rw [written]
    cases declared with
    | none =>
      refine ⟨_, bindFrom_pushed ran, ?_⟩
      apply List.ext_getElem <;> simp [headed, parameterTypes]
    | some specs =>
      rw [bindHeader] at ran
      split at ran
      case isTrue count => exact ⟨_, bindFrom_pushed ran, headed_types count⟩
      case isFalse => cases ran
  · have written : headerTypes scope s = [] := by simp [headerTypes, none]
    rw [written, bindDeclared_pushed]
    refine ⟨_, rfl, ?_⟩
    cases declared with
    | none => rfl
    | some specs => apply List.ext_getElem <;> simp [headless, parameterTypes]

/-- Where a type is declared for every parameter, nothing else matters. -/
theorem parameterTypes_declared {types : List Ty} (declared : specs.map (·.ty) = types.map some)
    (written : List (Option Ty)) : parameterTypes written (some specs) = types := by
  have count : specs.length = types.length := by simpa using congrArg List.length declared
  apply List.ext_getElem
  · simp [parameterTypes, count]
  · intro i inside inTypes
    have inSpecs : i < specs.length := count ▸ inTypes
    have same : specs[i].ty = some types[i] := by
      have entries := congrArg (·[i]?) declared
      simpa [inSpecs, inTypes] using entries
    simp [parameterTypes, settledTy, same]

end Settling

/-- Parameters in parentheses up to the closing one: each is a name, behind its type where that is
written. -/
inductive Lists (scope : Scope) : Stream → List (Option Ty) → Stream → Prop
  | last (front : Front scope s ty m) (named : m.kind = .identifier)
      (closes : m.next.kind = .rightParen) : Lists scope s [ty] m.next.next
  | more (front : Front scope s ty m) (named : m.kind = .identifier)
      (comma : m.next.kind = .comma) (rest : Lists scope m.next.next written t) :
      Lists scope s (ty :: written) t

/-- A header stands here: a name, or parameters in parentheses, in front of an arrow. -/
inductive Opens (scope : Scope) (s : Stream) : List (Option Ty) → Stream → Prop
  | name (named : s.kind = .identifier) (arrow : s.next.kind = .fatArrow) :
      Opens scope s [none] s.next.next
  | empty (opens : s.kind = .leftParen) (closes : s.next.kind = .rightParen)
      (arrow : s.next.next.kind = .fatArrow) : Opens scope s [] s.next.next.next
  | listed (opens : s.kind = .leftParen) (params : Lists scope s.next written m)
      (arrow : m.kind = .fatArrow) : Opens scope s written m.next

section Opening

variable {scope : Scope} {s m t : Stream} {written : List (Option Ty)} {header : List HeaderParam}
  {ty : Option Ty} {fuel : Nat}

theorem Lists.named (lists : Lists scope s written t) : s.kind = .identifier := by
  cases lists with
  | last front => exact front.named
  | more front => exact front.named

/-- There are fewer parameters than tokens. -/
theorem Lists.length_lt (lists : Lists scope s written t) (closed : s.Closed) :
    written.length < s.rest.length := by
  induction lists with
  | @last s ty m front named _ =>
    have walk := front.walk none
    have after := (walk.closed closed).next (by simp [named])
    have shorter := (walk.closed closed).next_shorter (by simp [named])
    have enough := walk.length_le closed
    have some := after.nonempty
    simp only [List.length_singleton]
    omega
  | @more s ty m written t front named comma _ ih =>
    have walk := front.walk none
    have after := (walk.closed closed).next (by simp [named])
    have shorter := (walk.closed closed).next_shorter (by simp [named])
    have enough := walk.length_le closed
    have others := ih (after.next (by simp [comma]))
    have last := after.next_shorter (by simp [comma])
    simp only [List.length_cons]
    omega

theorem headerFrom_lists (read : headerFrom scope fuel s = some (header, t)) :
    Lists scope s (header.map (·.ty)) t := by
  induction fuel generalizing s header with
  | zero => cases read
  | succ fuel ih =>
    obtain ⟨ty, m, others, front, named, rfl, ⟨comma, rest⟩ | ⟨closes, rfl, rfl⟩⟩ :=
      headerFrom_cases read
    · exact .more front named comma (ih rest)
    · exact .last front named closes

theorem Lists.read (lists : Lists scope s written t) (enough : written.length ≤ fuel) :
    ∃ header, headerFrom scope fuel s = some (header, t) ∧ header.map (·.ty) = written := by
  induction lists generalizing fuel with
  | last front named closes =>
    obtain ⟨fuel, rfl⟩ := Nat.exists_eq_succ_of_ne_zero (Nat.ne_of_gt enough)
    obtain ⟨span, read⟩ := @headerFrom_last _ _ _ _ fuel front named closes
    exact ⟨_, read, rfl⟩
  | more front named comma _ ih =>
    obtain ⟨fuel, rfl⟩ := Nat.exists_eq_succ_of_ne_zero
      (Nat.ne_of_gt (Nat.lt_of_lt_of_le (Nat.succ_pos _) enough))
    obtain ⟨others, rest, same⟩ := ih (Nat.le_of_succ_le_succ enough)
    obtain ⟨span, read⟩ := headerFrom_more front named comma rest
    exact ⟨_, read, congrArg _ same⟩

/-- What is read as a header is a header. -/
theorem header_opens (read : header? scope s = some (header, t)) :
    Opens scope s (header.map (·.ty)) t := by
  obtain ⟨named, arrow, rfl, rfl⟩ | ⟨opens, m, arrow, rfl, list⟩ := header_cases read
  · exact .name named arrow
  obtain ⟨closes, rfl, rfl⟩ | list := list
  · exact .empty opens closes arrow
  · exact .listed opens (headerFrom_lists list) arrow

/-- What is a header is read as one. -/
theorem Opens.read (opening : Opens scope s written t) (closed : s.Closed) :
    ∃ header, header? scope s = some (header, t) ∧ header.map (·.ty) = written := by
  cases opening with
  | name named arrow =>
    have both : s.peek.kind = .identifier ∧ s.next.kind = .fatArrow := ⟨named, arrow⟩
    refine ⟨[⟨s.peek.lexeme, none, s.peek.span⟩], ?_, rfl⟩
    simp only [header?, get_then, Stream.kindAt_one]
    rw [if_pos both]
    rfl
  | empty opens closes arrow => exact ⟨[], header_empty opens closes arrow, rfl⟩
  | @listed written m opens lists arrow =>
    have more : s.kind ≠ .endOfInput := by simp [opens]
    have few := lists.length_lt (closed.next more)
    obtain ⟨header, read, same⟩ := lists.read few.le
    exact ⟨header, header_listed opens lists.named read arrow, same⟩

/-- What a header writes for the types of its parameters; without one that is nothing. -/
def WritesTypes (scope : Scope) (s : Stream) (written : List (Option Ty)) : Prop :=
  (∃ t, Opens scope s written t) ∨ written = [] ∧ ∀ other t, ¬ Opens scope s other t

theorem writesTypes_iff (closed : s.Closed) :
    WritesTypes scope s written ↔ written = headerTypes scope s := by
  constructor
  · rintro (⟨t, opening⟩ | ⟨rfl, none⟩)
    · obtain ⟨header, read, same⟩ := opening.read closed
      simp [headerTypes, read, same]
    · cases read : header? scope s with
      | none => simp [headerTypes, read]
      | some found =>
        obtain ⟨header, t⟩ := found
        exact absurd (header_opens read) (none _ t)
  · rintro rfl
    cases read : header? scope s with
    | none =>
      refine .inr ⟨by simp [headerTypes, read], fun other t opening => ?_⟩
      obtain ⟨header, some, -⟩ := opening.read closed
      rw [read] at some
      cases some
    | some found =>
      obtain ⟨header, t⟩ := found
      have written : headerTypes scope s = header.map (·.ty) := by simp [headerTypes, read]
      rw [written]
      exact .inl ⟨t, header_opens read⟩

end Opening

end Reader

namespace Options

/-- The type of the default instance. -/
def instanceTy (options : Options) (signature : Signature) : Option Ty :=
  if options.firstIsReceiver then (signature.params.bind List.head?).bind (·.ty)
  else options.receiver

/-- The declared parameters that are not the default instance. -/
def others (options : Options) (signature : Signature) : Option (List ParamSpec) :=
  if options.firstIsReceiver then signature.params.map List.tail else signature.params

/-- The type of a default instance that comes in front of the declared parameters. -/
def inserted (options : Options) : Option Ty :=
  if options.firstIsReceiver then none else options.receiver

end Options

section Binding

variable {world : Universe} {signature : Signature} {options : Options} {source : String}
  {specs : List ParamSpec} {types : List Ty}

theorem splitReceiver_ok {receiver : Option Ty} {declared : Option (List ParamSpec)}
    (split_ : splitReceiver signature options = .ok (receiver, declared)) :
    receiver = options.instanceTy signature ∧ declared = options.others signature ∧
      (options.firstIsReceiver → (options.instanceTy signature).isSome) := by
  unfold splitReceiver at split_
  unfold Options.instanceTy Options.others
  by_cases isFirst : options.firstIsReceiver
  · rw [if_pos isFirst] at split_
    rw [if_pos isFirst, if_pos isFirst]
    split at split_
    case h_1 first rest isDeclared =>
      split at split_
      case h_1 ty typed =>
        cases split_
        simp [isDeclared, typed]
      case h_2 => cases split_
    case h_2 => cases split_
  · rw [if_neg isFirst] at split_
    rw [if_neg isFirst, if_neg isFirst]
    cases split_
    exact ⟨rfl, rfl, fun first => absurd first isFirst⟩

/-- A result that is declared and not dropped is the type of the body. -/
theorem convertResult_ty {body converted : Expr} {declared : Option Ty}
    (converts : convertResult world body declared = .ok converted) (kept : declared ≠ some .void) :
    converted.ty = declared.getD converted.ty := by
  unfold convertResult at converts
  split at converts
  case h_1 => rfl
  case h_2 target =>
    have noVoid : target.isVoid = false := by
      simpa [Ty.isVoid] using kept
    rw [noVoid] at converts
    simp only [Bool.false_eq_true, ↓reduceIte] at converts
    split at converts
    case isTrue => cases converts
    case isFalse =>
      split at converts
      case isTrue =>
        cases converts
        simp
      case isFalse => cases converts

/-- How a source is bound: its parameters behind the default instance, and its result. -/
theorem bindSource_parts {bound : BoundLambda}
    (binds : bindSource world signature options source = .ok bound) :
    ∃ tokens pairs, tokensOf source = .ok tokens ∧
      (options.firstIsReceiver → (options.instanceTy signature).isSome) ∧
      bound.params = (Parameters.ofInstance (options.instanceTy signature)).pushAll pairs ∧
      pairs.map (·.2) = Reader.parameterTypes (Reader.headerTypes
        ⟨world, options.namespaces, .ofInstance (options.instanceTy signature)⟩ (.ofTokens tokens))
        (options.others signature) ∧
      ∃ body, convertResult world body signature.result = .ok bound.body ∧
        bound.result = signature.result.getD bound.body.ty := by
  obtain ⟨⟨receiver, declared⟩, split_, binds⟩ := except_then.mp binds
  obtain ⟨rfl, rfl, some⟩ := splitReceiver_ok split_
  obtain ⟨parsed, read, binds⟩ := except_then.mp binds
  obtain ⟨body, converts, same⟩ := except_then.mp binds
  cases same
  obtain ⟨tokens, lexed, read⟩ := except_then.mp read
  obtain ⟨⟨lambda, rest⟩, ran, same⟩ := except_then.mp read
  cases same
  obtain ⟨m, first, -⟩ := Reader.lambda_yields.mp ran
  obtain ⟨pairs, pushed, types⟩ := Reader.parameters_pushed first
  exact ⟨tokens, pairs, lexed, some, pushed, types, parsed.body, converts, rfl⟩

/-- A function whose signature declares the type of every parameter has these parameters, behind a
default instance that is not one of them. -/
theorem Function.compile_types {function : Function} (isDeclared : signature.params = some specs)
    (declared : specs.map (·.ty) = types.map some)
    (compiled : Function.compile world signature options source = .ok function) :
    function.params.types = options.inserted.toList ++ types := by
  obtain ⟨bound, binds, same⟩ := except_then.mp compiled
  cases same
  obtain ⟨tokens, pairs, -, some, pushed, settled, -⟩ := bindSource_parts binds
  change bound.params.types = _
  rw [pushed, Parameters.types_pushAll, Parameters.types_ofInstance, settled]
  unfold Options.instanceTy at some ⊢
  unfold Options.others Options.inserted
  by_cases isFirst : options.firstIsReceiver
  · rw [if_pos isFirst, isDeclared] at some
    rw [if_pos isFirst, if_pos isFirst, if_pos isFirst, isDeclared]
    cases specs with
    | nil => cases some isFirst
    | cons first rest =>
      cases types with
      | nil => cases declared
      | cons ty types =>
        obtain ⟨typed, declared⟩ := List.cons.inj declared
        have settled := Reader.parameterTypes_declared declared
        simp [typed, settled]
  · rw [if_neg isFirst, if_neg isFirst, if_neg isFirst, isDeclared,
      Reader.parameterTypes_declared declared]

/-- A bound formula has the shape of its signature, where its header writes these types. -/
structure BoundLambda.Shaped (bound : BoundLambda) (signature : Signature) (options : Options)
    (written : List (Option Ty)) : Prop where
  /-- A first parameter that is the default instance is declared with its type. -/
  instanceTyped : options.firstIsReceiver → (options.instanceTy signature).isSome
  ordinals : bound.params.list.map (·.ordinal) = List.range bound.params.list.length
  types : bound.params.types = (options.instanceTy signature).toList ++
    Reader.parameterTypes written (options.others signature)
  result : bound.result = signature.result.getD bound.body.ty
  /-- A result that is dropped may be of any type. -/
  body : signature.result ≠ some .void → bound.body.ty = bound.result

/-- Whatever is bound has the shape of its signature: the default instance in front, then one
parameter for each that is declared or else for each of the header, and the declared result. -/
theorem bindSource_shaped {bound : BoundLambda}
    (binds : bindSource world signature options source = .ok bound) :
    ∃ tokens written, tokensOf source = .ok tokens ∧
      (∀ other, Reader.WritesTypes ⟨world, options.namespaces,
        .ofInstance (options.instanceTy signature)⟩ (.ofTokens tokens) other ↔ other = written) ∧
      bound.Shaped signature options written := by
  obtain ⟨tokens, pairs, lexed, some, pushed, settled, body, converts, result⟩ :=
    bindSource_parts binds
  have ended := (Token.tokenize_tiled (tokenize_of_tokensOf lexed)).ended
  have closed : (Stream.ofTokens tokens).Closed := Stream.before_ofTokens.closed ended
  refine ⟨tokens, _, lexed, fun other => Reader.writesTypes_iff closed, ?shape⟩
  case shape =>
    refine ⟨some, ?ordinals, ?types, result, fun kept => ?body⟩
    case ordinals =>
      rw [pushed]
      exact (Parameters.ofInstance_ordered _).pushAll pairs
    case types =>
      rw [pushed, Parameters.types_pushAll, Parameters.types_ofInstance, settled]
    case body =>
      rw [result]
      exact convertResult_ty converts kept

/-- A text that is the default instance, a number of which the header writes the type, one that is
declared and a parameter without any type; the body is converted to the declared result. -/
theorem bindSource_shaped_header :
    let signature : Signature := ⟨some [⟨none, some .string⟩, ⟨none, none⟩,
      ⟨some "rate", some .double⟩, ⟨none, none⟩], some .double⟩
    let options : Options := ⟨[], none, true⟩
    ∃ bound, bindSource Registry.empty.toUniverse signature options "(int n, x, y) => n * 2" =
        .ok bound ∧ bound.params.types = [.string, .int, .double, .object] ∧
      ∃ tokens written, tokensOf "(int n, x, y) => n * 2" = .ok tokens ∧
        (∀ other, Reader.WritesTypes ⟨Registry.empty.toUniverse, options.namespaces,
          .ofInstance (options.instanceTy signature)⟩ (.ofTokens tokens) other ↔ other = written) ∧
        bound.Shaped signature options written := by
  intro signature options
  obtain ⟨bound, binds, types⟩ : ∃ bound, bindSource Registry.empty.toUniverse signature options
      "(int n, x, y) => n * 2" = .ok bound ∧
        bound.params.types = [.string, .int, .double, .object] := exists_ok_that (by decide +kernel)
  exact ⟨bound, binds, types, bindSource_shaped binds⟩

end Binding
end Formula
