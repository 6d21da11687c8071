import Formula.Library.Sample
import Formula.Proofs.Lexing
import Formula.Proofs.TokenWalk
import Formula.Proofs.Typing

/-! Reading types what it reads. Of the tokens, it matters only that they are proper, which the lexer
has settled; the rest follows along a derivation, one case for each rule of the grammar. -/
namespace Formula

namespace Stream

/-- All tokens that are left are proper. -/
abbrev Proper (s : Stream) : Prop := s.All Token.Proper

theorem Proper.peek {s : Stream} (proper : s.Proper) : s.peek.Proper :=
  All.peek proper fun _ _ _ made => Token.word_proper (by rcases made with rfl | rfl <;> simp)

end Stream

namespace Reader

/-- An attempt comes to nothing but types that can be written. -/
def ReadsWritten (scope : Scope) (read : Attempt Ty) : Prop :=
  ∀ s ty t, s.Proper → read s = some (ty, t) → scope.Denotes ty ∧ t.Proper

section Written

variable {scope : Scope} {readTy : Attempt Ty} {s t : Stream} {ty : Ty}

theorem argsFrom_written {args : List Ty} (written : ReadsWritten scope readTy) (fuel : Nat)
    (proper : s.Proper) (read : argsFrom readTy fuel s = some (args, t)) :
    (∀ arg ∈ args, scope.Denotes arg) ∧ t.Proper := by
  induction fuel generalizing s args with
  | zero => cases read
  | succ fuel ih =>
    simp only [argsFrom, Option.bind_eq_some_iff] at read
    obtain ⟨⟨first, m⟩, head, read⟩ := read
    obtain ⟨denotes, proper⟩ := written s first m proper head
    simp only at read
    split at read
    case h_1 next ate =>
      obtain ⟨-, rfl⟩ := Stream.eat_eq.mp ate
      obtain ⟨⟨others, last⟩, rest, same⟩ := Option.map_eq_some_iff.mp read
      cases same
      obtain ⟨rest, last⟩ := ih proper.next rest
      exact ⟨List.forall_mem_cons.mpr ⟨denotes, rest⟩, last⟩
    case h_2 =>
      obtain ⟨last, closes, same⟩ := Option.map_eq_some_iff.mp read
      cases same
      refine ⟨List.forall_mem_singleton.mpr denotes, ?_⟩
      rcases Option.or_eq_some_iff.mp closes with ate | ⟨-, splits⟩
      · obtain ⟨-, rfl⟩ := Stream.eat_eq.mp ate
        exact proper.next
      · exact proper.half splits

theorem generic_written {name : String} (written : ReadsWritten scope readTy) (proper : s.Proper)
    (read : generic? scope readTy name s = some (ty, t)) : scope.Denotes ty ∧ t.Proper := by
  simp only [generic?, typeArgs, Option.bind_eq_some_iff, Option.map_eq_some_iff] at read
  obtain ⟨⟨args, m⟩, ⟨next, ate, args_read⟩, ty, resolved, same⟩ := read
  cases same
  obtain ⟨-, rfl⟩ := Stream.eat_eq.mp ate
  obtain ⟨denotes, last⟩ := argsFrom_written written _ proper.next args_read
  exact ⟨.generic denotes resolved, last⟩

theorem pathFrom_written {name : String} (written : ReadsWritten scope readTy) (fuel : Nat)
    (nonempty : name ≠ "") (proper : s.Proper)
    (read : pathFrom scope readTy fuel name s = some (ty, t)) : scope.Denotes ty ∧ t.Proper := by
  induction fuel generalizing s name with
  | zero => cases read
  | succ fuel ih =>
    simp only [pathFrom] at read
    split at read
    case h_1 found generic =>
      cases read
      exact generic_written written proper generic
    case h_2 =>
      split at read
      case h_1 resolved => cases read; exact ⟨.name nonempty resolved, proper⟩
      case h_2 =>
        split at read
        case isTrue => exact ih (by simp [String.append_eq_empty_iff]) proper.next.next read
        case isFalse => cases read

theorem path_written (written : ReadsWritten scope readTy) :
    ReadsWritten scope (path scope readTy) := by
  intro s ty t proper read
  unfold path at read
  split at read
  case isTrue name => exact pathFrom_written written _ (proper.peek.name name) proper.next read
  case isFalse => cases read

theorem withNullable_written (denotes : scope.Denotes ty) : scope.Denotes (withNullable ty s).1 := by
  unfold withNullable
  split
  case isTrue => exact .nullable denotes
  case isFalse => exact denotes

theorem withArrays_written (fuel : Nat) (denotes : scope.Denotes ty) :
    scope.Denotes (withArrays fuel ty s).1 := by
  induction fuel generalizing ty s with
  | zero => exact denotes
  | succ fuel ih =>
    simp only [withArrays]
    split
    case isTrue => exact ih (.array denotes)
    case isFalse => exact denotes

theorem typeWithin_written (depth : Nat) : ReadsWritten scope (typeWithin scope depth) := by
  induction depth with
  | zero =>
    intro s ty t proper read
    cases read
  | succ depth ih =>
    intro s ty t proper read
    have last := (typeWithin_walks (depth + 1) s ty t none read).all proper
    simp only [typeWithin, Option.map_eq_some_iff] at read
    obtain ⟨⟨plain, m⟩, named, same⟩ := read
    have same : (withArrays _ _ _).1 = ty := congrArg Prod.fst same
    obtain ⟨denotes, -⟩ := path_written ih s plain m proper named
    rw [← same]
    exact ⟨withArrays_written _ (withNullable_written denotes), last⟩

/-- A type that is read is one that the tokens denote in the scope. -/
theorem type_written (proper : s.Proper) (read : type? scope s = some (ty, t)) :
    scope.Denotes ty :=
  (typeWithin_written _ s ty t proper read).1

end Written
end Reader

namespace Parameters

/-- Every parameter stands at the place that its number says. -/
def Numbered (params : Parameters) : Prop :=
  ∀ param ∈ params.list, params.list[param.ordinal]? = some param

variable {params : Parameters} {param : Parameter}

theorem ofInstance_numbered (receiver : Option Ty) : (ofInstance receiver).Numbered := by
  cases receiver <;> simp [Numbered, ofInstance]

theorem Numbered.push (numbered : params.Numbered) (name : String) (ty : Ty) :
    (params.push name ty).Numbered := by
  intro param member
  simp only [Parameters.push, List.mem_append, List.mem_singleton] at member ⊢
  rcases member with member | rfl
  · have found := numbered param member
    have inside : param.ordinal < params.list.length := (List.getElem?_eq_some_iff.mp found).1
    rw [List.getElem?_append_left inside, found]
  · simp

theorem Numbered.find (numbered : params.Numbered) {name : String}
    (found : params.find? name = some param) : params.list[param.ordinal]? = some param :=
  numbered param (List.mem_reverse.mp (List.mem_of_find?_eq_some found))

theorem Numbered.receiver (numbered : params.Numbered) (found : params.instance? = some param) :
    params.list[param.ordinal]? = some param := by
  unfold instance? at found
  split at found
  case isTrue => exact numbered param (List.mem_of_head? found)
  case isFalse => cases found

end Parameters

namespace Reader

theorem bindFrom_numbered {params bound : Parameters} {header : List HeaderParam}
    {earlier : List String} {specs : List ParamSpec} (numbered : params.Numbered)
    (ran : bindFrom params earlier header specs = .ok bound) : bound.Numbered := by
  induction header generalizing params earlier specs with
  | nil => cases ran; exact numbered
  | cons param rest ih =>
    simp only [bindFrom] at ran
    split at ran
    case isTrue => cases ran
    case isFalse =>
      split at ran
      case h_1 =>
        split at ran
        case isTrue => exact ih (numbered.push _ _) ran
        case isFalse => cases ran
      case h_2 | h_3 | h_4 => exact ih (numbered.push _ _) ran

theorem bindHeader_numbered {params bound : Parameters} {header : List HeaderParam}
    {declared : Option (List ParamSpec)} {span : Span} (numbered : params.Numbered)
    (ran : bindHeader params header declared span = .ok bound) : bound.Numbered := by
  unfold bindHeader at ran
  split at ran
  case h_1 => exact bindFrom_numbered numbered ran
  case h_2 =>
    split at ran
    case isTrue => exact bindFrom_numbered numbered ran
    case isFalse => cases ran

theorem bindDeclared_numbered {params : Parameters} (numbered : params.Numbered)
    (declared : Option (List ParamSpec)) : (bindDeclared params declared).Numbered := by
  unfold bindDeclared
  generalize (declared.getD []).zipIdx = specs
  induction specs generalizing params with
  | nil => exact numbered
  | cons spec specs ih => exact ih (numbered.push _ _)

/-- What a derivation of a part says about types. -/
def Part.Typed (scope : Scope) : (part : Part) → part.Result → Prop
  | .expression _ _, e | .operand _, e => WellTyped scope e
  | .operators _ _ left, e | .operator _ _ left, e => WellTyped scope left → WellTyped scope e
  | .arguments _, args | .items _, args | .givens, args => ∀ arg ∈ args, WellTyped scope arg
  | .assignments _, steps =>
    ∀ step ∈ steps, WellTyped scope step.2 ∧ step.2.ty = step.1.ty ∧ step.1.flags.isStatic = false
  | .initializer _, (init, values) =>
    (∀ value ∈ values, WellTyped scope value) ∧ init.Takes values

private theorem primitive_literal {scope : Scope} {value : Value} {span : Span}
    (primitive : value.kind?.isSome) : WellTyped scope (.literal ⟨value.ty, span⟩ value) :=
  .literal (.inr (.inr primitive))

/-- A constant has the type of its literal. -/
theorem constant_typed {scope : Scope} {token : Token} {value : Value} {ty : Ty} {span : Span}
    (proper : token.Proper) (constant : constant? token = some (value, ty)) :
    WellTyped scope (.literal ⟨ty, span⟩ value) := by
  unfold constant? at constant
  split at constant
  case h_1 =>
    obtain ⟨given, number, same⟩ := Option.map_eq_some_iff.mp constant
    cases same
    exact primitive_literal (proper.number number)
  case h_2 =>
    cases constant
    exact .literal (.inr (.inl ⟨_, rfl⟩))
  case h_3 =>
    obtain ⟨c, -, same⟩ := Option.map_eq_some_iff.mp constant
    cases same
    exact primitive_literal (show (Value.char c).kind?.isSome from rfl)
  case h_4 =>
    cases constant
    exact primitive_literal (show (Value.bool true).kind?.isSome from rfl)
  case h_5 =>
    cases constant
    exact primitive_literal (show (Value.bool false).kind?.isSome from rfl)
  case h_6 =>
    cases constant
    exact .literal (.inl rfl)
  case h_7 => cases constant

theorem parameterNode_typed {scope : Scope} {param : Parameter} {span : Span}
    (placed : scope.params.list[param.ordinal]? = some param) :
    WellTyped scope (parameterNode param span) :=
  .parameter placed

/-- Whatever is read obeys the typing discipline, part by part. -/
theorem Reads.typed {scope : Scope} {part : Part} {s t : Stream} {result : part.Result}
    (lawful : scope.world.Lawful) (numbered : scope.params.Numbered)
    (reads : Reads scope part s result t) (proper : s.Proper) : Part.Typed scope part result := by
  induction reads with
  | expression first _ typed more => exact more (first.all proper) (typed proper)
  | literal constant => exact constant_typed proper.peek constant
  | cast _ target _ built typed =>
    obtain ⟨m, (walk : Walk none _ m), -, rfl⟩ := castTarget_walk target
    exact Expr.castWritten_typed (typed (walk.all proper.next).next) built
  | group _ _ _ _ typed => exact typed proper.next
  | sign _ _ built typed => exact Expr.applySign_typed (typed proper.next) built
  | arrayItems _ named _ _ built typed =>
    have middle := (type_walks _ _ _ none named).all proper.next
    have items := Expr.convertAll_typed (typed middle) built
    exact .arrayOf (fun item member => (items item member).1) fun item member =>
      (items item member).2
  | arrayLength _ named _ _ _ integral typed =>
    have middle := (type_walks _ _ _ none named).all proper.next
    exact .newArray (typed middle _ List.mem_cons_self) integral (type_written proper.next named)
  | create _ named _ given resolved _ typedArgs typedInit =>
    have middle := (type_walks _ _ _ none named).all proper.next
    obtain ⟨met, rfl⟩ := lawful.creator resolved
    obtain ⟨contents, takes⟩ := typedInit (given.all middle)
    exact .create (typedArgs middle) met contents takes
  | typeOf _ _ _ _ => exact .typeOf
  | sizeOf _ _ _ _ built => exact Expr.measure_typed built
  | parameter _ declared => exact parameterNode_typed (numbered.find declared)
  | defaultCall _ _ receiver _ _ built typed =>
    exact Expr.callDefault_typed lawful (parameterNode_typed (numbered.receiver receiver))
      (typed proper.next) built
  | defaultMember _ _ receiver _ built =>
    exact Expr.memberDefault_typed lawful (parameterNode_typed (numbered.receiver receiver)) built
  | staticCall _ named _ _ _ _ built typed =>
    have middle := (typePath_walks _ _ _ none named).all proper
    exact Expr.callStatic_typed lawful (typed middle.next.next) built
  | staticMember _ _ _ _ _ built => exact Expr.memberStatic_typed lawful built
  | done _ => exact id
  | more _ first _ typed rest => exact fun left => rest (first.all proper) (typed proper left)
  | memberCall _ _ _ _ built typed =>
    exact fun left => Expr.callOn_typed lawful left (typed proper.next.next) built
  | member _ _ _ built => exact fun left => Expr.memberOf_typed lawful left built
  | index _ _ built typed => exact fun left => Expr.indexInto_typed left (typed proper) built
  | conditional _ truth first _ _ built typedYes typedNo =>
    exact fun test => Expr.choose_typed lawful test (typedYes proper.next)
      (typedNo (first.all proper.next).next) truth built
  | coalesce _ _ built typed =>
    exact fun left => Expr.coalesceWith_typed lawful left (typed proper.next) built
  | typeTest _ _ built => exact fun left => Expr.testType_typed left built
  | binary _ _ built typed =>
    exact fun left => Expr.applyOperator_typed lawful left (typed proper.next) built
  | noArguments _ _ => exact List.forall_mem_nil _
  | arguments _ _ _ typed => exact typed proper.next
  | lastItem _ _ typed => exact List.forall_mem_singleton.mpr (typed proper)
  | nextItem read _ _ typed others =>
    exact List.forall_mem_cons.mpr ⟨typed proper, others (read.all proper).next⟩
  | noGivens _ => exact List.forall_mem_nil _
  | givens _ _ typed => exact typed proper
  | noInitializer _ => exact ⟨List.forall_mem_nil _, .none⟩
  | members _ _ _ _ typed =>
    have steps := typed proper.next
    refine ⟨?_, .members ?_⟩
    · intro value member
      obtain ⟨step, inside, rfl⟩ := List.mem_map.mp member
      exact (steps step inside).1
    · refine List.forall₂_map_left_iff.mpr (List.forall₂_map_right_iff.mpr ?_)
      exact List.forall₂_same.mpr fun step inside => (steps step inside).2
  | adds _ _ _ built typed => exact ⟨typed proper, .adds (Expr.addsFor_fit lawful built)⟩
  | lastAssignment _ _ member _ built _ typed =>
    have value := Expr.convertImplicit_typed (typed proper.next.next) built
    exact List.forall_mem_singleton.mpr ⟨value.1, value.2, Expr.assignable_fits lawful member⟩
  | trailingComma _ _ member _ built _ _ typed =>
    have value := Expr.convertImplicit_typed (typed proper.next.next) built
    exact List.forall_mem_singleton.mpr ⟨value.1, value.2, Expr.assignable_fits lawful member⟩
  | nextAssignment _ _ member read built _ _ _ typed rest =>
    have value := Expr.convertImplicit_typed (typed proper.next.next) built
    exact List.forall_mem_cons.mpr ⟨⟨value.1, value.2, Expr.assignable_fits lawful member⟩,
      rest (read.all proper.next.next).next⟩

theorem header_proper {scope : Scope} {header : List HeaderParam} {s t : Stream}
    (proper : s.Proper) (read : header? scope s = some (header, t)) : t.Proper := by
  obtain ⟨-, -, rfl⟩ | ⟨-, m, walk, -, -, rfl⟩ := header_walk read
  · exact proper.next.next
  · exact (walk.all proper.next).next.next

theorem parameters_numbered {scope : Scope} {declared : Option (List ParamSpec)} {s t : Stream}
    {params : Parameters} (numbered : scope.params.Numbered) (proper : s.Proper)
    (ran : Yields (parameters scope declared) s params t) : params.Numbered ∧ t.Proper := by
  simp only [parameters, peek_then] at ran
  obtain ⟨header, m, read, ran⟩ | ⟨-, ran⟩ := attempt_then.mp ran
  · obtain ⟨bound, rfl⟩ := ofExcept_yields.mp (spanFrom_then.mp ran)
    exact ⟨bindHeader_numbered numbered bound, header_proper proper read⟩
  · obtain ⟨rfl, rfl⟩ := pure_yields.mp ran
    exact ⟨bindDeclared_numbered numbered declared, proper⟩

end Reader

theorem tokenize_of_tokensOf {source : String} {tokens : List Token}
    (lexed : tokensOf source = .ok tokens) : Token.tokenize source = .ok tokens := by
  unfold tokensOf CompileError.ofTokens at lexed
  split at lexed
  case h_1 found =>
    cases lexed
    exact found
  case h_2 => cases lexed

namespace Lambda

variable {world : Universe} {namespaces : List String} {declared : Option (List ParamSpec)}
  {receiver : Option Ty} {source : String} {lambda : Lambda}

/-- A formula is refused by the lexer, or by the reader of its tokens. -/
theorem parse_refused {error : CompileError}
    (refused : Lambda.parse world namespaces declared receiver source = .error error) :
    (∃ fault, Token.tokenize source = .error fault ∧ error = .ofLexError fault) ∨
      ∃ tokens, Token.tokenize source = .ok tokens ∧
        Reader.lambda ⟨world, namespaces, .ofInstance receiver⟩ declared (Stream.ofTokens tokens)
          = .error error := by
  unfold Lambda.parse tokensOf at refused
  cases lexed : Token.tokenize source with
  | error fault =>
    rw [lexed] at refused
    cases refused
    exact .inl ⟨fault, rfl, rfl⟩
  | ok tokens =>
    rw [lexed] at refused
    refine .inr ⟨tokens, rfl, ?_⟩
    have read : Lambda.ofTokens world namespaces declared receiver tokens = .error error := refused
    simp only [Lambda.ofTokens, bind, Except.bind, StateT.run] at read
    cases ran : Reader.lambda ⟨world, namespaces, .ofInstance receiver⟩ declared
        (Stream.ofTokens tokens) with
    | error fault =>
      rw [ran] at read
      exact congrArg Except.error (Except.error.inj read)
    | ok reply =>
      rw [ran] at read
      cases read

/-- The body of a formula that was read has a derivation against its parameters. -/
theorem parse_reads (parsed : Lambda.parse world namespaces declared receiver source = .ok lambda) :
    lambda.params.Numbered ∧ ∃ s t, s.Proper ∧
      Reader.Reads ⟨world, namespaces, lambda.params⟩ (.expression 0 none) s lambda.body t := by
  obtain ⟨tokens, lexed, parsed⟩ := except_then.mp parsed
  obtain ⟨⟨read, rest⟩, ran, same⟩ := except_then.mp parsed
  cases same
  have proper : (Stream.ofTokens tokens).Proper := Token.tokenize_proper (tokenize_of_tokensOf lexed)
  obtain ⟨params, m, bound, ran⟩ := Reader.bind_yields.mp ran
  obtain ⟨body, n, read, ran⟩ := Reader.bind_yields.mp ran
  simp only [Reader.peek_then] at ran
  split at ran
  case isTrue =>
    obtain ⟨rfl, rfl⟩ := Reader.pure_yields.mp ran
    obtain ⟨numbered, proper⟩ :=
      Reader.parameters_numbered (Parameters.ofInstance_numbered receiver) proper bound
    exact ⟨numbered, m, n, proper, Reader.expression_reads read⟩
  case isFalse => simp at ran

/-- Every tree that is read obeys the typing discipline: whatever the source, the registered types,
the declared parameters, the default instance and the namespaces are. -/
theorem parse_wellTyped {registry : Registry} (parsed :
      Lambda.parse registry.toUniverse namespaces declared receiver source = .ok lambda) :
    WellTyped ⟨registry.toUniverse, namespaces, lambda.params⟩ lambda.body := by
  obtain ⟨numbered, s, t, proper, reads⟩ := parse_reads parsed
  exact reads.typed registry.toUniverse_lawful numbered proper

/-- An indexer, a creation with a member that is assigned, and the conversions between them. -/
theorem parse_wellTyped_particle :
    let registry := (Registry.empty.register (Library.particleClass Registry.empty)).2
    ∃ lambda, Lambda.parse registry.toUniverse ["Physics"]
        (some [⟨some "p", some (.named "Physics.Particle")⟩]) none
        "p[0] == null ? new Particle() \x7b Mass = 1, \x7d : p.Scaled(p.Energy)" = .ok lambda ∧
      WellTyped ⟨registry.toUniverse, ["Physics"], lambda.params⟩ lambda.body := by
  intro registry
  obtain ⟨lambda, parsed, -⟩ : ∃ lambda, Lambda.parse registry.toUniverse ["Physics"]
      (some [⟨some "p", some (.named "Physics.Particle")⟩]) none
      "p[0] == null ? new Particle() \x7b Mass = 1, \x7d : p.Scaled(p.Energy)" = .ok lambda ∧
      lambda.params.list.length = 1 := exists_ok_that (by decide +kernel)
  exact ⟨lambda, parsed, parse_wellTyped parsed⟩

end Lambda
end Formula
