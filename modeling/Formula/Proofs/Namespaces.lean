import Formula.Proofs.Ancestry
import Formula.Proofs.TypeTexts

/-! What namespaces do to a qualified name. The path in the parentheses of `typeof` is followed part
by part, and the reader stops at the first part up to which it names a type; if that is not the last
one, a dot stands where the closing parenthesis is expected. The namespaces are asked for every part
of the way, so a qualified name is read as it is without them exactly where none of them has a type
under what stands before one of its dots. -/
namespace Formula

/-- A dotted name leads to a type: the name as a whole stands for it, and no shorter one for any. -/
def Scope.Leads (scope : Scope) (first : String) (others : List String) (ty : Ty) : Prop :=
  (∀ count < others.length, scope.resolveName (dotted first (others.take count)) = none) ∧
    scope.resolveName (dotted first others) = some ty

namespace Scope

variable {scope : Scope} {first part : String} {others : List String} {ty : Ty}

theorem leads_nil : scope.Leads first [] ty ↔ scope.resolveName first = some ty := by
  simp [Leads, dotted]

/-- A longer name leads on where its first part stands for nothing. -/
theorem leads_cons : scope.Leads first (part :: others) ty ↔
    scope.resolveName first = none ∧ scope.Leads (first ++ "." ++ part) others ty := by
  constructor
  · rintro ⟨shorter, whole⟩
    refine ⟨shorter 0 (Nat.succ_pos _), ?_, whole⟩
    intro count fewer
    exact shorter (count + 1) (Nat.succ_lt_succ fewer)
  · rintro ⟨unknown, shorter, whole⟩
    refine ⟨?_, whole⟩
    intro count fewer
    cases count with
    | zero => exact unknown
    | succ count => exact shorter count (Nat.lt_of_succ_lt_succ fewer)

end Scope

namespace Reader

section Paths

variable {scope : Scope} {readTy : Attempt Ty} {s m n t : Stream} {first name : String}
  {others : List String} {ty : Ty}

/-- Along a dotted path that is closed behind, the reader stops before a dot or at the end. -/
theorem pathFrom_dotted {fuel : Nat} (found : pathFrom scope readTy fuel name s = some (ty, n))
    (passes : Passes s (dotWords others) m) (closes : m.kind = .rightParen) :
    n.kind = .dot ∨ n = m ∧ scope.Leads name others ty := by
  induction others generalizing fuel name s with
  | nil =>
    cases passes
    cases fuel with
    | zero => cases found
    | succ fuel =>
      simp only [pathFrom, generic_none (by simp [closes] : m.kind ≠ .less)] at found
      split at found
      case h_1 known =>
        cases found
        exact .inr ⟨rfl, Scope.leads_nil.mpr known⟩
      case h_2 => simp [closes] at found
  | cons part others ih =>
    obtain ⟨dot, -, passes⟩ := passes.of_symbol (by decide)
    obtain ⟨-, lexeme, -, passes⟩ := passes.of_name
    cases fuel with
    | zero => cases found
    | succ fuel =>
      simp only [pathFrom, generic_none (by simp [dot] : s.kind ≠ .less)] at found
      split at found
      case h_1 known =>
        cases found
        exact .inl dot
      case h_2 unknown =>
        split at found
        case isTrue =>
          rcases ih found passes with stopped | ⟨same, leads⟩
          · exact .inl stopped
          · rw [lexeme] at leads
            exact .inr ⟨same, Scope.leads_cons.mpr ⟨unknown, leads⟩⟩
        case isFalse => cases found

/-- What is read for a type in front of a closing parenthesis is what the whole path leads to. -/
theorem type_dotted (read : type? scope s = some (ty, n)) (ends : n.kind = .rightParen)
    (passes : Passes s (.name first :: dotWords others) m) (closes : m.kind = .rightParen) :
    n = m ∧ scope.Leads first others ty := by
  obtain ⟨named, lexeme, -, passes⟩ := passes.of_name
  simp only [type?, typeWithin, path, named, ↓reduceIte, lexeme, Option.map_eq_some_iff] at read
  obtain ⟨⟨plain, k⟩, path, marked⟩ := read
  -- Neither a dot nor the closing parenthesis is a mark behind a type.
  have noMark : ∀ {kind : TokenKind}, kind ∉ [.dot, .rightParen] → k.kind ≠ kind := by
    rintro kind other rfl
    apply other
    rcases pathFrom_dotted path passes closes with dot | ⟨rfl, -⟩
    · simp [dot]
    · simp [closes]
  have noArray : withArrays k.rest.length plain k = (plain, k) := by
    cases k.rest.length with
    | zero => rfl
    | succ fuel => simp [withArrays, noMark (by decide : TokenKind.leftBracket ∉ _)]
  simp only [withNullable, noMark (by decide : TokenKind.question ∉ _), false_and, ↓reduceIte,
    noArray, Prod.mk.injEq] at marked
  obtain ⟨rfl, rfl⟩ := marked
  rcases pathFrom_dotted path passes closes with dot | leads
  · cases dot.symm.trans ends
  · exact leads

/-- A path in front of a closing parenthesis is read as the type that it leads to. -/
theorem dotted_type (leads : scope.Leads first others ty)
    (passes : Passes s (.name first :: dotWords others) m) (closed : s.Closed)
    (closes : m.kind = .rightParen) : type? scope s = some (ty, m) := by
  have path : Spelled scope (.path first) (dotWords others ++ []) ty :=
    spelled_path leads.1 (.named leads.2)
  have whole := Spelled.whole path (.plain .none)
  rw [List.append_nil, List.append_nil] at whole
  exact type_found whole passes closed (.inl (by simp [closes]))

/-- Behind the keyword stands a type in parentheses. -/
theorem typeOf_operand {inside : Option Bracket} {e : Expr} (keyword : s.kind = .typeOf)
    (reads : Reads scope (.operand inside) s e t) : ∃ ty m,
      type? scope s.next.next = some (ty, m) ∧ m.kind = .rightParen ∧ t = m.next ∧
        e = .typeOf ⟨typeClass, m.next.spanFrom s.peek.span⟩ ty := by
  have other : ∀ {kind : TokenKind}, s.kind = kind → .typeOf = kind := fun is => keyword.symm.trans is
  cases reads with
  | typeOf _ _ named closes => exact ⟨_, _, named, closes, rfl, rfl⟩
  | literal constant =>
    rw [Stream.kind] at keyword
    simp [constant?, keyword] at constant
  | sign signed => simp [isSign, keyword] at signed
  | cast opens | group opens => cases other opens
  | arrayItems new | arrayLength new | create new => cases other new
  | sizeOf keyword' => cases other keyword'
  | parameter name | defaultCall name | defaultMember name => cases other name
  | staticCall begins | staticMember begins => cases other begins.1

/-- What stands up to the end behind an operand without operators is the operand. -/
theorem operand_alone {e left : Expr} (isEnd : s.kind = .endOfInput)
    (reads : Reads scope (.operators 0 none left) s e t) : e = left ∧ t = s := by
  cases reads with
  | done => exact ⟨rfl, rfl⟩
  | more goesOn => exact absurd isEnd (ne_end_of_goesOn goesOn)

end Paths

/-- Names with dots between them may stand beside each other. -/
theorem fluent_dotted (first : String) (others : List String) :
    Fluent (.name first :: dotWords others) := by
  induction others generalizing first with
  | nil => exact .one first
  | cons part others ih =>
    refine (Fluent.one first).between (by decide) ?_ (ih part)
    rintro last ⟨⟩
    exact .goesOn (by decide)

/-- The tokens of a dotted name in the parentheses of `typeof` are read as the type that the name
leads to, and as nothing else. -/
theorem typeOf_dotted {first : String} {others : List String}
    {keyword opening ending : Token} {tokens : List Token}
    (covers : Covers ((.name first :: dotWords others) ++ [.symbol .rightParen]) tokens)
    (isKeyword : keyword.kind = .typeOf) (opens : opening.kind = .leftParen)
    (isEnd : ending.kind = .endOfInput) :
    let s := Stream.ofTokens (keyword :: opening :: (tokens ++ [ending]))
    ∃ span t, t.kind = .endOfInput ∧ ∀ scope e n, Reads scope (.expression 0 none) s e n ↔
      n = t ∧ ∃ ty, scope.Leads first others ty ∧ e = .typeOf ⟨typeClass, span⟩ ty := by
  intro s
  have start : s.Before (keyword :: opening :: (tokens ++ [ending])) := Stream.before_ofTokens
  have second := start.next (by simp)
  have inner : s.next.next.Before (tokens ++ [ending]) := second.next (by simp)
  have closed := inner.closed (.append covers.noEnd (.last isEnd))
  obtain ⟨t, passed, last⟩ := covers.passes inner (by simp)
  obtain ⟨m, passes, behind⟩ := passed.split
  obtain ⟨closes, -, behind⟩ := behind.of_symbol (by decide)
  cases behind
  have ended : m.next.kind = .endOfInput := last.kind.trans isEnd
  refine ⟨m.next.spanFrom s.peek.span, m.next, ended, ?_⟩
  intro scope e n
  constructor
  · intro reads
    cases reads with
    | expression operand more =>
      obtain ⟨ty, m', named, closes', rfl, rfl⟩ :=
        typeOf_operand (start.kind.trans isKeyword) operand
      obtain ⟨rfl, leads⟩ := type_dotted named closes' passes closes
      obtain ⟨rfl, rfl⟩ := operand_alone ended more
      exact ⟨rfl, ty, leads, rfl⟩
  · rintro ⟨rfl, ty, leads, rfl⟩
    have named := dotted_type leads passes closed closes
    refine .expression (.typeOf (start.kind.trans isKeyword) (second.kind.trans opens) named closes)
      (.done (.inl ?_))
    rw [Stream.kind] at ended
    simp [endsBefore, ended]

end Reader

namespace Lambda

open Reader

/-- What stands in the parentheses of `typeof` as a dotted name is read as the type that it leads to,
and as nothing else. -/
theorem parse_dotted {first : String} {others : List String}
    (parts : ∀ part ∈ first :: others, Lexeme.isName part) :
    ∃ span, ∀ world namespaces declared receiver lambda,
      Lambda.parse world namespaces declared receiver ("typeof(" ++ dotted first others ++ ")")
          = .ok lambda ↔
        ∃ ty, Scope.Leads ⟨world, namespaces, bindDeclared (.ofInstance receiver) declared⟩
            first others ty ∧
          lambda = ⟨bindDeclared (.ofInstance receiver) declared, .typeOf ⟨typeClass, span⟩ ty⟩ := by
  have inType := dotted_inType parts
  have text : (Ty.cls (dotted first others) []).text.toList
      = Lexeme.compact (.name first :: dotWords others) := by
    rw [Ty.text, List.isEmpty_nil, if_pos rfl, dotted_chars]
    rfl
  obtain ⟨tokens, ending, read, matched, isEnd⟩ :=
    Token.tokenize_lexed (Registry.lexed_typeOf text inType (fluent_dotted first others))
  simp only [List.forall₂_map_left_iff, Lexeme.toScan_matches] at matched
  obtain ⟨keyword, others', head, behind, rfl⟩ := List.forall₂_cons_left_iff.mp matched
  obtain ⟨opening, tokens, next, more, rfl⟩ := List.forall₂_cons_left_iff.mp behind
  have isKeyword : keyword.kind = .typeOf := head.1
  have opens : opening.kind = .leftParen := next.1
  have covers := Lexeme.covers_merged more (Lexeme.inType_snoc (by decide) inType)
  obtain ⟨span, t, isLast, reads⟩ := typeOf_dotted covers isKeyword opens isEnd
  refine ⟨span, ?_⟩
  intro world namespaces declared receiver lambda
  have found : tokensOf ("typeof(" ++ dotted first others ++ ")")
      = .ok (keyword :: opening :: (tokens ++ [ending])) := by
    have spelled : (Ty.cls (dotted first others) []).text = dotted first others := by simp [Ty.text]
    rw [spelled] at read
    rw [tokensOf, read, CompileError.ofTokens]
    rfl
  have start : (Stream.ofTokens (keyword :: opening :: (tokens ++ [ending]))).Before _ :=
    Stream.before_ofTokens
  have closed := start.closed (.cons (by simp [isKeyword])
    (.cons (by simp [opens]) (.append covers.noEnd (.last isEnd))))
  have noName := (start.kind.trans isKeyword).trans_ne (by simp : TokenKind.typeOf ≠ .identifier)
  have noParen := (start.kind.trans isKeyword).trans_ne (by simp : TokenKind.typeOf ≠ .leftParen)
  rw [parse_headless_iff found closed (header_begins noName noParen)]
  simp only [reads]
  constructor
  · rintro ⟨inForce, n, ⟨rfl, ty, leads, same⟩, -⟩
    obtain ⟨params', body⟩ := lambda
    subst inForce same
    exact ⟨ty, leads, rfl⟩
  · rintro ⟨ty, leads, rfl⟩
    exact ⟨rfl, t, ⟨rfl, ty, leads, rfl⟩, isLast⟩

end Lambda

namespace Registry

open Reader

variable {registry : Registry} {namespaces : List String} {params : Parameters} {name first : String}
  {others : List String} {entry : Entry}

/-- A keyword and a built-in name stand for their types whatever is registered under them. -/
def reserved? (name : String) : Option Ty := (Ty.ofKeyword? name).or (Ty.builtin? name)

theorem typeOfName_eq :
    registry.typeOfName? name = (reserved? name).or ((registry.get? name).map (·.ty)) := by
  rw [typeOfName?, resolveName, reserved?, Option.or_assoc]

/-- A name stands for nothing where it does not without namespaces and none of those has it. -/
theorem resolveName_eq_none :
    Scope.resolveName ⟨registry.toUniverse, namespaces, params⟩ name = none ↔
      registry.typeOfName? name = none ∧
        ∀ space ∈ namespaces, registry.resolveName (space ++ "." ++ name) = none := by
  simp only [Scope.resolveName, typeOfName?, toUniverse, Option.or_eq_none_iff,
    List.findSome?_eq_none_iff, and_assoc]

/-- What a name stands for without namespaces, it stands for with them. -/
theorem resolveName_of_typeOfName {ty : Ty} (known : registry.typeOfName? name = some ty) :
    Scope.resolveName ⟨registry.toUniverse, namespaces, params⟩ name = some ty := by
  rw [Scope.resolveName, ← Option.or_assoc]
  exact Option.or_eq_some_iff.mpr (.inl known)

/-- A registered name with no registered name, keyword or built-in name before one of its dots leads
to its entry's type exactly where it is not itself reserved for another and no namespace has a type
under what stands before one of its dots. -/
theorem leads_iff
    (shortest : ∀ count < others.length, registry.typeOfName? (dotted first (others.take count)) = none)
    (registered : registry.get? (dotted first others) = some entry) :
    Scope.Leads ⟨registry.toUniverse, namespaces, params⟩ first others entry.ty ↔
      (∀ ty, reserved? (dotted first others) = some ty → ty = entry.ty) ∧
        ∀ space ∈ namespaces, ∀ count < others.length,
          registry.resolveName (space ++ "." ++ dotted first (others.take count)) = none := by
  have known : ∃ ty, registry.typeOfName? (dotted first others) = some ty ∧
      (ty = entry.ty ↔ ∀ ty, reserved? (dotted first others) = some ty → ty = entry.ty) := by
    rw [typeOfName_eq, registered]
    cases reserved? (dotted first others) <;> simp
  obtain ⟨ty, known, isEntry⟩ := known
  have whole := @resolveName_of_typeOfName _ namespaces params _ _ known
  rw [Scope.Leads, whole, ← isEntry, Option.some_inj, and_comm]
  apply and_congr_right
  intro _
  constructor
  · intro unknown space member count fewer
    exact (resolveName_eq_none.mp (unknown count fewer)).2 space member
  · intro unshadowed count fewer
    exact resolveName_eq_none.mpr
      ⟨shortest count fewer, fun space member => unshadowed space member count fewer⟩

/-- The qualified name of a registered class is read as that class, in the same places whatever the
namespaces are, exactly where it is not reserved for another type and no namespace has a type under
what stands before one of its dots. -/
theorem parse_qualified (parts : ∀ part ∈ first :: others, Lexeme.isName part)
    (shortest : ∀ count < others.length, registry.typeOfName? (dotted first (others.take count)) = none)
    (registered : registry.get? (dotted first others) = some entry)
    (declared : Option (List ParamSpec)) (receiver : Option Ty) :
    ∃ span, ∀ namespaces,
      Lambda.parse registry.toUniverse namespaces declared receiver
          ("typeof(" ++ dotted first others ++ ")")
          = .ok ⟨bindDeclared (.ofInstance receiver) declared, .typeOf ⟨typeClass, span⟩ entry.ty⟩ ↔
        (∀ ty, reserved? (dotted first others) = some ty → ty = entry.ty) ∧
          ∀ space ∈ namespaces, ∀ count < others.length,
            registry.resolveName (space ++ "." ++ dotted first (others.take count)) = none := by
  obtain ⟨span, parsed⟩ := Lambda.parse_dotted parts
  refine ⟨span, ?_⟩
  intro namespaces
  rw [parsed, ← leads_iff shortest registered]
  constructor
  · rintro ⟨ty, leads, same⟩
    cases same
    exact leads
  · intro leads
    exact ⟨entry.ty, leads, rfl⟩

/-- Two namespaces with classes of the same simple name, in either order and without them. -/
theorem parse_qualified_gauge :
    let registry := empty.registerAll [empty.newClass "Imperial.Gauge", empty.newClass "Metric.Gauge"]
    ∃ span, ∀ namespaces ∈ [[], ["Metric", "Imperial"], ["Imperial", "Metric"]],
      Lambda.parse registry.toUniverse namespaces none none "typeof(Imperial.Gauge)"
        = .ok ⟨⟨[], false⟩, .typeOf ⟨typeClass, span⟩ (.named "Imperial.Gauge")⟩ := by
  intro registry
  obtain ⟨span, parsed⟩ := @parse_qualified registry "Imperial" ["Gauge"] _ (by decide)
    (by decide +kernel) rfl none none
  have known : ∀ ty, reserved? (dotted "Imperial" ["Gauge"]) = some ty →
      ty = .named "Imperial.Gauge" := by
    intro ty taken
    cases (show reserved? (dotted "Imperial" ["Gauge"]) = none by decide +kernel).symm.trans taken
  have unshadowed : ∀ namespaces ∈ [[], ["Metric", "Imperial"], ["Imperial", "Metric"]],
      ∀ space ∈ namespaces, ∀ count < 1,
        registry.resolveName (space ++ "." ++ dotted "Imperial" (["Gauge"].take count)) = none := by
    decide +kernel
  exact ⟨span, fun namespaces listed => (parsed namespaces).mpr ⟨known, unshadowed namespaces listed⟩⟩

/-- Where a namespace has a class under the first part of a qualified name, the name is not read any
more, and a class with a built-in name is read as the built-in type. -/
theorem parse_shadowed :
    let registry := empty.registerAll [empty.newClass "Demo.Shape", empty.newClass "X.Demo"]
    let builtin := empty.registerAll [empty.newClass "System.Int32"]
    registry.contains "Demo.Shape" ∧ registry.typeOfName? "Demo" = none ∧
      (∃ span, Lambda.parse registry.toUniverse [] none none "typeof(Demo.Shape)"
        = .ok ⟨⟨[], false⟩, .typeOf ⟨typeClass, span⟩ (.named "Demo.Shape")⟩) ∧
      (∀ lambda, Lambda.parse registry.toUniverse ["X"] none none "typeof(Demo.Shape)" ≠ .ok lambda) ∧
      builtin.contains "System.Int32" ∧ builtin.typeOfName? "System" = none ∧
      ∃ span, Lambda.parse builtin.toUniverse [] none none "typeof(System.Int32)"
        = .ok ⟨⟨[], false⟩, .typeOf ⟨typeClass, span⟩ .int⟩ := by
  intro registry builtin
  obtain ⟨span, shape⟩ := @Lambda.parse_dotted "Demo" ["Shape"] (by decide)
  obtain ⟨span', int⟩ := @Lambda.parse_dotted "System" ["Int32"] (by decide)
  refine ⟨by decide, by decide +kernel, ⟨span, ?_⟩, ?_, by decide, by decide +kernel, span', ?_⟩
  · exact (shape registry.toUniverse [] none none _).mpr
      ⟨_, ⟨by decide +kernel, by decide +kernel⟩, rfl⟩
  · intro lambda parsed
    obtain ⟨ty, ⟨unknown, -⟩, -⟩ := (shape registry.toUniverse ["X"] none none _).mp parsed
    exact absurd (unknown 0 (by decide)) (by decide +kernel)
  · exact (int builtin.toUniverse [] none none _).mpr
      ⟨_, ⟨by decide +kernel, by decide +kernel⟩, rfl⟩

end Registry
end Formula
