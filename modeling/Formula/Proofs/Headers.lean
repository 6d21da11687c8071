import Formula.Proofs.Parentheses
import Formula.Proofs.TokenOrder
import Formula.Proofs.TypeNames
import Mathlib.Tactic.TFAE

/-! Where the parameters in force come from. A signature may declare their names and types, a header
may name those that are declared, and a header may say both; whichever it is, the same parameters
are in force in front of the same body. Two facts carry this. The text of a type is read back in a
header because what the reader takes for a type depends on its words alone and on what may stand
behind a type, a name and a comma among it. And a body is read alike wherever its words stand. -/
namespace Formula

/-- More parameters in force, one by one. -/
def Parameters.pushAll (params : Parameters) (pairs : List (String × Ty)) : Parameters :=
  pairs.foldl (fun params pair => params.push pair.1 pair.2) params

namespace Reader

/-- A parameter of a header has a type by what is written or by what is declared, not by both. -/
def SettledBy (param : HeaderParam) (specs : List ParamSpec) (ty : Ty) : Prop :=
  param.ty = some ty ∧ specs.head?.bind (·.ty) = none ∨
    param.ty = none ∧ specs.head?.bind (·.ty) = some ty

/-- The parameters of a header have these names and types. -/
inductive Settles : List HeaderParam → List ParamSpec → List (String × Ty) → Prop
  | nil : Settles [] specs []
  | cons {param : HeaderParam} (settled : SettledBy param specs ty)
      (rest : Settles header specs.tail pairs) :
      Settles (param :: header) specs ((param.name, ty) :: pairs)

section Binding

variable {params : Parameters} {pairs : List (String × Ty)} {header : List HeaderParam}
  {specs : List ParamSpec} {earlier : List String} {span : Span}

/-- Settled parameters are in force one by one, if their names are distinct. -/
theorem Settles.bound (settles : Settles header specs pairs)
    (distinct : (pairs.map (·.1)).Nodup) (fresh : ∀ name ∈ pairs.map (·.1), name ∉ earlier) :
    bindFrom params earlier header specs = .ok (params.pushAll pairs) := by
  induction settles generalizing params earlier with
  | nil => rfl
  | @cons specs ty header pairs param settled _ ih =>
    have ⟨unlike, others⟩ := List.nodup_cons.mp distinct
    have ⟨new, fresh⟩ := List.forall_mem_cons.mp fresh
    have later : ∀ name ∈ pairs.map (·.1), name ∉ param.name :: earlier := by
      intro name listed
      rw [List.mem_cons, not_or]
      exact ⟨fun same => unlike (same ▸ listed), fresh name listed⟩
    have goesOn := @ih (params.push param.name ty) (param.name :: earlier) others later
    have first : bindFrom params earlier (param :: header) specs =
        bindFrom (params.push param.name ty) (param.name :: earlier) header specs.tail := by
      obtain ⟨written, declared⟩ | ⟨written, declared⟩ := settled <;>
        simp [bindFrom, new, written, declared]
    rw [first, goesOn]
    rfl

theorem Settles.length_eq (settles : Settles header specs pairs) :
    header.length = pairs.length := by
  induction settles with
  | nil => rfl
  | cons _ _ ih => simp [ih]

/-- A header gives parameters these names, and the types that it writes for theirs. -/
abbrev Heading (given : Ty → Option Ty) : List HeaderParam → List (String × Ty) → Prop :=
  List.Forall₂ fun param pair => param.name = pair.1 ∧ param.ty = given pair.2

theorem Heading.written (heading : Heading some header pairs)
    (untyped : ∀ spec ∈ specs, spec.ty = none) : Settles header specs pairs := by
  induction heading generalizing specs with
  | nil => exact .nil
  | @cons param pair _ _ first _ ih =>
    obtain ⟨name, ty⟩ := pair
    obtain ⟨rfl, types⟩ := first
    have others : ∀ spec ∈ specs.tail, spec.ty = none :=
      fun spec listed => untyped spec (List.mem_of_mem_tail listed)
    refine .cons (.inl ⟨types, ?_⟩) (ih others)
    cases specs with
    | nil => rfl
    | cons spec specs => exact untyped spec List.mem_cons_self

theorem Heading.declared (heading : Heading (fun _ => none) header pairs) :
    Settles header (pairs.map fun pair => ⟨none, some pair.2⟩) pairs := by
  induction heading with
  | nil => exact .nil
  | @cons param pair _ _ first _ ih =>
    obtain ⟨name, ty⟩ := pair
    obtain ⟨rfl, untyped⟩ := first
    exact .cons (.inr ⟨untyped, rfl⟩) ih

/-- A header that writes all types is bound whatever names and however many untyped parameters are
declared, as long as there are as many. -/
theorem bindHeader_written {declared : Option (List ParamSpec)}
    (heading : Heading some header pairs) (distinct : (pairs.map (·.1)).Nodup)
    (untyped : ∀ specs ∈ declared, specs.length = pairs.length ∧ ∀ spec ∈ specs, spec.ty = none) :
    bindHeader params header declared span = .ok (params.pushAll pairs) := by
  cases declared with
  | none =>
    have settles := heading.written (List.forall_mem_nil fun spec : ParamSpec => spec.ty = none)
    exact settles.bound distinct (by simp)
  | some specs =>
    obtain ⟨many, untyped⟩ := untyped specs rfl
    have settles := heading.written untyped
    rw [bindHeader, if_pos (settles.length_eq.trans many.symm)]
    exact settles.bound distinct (by simp)

theorem bindHeader_declared (heading : Heading (fun _ => none) header pairs)
    (distinct : (pairs.map (·.1)).Nodup) :
    bindHeader params header (some (pairs.map fun pair => ⟨none, some pair.2⟩)) span =
      .ok (params.pushAll pairs) := by
  have settles := heading.declared
  rw [bindHeader, if_pos (by simp [settles.length_eq])]
  exact settles.bound distinct (by simp)

theorem bindDeclared_pairs :
    bindDeclared params (some (pairs.map fun pair => ⟨some pair.1, some pair.2⟩)) =
      params.pushAll pairs := by
  unfold bindDeclared Parameters.pushAll
  generalize 0 = start
  rw [Option.getD_some]
  induction pairs generalizing params start with
  | nil => rfl
  | cons pair pairs ih => exact ih (start + 1)

end Binding

section Reading

variable {scope : Scope} {s m t : Stream} {ty : Option Ty} {fuel : Nat}

/-- What is read in front of a name is handed on to what comes behind. -/
theorem Front.read {β : Type} {rest : Option Ty → Attempt β} (front : Front scope s ty m) :
    (if s.peek.kind = .identifier ∧ (s.next.kind = .comma ∨ s.next.kind = .rightParen) then
        pure none >>= rest
      else some <$> type? scope >>= rest) s = rest ty m := by
  cases front with
  | bare named behind =>
    have isBare : s.peek.kind = .identifier ∧ _ := ⟨named, behind⟩
    rw [if_pos isBare]
    rfl
  | typed behind read =>
    rw [if_neg fun isBare => behind isBare.2]
    have typed : (some <$> type? scope >>= rest) s =
        (type? scope s).bind fun reply => rest (some reply.1) reply.2 := by
      rw [map_eq_pure_bind, bind_assoc]
      rfl
    rw [typed, read, Option.bind_some]

theorem headerFrom_last (front : Front scope s ty m) (named : m.kind = .identifier)
    (closes : m.next.kind = .rightParen) :
    ∃ span, headerFrom scope (fuel + 1) s = some ([⟨m.peek.lexeme, ty, span⟩], m.next.next) := by
  have noComma : m.next.eat? .comma = none := by simp [Stream.eat?, closes]
  have ate : m.next.eat? .rightParen = some m.next.next := by simp [Stream.eat?, closes]
  have name : m.peek.kind = .identifier := named
  refine ⟨s.peek.span.join m.peek.span, ?_⟩
  simp only [headerFrom, get_then, Stream.kindAt_one]
  rw [front.read, get_then, if_neg (not_not_intro name)]
  simp only [noComma, ate]
  rfl

theorem headerFrom_more {others : List HeaderParam} (front : Front scope s ty m)
    (named : m.kind = .identifier) (comma : m.next.kind = .comma)
    (rest : headerFrom scope fuel m.next.next = some (others, t)) :
    ∃ span, headerFrom scope (fuel + 1) s = some (⟨m.peek.lexeme, ty, span⟩ :: others, t) := by
  have ate : m.next.eat? .comma = some m.next.next := by simp [Stream.eat?, comma]
  have name : m.peek.kind = .identifier := named
  refine ⟨s.peek.span.join m.peek.span, ?_⟩
  simp only [headerFrom, get_then, Stream.kindAt_one]
  rw [front.read, get_then, if_neg (not_not_intro name)]
  simp only [ate, set_then]
  exact bind_comes.mpr ⟨_, _, rest, rfl⟩

end Reading

/-- The tokens of parameters up to the closing parenthesis, each name behind what is written for the
type. -/
inductive Listed (written : Ty → List Token → Prop) : List (String × Ty) → List Token → Prop
  | last {name closing : Token} (front : written ty tokens) (named : name.kind = .identifier)
      (closes : closing.kind = .rightParen) :
      Listed written [(name.lexeme, ty)] (tokens ++ [name, closing])
  | more {name comma : Token} (front : written ty tokens) (named : name.kind = .identifier)
      (isComma : comma.kind = .comma) (rest : Listed written pairs others) :
      Listed written ((name.lexeme, ty) :: pairs) (tokens ++ name :: comma :: others)

/-- The tokens of a header: parameters in parentheses, or none, and an arrow. -/
inductive Heads (written : Ty → List Token → Prop) : List (String × Ty) → List Token → Prop
  | empty {opening closing arrow : Token} (opens : opening.kind = .leftParen)
      (closes : closing.kind = .rightParen) (isArrow : arrow.kind = .fatArrow) :
      Heads written [] [opening, closing, arrow]
  | listed {opening arrow : Token} (opens : opening.kind = .leftParen)
      (parts : Listed written pairs tokens) (isArrow : arrow.kind = .fatArrow) :
      Heads written pairs (opening :: (tokens ++ [arrow]))

/-- What is written for a type has no end in it, and is read in front of a name as what it gives. -/
structure Fronts (scope : Scope) (written : Ty → List Token → Prop) (given : Ty → Option Ty) :
    Prop where
  noEnd : ∀ ty tokens, written ty tokens → ∀ token ∈ tokens, token.kind ≠ .endOfInput
  read : ∀ ty tokens, written ty tokens → ∀ (s : Stream) (name behind : Token) (rest : List Token),
    name.kind = .identifier → behind.kind = .comma ∨ behind.kind = .rightParen →
    Ended (tokens ++ name :: behind :: rest) → s.Before (tokens ++ name :: behind :: rest) →
    ∃ m, Front scope s (given ty) m ∧ m.Before (name :: behind :: rest)

section Lists

variable {scope : Scope} {written : Ty → List Token → Prop} {given : Ty → Option Ty}
  {pairs : List (String × Ty)} {tokens rest : List Token} {s : Stream} {fuel : Nat}

theorem Listed.read (listed : Listed written pairs tokens) (fronts : Fronts scope written given)
    (before : s.Before (tokens ++ rest)) (ended : Ended (tokens ++ rest)) (more : rest ≠ [])
    (enough : s.rest.length ≤ fuel) :
    s.kind = .identifier ∧ ∃ header m, headerFrom scope fuel s = some (header, m) ∧
      Heading given header pairs ∧ m.Before rest := by
  induction listed generalizing s fuel with
  | @last ty tokens name closing front named closes =>
    rw [List.append_assoc] at before ended
    obtain ⟨m, first, stands⟩ :=
      fronts.read ty tokens front s name closing rest named (.inr closes) ended before
    have next := stands.next (List.cons_ne_nil _ _)
    have some := (before.closed ended).nonempty
    obtain ⟨fuel, rfl⟩ := Nat.exists_eq_succ_of_ne_zero (by omega : fuel ≠ 0)
    obtain ⟨span, read⟩ := @headerFrom_last _ _ _ _ fuel first (stands.kind.trans named)
      (next.kind.trans closes)
    have lexeme : m.peek.lexeme = name.lexeme := congrArg Token.lexeme stands.peek
    exact ⟨first.named, _, _, read, .cons ⟨lexeme, rfl⟩ .nil, next.next more⟩
  | @more ty tokens pairs others name comma front named isComma _ ih =>
    rw [List.append_assoc] at before ended
    obtain ⟨m, first, stands⟩ :=
      fronts.read ty tokens front s name comma (others ++ rest) named (.inl isComma) ended before
    have next := stands.next (List.cons_ne_nil _ _)
    have left := List.append_ne_nil_of_right_ne_nil others more
    have last := next.next left
    -- A name and a comma are behind the reader, so a step fewer is enough for the others.
    have short : s.rest.length = tokens.length + (2 + m.next.next.rest.length) := by
      rw [before.rest, last.rest]
      simp only [List.length_append, List.length_cons]
      omega
    obtain ⟨fuel, rfl⟩ := Nat.exists_eq_succ_of_ne_zero (by omega : fuel ≠ 0)
    have ended : Ended (others ++ rest) :=
      (@Ended.split [name, comma] _ (ended.split (List.cons_ne_nil _ _)).2 left).2
    obtain ⟨-, header, t, read, heading, behind⟩ := @ih m.next.next fuel last ended (by omega)
    obtain ⟨span, read⟩ := headerFrom_more first (stands.kind.trans named)
      (next.kind.trans isComma) read
    have lexeme : m.peek.lexeme = name.lexeme := congrArg Token.lexeme stands.peek
    exact ⟨first.named, _, t, read, .cons ⟨lexeme, rfl⟩ heading, behind⟩

theorem header_inParens (opens : s.kind = .leftParen) :
    header? scope s = headerInParens scope s := by
  have noName : ¬ (s.peek.kind = .identifier ∧ s.kindAt 1 = .fatArrow) := by
    rintro ⟨named, -⟩
    exact absurd (opens.symm.trans named) (by simp)
  have opened : s.peek.kind = .leftParen := opens
  simp only [header?, get_then]
  rw [if_neg noName, if_pos opened]

theorem header_empty (opens : s.kind = .leftParen) (closes : s.next.kind = .rightParen)
    (arrow : s.next.next.kind = .fatArrow) :
    header? scope s = some ([], s.next.next.next) := by
  have closed : s.next.eat? .rightParen = some s.next.next := Stream.eat_eq.mpr ⟨closes, rfl⟩
  have ate : s.next.next.eat? .fatArrow = some s.next.next.next := Stream.eat_eq.mpr ⟨arrow, rfl⟩
  rw [header_inParens opens]
  simp only [headerInParens, get_then, closed, set_then, pure_bind, ate]
  rfl

theorem header_listed {header : List HeaderParam} {m : Stream} (opens : s.kind = .leftParen)
    (named : s.next.kind = .identifier)
    (read : headerFrom scope s.next.rest.length s.next = some (header, m))
    (arrow : m.kind = .fatArrow) : header? scope s = some (header, m.next) := by
  have noClosing : s.next.eat? .rightParen = none := by simp [Stream.eat?, named]
  have ate : m.eat? .fatArrow = some m.next := Stream.eat_eq.mpr ⟨arrow, rfl⟩
  rw [header_inParens opens]
  simp only [headerInParens, get_then, noClosing, set_then]
  refine bind_comes.mpr ⟨header, m, read, ?_⟩
  simp only [get_then, ate]
  rfl

/-- A header is read as its names, with what is given for their types. -/
theorem Heads.read (heads : Heads written pairs tokens) (fronts : Fronts scope written given)
    (before : s.Before (tokens ++ rest)) (ended : Ended (tokens ++ rest)) (more : rest ≠ []) :
    ∃ header m, header? scope s = some (header, m) ∧ Heading given header pairs ∧
      m.Before rest := by
  cases heads with
  | @empty opening closing arrow opens closes isArrow =>
    have first := before.next (List.cons_ne_nil _ _)
    have second := first.next (List.cons_ne_nil _ _)
    exact ⟨[], s.next.next.next, header_empty (before.kind.trans opens) (first.kind.trans closes)
      (second.kind.trans isArrow), .nil, second.next more⟩
  | @listed pairs tokens opening arrow opens listed isArrow =>
    rw [List.cons_append, List.append_assoc] at before ended
    have left : tokens ++ ([arrow] ++ rest) ≠ [] :=
      List.append_ne_nil_of_right_ne_nil _ (List.cons_ne_nil _ _)
    have first := before.next left
    have ended : Ended (tokens ++ ([arrow] ++ rest)) := (@Ended.split [opening] _ ended left).2
    obtain ⟨named, header, m, read, heading, behind⟩ :=
      listed.read fronts first ended (List.cons_ne_nil _ _) (Nat.le_refl _)
    exact ⟨header, m.next, header_listed (before.kind.trans opens) named read
      (behind.kind.trans isArrow), heading, behind.next more⟩

theorem Listed.noEnd (listed : Listed written pairs tokens)
    (fronts : Fronts scope written given) : ∀ token ∈ tokens, token.kind ≠ .endOfInput := by
  induction listed with
  | last front named closes =>
    refine List.forall_mem_append.mpr ⟨fronts.noEnd _ _ front, ?_⟩
    simp [named, closes]
  | more front named isComma _ ih =>
    refine List.forall_mem_append.mpr ⟨fronts.noEnd _ _ front, ?_⟩
    refine List.forall_mem_cons.mpr ⟨by simp [named], ?_⟩
    exact List.forall_mem_cons.mpr ⟨by simp [isComma], ih⟩

/-- No end stands in a header. -/
theorem Heads.noEnd (heads : Heads written pairs tokens) (fronts : Fronts scope written given) :
    ∀ token ∈ tokens, token.kind ≠ .endOfInput := by
  cases heads with
  | empty opens closes isArrow => simp [opens, closes, isArrow]
  | listed opens listed isArrow =>
    refine List.forall_mem_cons.mpr ⟨by simp [opens], ?_⟩
    exact List.forall_mem_append.mpr ⟨listed.noEnd fronts, by simp [isArrow]⟩

end Lists

section Fronts

variable {scope : Scope} {pairs : List (String × Ty)} {s t : Stream} {words : List Lexeme}
  {ty : Ty} {tokens others rest : List Token} {part : String}

/-- Nothing is written for a type. -/
def Unwritten (_ : Ty) (tokens : List Token) : Prop := tokens = []

/-- A type is spelled out. -/
def SpelledOut (scope : Scope) (ty : Ty) (tokens : List Token) : Prop :=
  ∃ words, Spelled scope .whole words ty ∧ Covers words tokens

theorem fronts_unwritten : Fronts scope Unwritten (fun _ => none) := by
  constructor
  · rintro ty tokens rfl
    exact List.forall_mem_nil _
  · rintro ty tokens rfl s name behind rest named stands - before
    have next := before.next (List.cons_ne_nil _ _)
    refine ⟨s, .bare (before.kind.trans named) ?_, before⟩
    rwa [next.kind]

theorem Spelled.pathFirst (spelled : Spelled scope (.path part) words ty)
    (passes : Passes s words t) : s = t ∨ s.kind = .less ∨ s.kind = .dot := by
  cases spelled with
  | named =>
    cases passes
    exact .inl rfl
  | closed => exact .inr (.inl (passes.of_symbol (by decide)).1)
  | dotted => exact .inr (.inr (passes.of_symbol (by decide)).1)

/-- Behind the first name of a type comes what is behind the type, or a token of the type. -/
theorem Spelled.second (spelled : Spelled scope .whole words ty) (passes : Passes s words t) :
    s.next = t ∨ s.next.kind ∈ [.less, .dot, .question, .leftBracket] := by
  cases spelled with
  | whole path marks =>
    obtain ⟨m, front, behind⟩ := passes.of_name.2.2.2.split
    obtain same | less | dot := path.pathFirst front
    · obtain rfl | bracket | asks := marks.first behind
      · exact .inl same
      · exact .inr (by simp [same, bracket])
      · exact .inr (by simp [same, asks])
    · exact .inr (by simp [less])
    · exact .inr (by simp [dot])

theorem Covers.sameWords (covers : Covers words tokens)
    (same : List.Forall₂ Token.SameWord tokens others) : Covers words others := by
  induction covers generalizing others with
  | nil =>
    cases same
    exact .nil
  | word fits more _ ih =>
    cases same with
    | cons first rest =>
      refine .word ⟨first.kind ▸ fits.1, ?_⟩ (first.kind ▸ more) (ih rest)
      exact fun text named => first.lexeme ▸ fits.2 text named
  | shift shift _ ih =>
    cases same with
    | cons first rest => exact .shift (first.kind ▸ shift) (ih rest)

theorem fronts_spelledOut : Fronts scope (SpelledOut scope) some := by
  constructor
  · rintro ty tokens ⟨words, -, covers⟩
    exact covers.noEnd
  · rintro ty tokens ⟨words, spelled, covers⟩ s name behind rest named stands ended before
    obtain ⟨m, passes, last⟩ := covers.passes before (List.cons_ne_nil _ _)
    have isName := last.kind.trans named
    have next := last.next (List.cons_ne_nil _ _)
    have ends : EndsType m := .inr ⟨isName, by simp [next.kind, stands]⟩
    -- No type is a name with a comma or a parenthesis behind it, so it is not taken for one.
    refine ⟨m, .typed ?_ (type_found spelled passes (before.closed ended) ends), last⟩
    obtain same | inside := spelled.second passes
    · simp [same, isName]
    · simp only [List.mem_cons, List.not_mem_nil, or_false] at inside
      rintro (comma | closes)
      · simp [comma] at inside
      · simp [closes] at inside

/-- The words of the text of a type, in whatever places. -/
def Displayed (ty : Ty) (tokens : List Token) : Prop :=
  ∃ lexed ending, Token.tokenize ty.text = .ok (lexed ++ [ending]) ∧
    List.Forall₂ Token.SameWord lexed tokens

/-- The text of a type with a name behind it is read back as the type. -/
def ReadBack (scope : Scope) (ty : Ty) : Prop :=
  ∃ lexed ending name rest m, Token.tokenize ty.text = .ok (lexed ++ [ending]) ∧
    name.kind = .identifier ∧ Ended rest ∧
    type? scope (Stream.ofTokens (lexed ++ name :: rest)) = some (ty, m) ∧ m.rest = name :: rest

/-- What is read back from the text of a type is what the text spells. -/
theorem ReadBack.spelledOut (back : ReadBack scope ty) (displayed : Displayed ty tokens) :
    SpelledOut scope ty tokens := by
  obtain ⟨lexed, ending, name, rest, m, read, named, ended, found, left⟩ := back
  obtain ⟨others, last, again, same⟩ := displayed
  obtain ⟨rfl, -⟩ := List.append_inj' (Except.ok.inj (read.symm.trans again)) rfl
  have whole : Ended (lexed ++ [ending]) := (Token.tokenize_tiled read).ended
  have behind : Ended (name :: rest) := .cons (by simp [named]) ended
  have closed := Stream.before_ofTokens.closed (.append (whole.split (by simp)).1 behind)
  obtain ⟨words, spelled, passes⟩ := type_spelled found
  -- Half of a shift is never a name, so the words of the type end with a whole token.
  have unsplit : m.split = false := by
    cases half : m.split with
    | false => rfl
    | true =>
      have shift := (passes.closed closed).1.halved half
      simp [left, named] at shift
  obtain ⟨front, parts, covers⟩ := passes.covers closed unsplit
  rw [left] at parts
  obtain rfl := List.append_cancel_right parts
  exact ⟨words, spelled, Covers.sameWords covers same⟩

theorem Listed.imp {written written' : Ty → List Token → Prop}
    (listed : Listed written pairs tokens)
    (follows : ∀ pair ∈ pairs, ∀ tokens, written pair.2 tokens → written' pair.2 tokens) :
    Listed written' pairs tokens := by
  induction listed with
  | last front named closes =>
    exact .last (follows _ List.mem_cons_self _ front) named closes
  | more front named isComma _ ih =>
    have ⟨first, others⟩ := List.forall_mem_cons.mp follows
    exact .more (first _ front) named isComma (ih others)

theorem Heads.imp {written written' : Ty → List Token → Prop} (heads : Heads written pairs tokens)
    (follows : ∀ pair ∈ pairs, ∀ tokens, written pair.2 tokens → written' pair.2 tokens) :
    Heads written' pairs tokens := by
  cases heads with
  | empty opens closes isArrow => exact .empty opens closes isArrow
  | listed opens listed isArrow => exact .listed opens (listed.imp follows) isArrow

end Fronts

section Bodies

variable {scope : Scope} {s s' m : Stream} {tree : Expr} {tokens : List Token}
  {declared : Option (List ParamSpec)} {params inForce : Parameters} {header : List HeaderParam}

/-- A body is read up to the end as a tree, but for places. -/
def ReadsBody (scope : Scope) (s : Stream) (tree : Expr) : Prop :=
  ∃ body t, Yields (expression scope 0 none) s body t ∧ t.kind = .endOfInput ∧
    body.unplaced = tree

/-- A formula is accepted with these parameters and this tree, but for places. -/
def AcceptedAs (scope : Scope) (declared : Option (List ParamSpec)) (tokens : List Token)
    (params : Parameters) (tree : Expr) : Prop :=
  ∃ parsed t, Yields (lambda scope declared) (Stream.ofTokens tokens) parsed t ∧
    parsed.params = params ∧ parsed.body.unplaced = tree

theorem readsBody_of_twin (twin : s.Twin false s') (reads : ReadsBody scope s tree) :
    ReadsBody scope s' tree := by
  obtain ⟨body, t, ran, isEnd, rfl⟩ := reads
  obtain ⟨body', t', read, alike, last⟩ := (expression_reads ran).beside isEnd twin
  exact ⟨body', t', read.yields twin.symm.closed, last, alike.symm⟩

/-- The same words in other places make the same body. -/
theorem readsBody_twin (twin : s.Twin false s') :
    ReadsBody scope s tree ↔ ReadsBody scope s' tree :=
  ⟨readsBody_of_twin twin, readsBody_of_twin twin.symm⟩

theorem acceptedAs_headless (noHeader : header? scope (Stream.ofTokens tokens) = none) :
    AcceptedAs scope declared tokens params tree ↔ bindDeclared scope.params declared = params ∧
      ReadsBody { scope with params } (Stream.ofTokens tokens) tree := by
  constructor
  · rintro ⟨parsed, t, accepted, rfl, rfl⟩
    obtain ⟨bound, ran, isEnd⟩ := (headless_yields noHeader).mp accepted
    exact ⟨bound, parsed.body, t, ran, isEnd, rfl⟩
  · rintro ⟨bound, body, t, ran, isEnd, rfl⟩
    exact ⟨⟨params, body⟩, t, (headless_yields noHeader).mpr ⟨bound, ran, isEnd⟩, rfl, rfl⟩

theorem acceptedAs_headed (found : header? scope (Stream.ofTokens tokens) = some (header, m))
    (bound : ∀ span, bindHeader scope.params header declared span = .ok inForce) :
    AcceptedAs scope declared tokens params tree ↔
      inForce = params ∧ ReadsBody { scope with params } m tree := by
  constructor
  · rintro ⟨parsed, t, accepted, rfl, rfl⟩
    obtain ⟨n, heading, ran, isEnd⟩ := lambda_yields.mp accepted
    obtain ⟨header', again, settled⟩ | ⟨headless, -⟩ := parameters_yields.mp heading
    · obtain ⟨rfl, rfl⟩ : header = header' ∧ m = n := by simpa using found.symm.trans again
      have same : inForce = parsed.params := by simpa using (bound _).symm.trans settled
      exact ⟨same, parsed.body, t, ran, isEnd, rfl⟩
    · cases found.symm.trans headless
  · rintro ⟨rfl, body, t, ran, isEnd, rfl⟩
    have heading := parameters_yields.mpr (.inl ⟨header, found, bound _⟩)
    exact ⟨⟨inForce, body⟩, t, lambda_yields.mpr ⟨m, heading, ran, isEnd⟩, rfl, rfl⟩

end Bodies

section Whole

variable {scope : Scope} {pairs : List (String × Ty)} {written : Ty → List Token → Prop}
  {given : Ty → Option Ty} {body behind tokens named typed behindNames behindTypes : List Token}
  {declared : Option (List ParamSpec)} {specs : List ParamSpec} {params : Parameters} {tree : Expr}

/-- A header in front of a body is accepted where the bare body is read against its parameters. -/
theorem Heads.accepted (heads : Heads written pairs tokens) (fronts : Fronts scope written given)
    (same : Beside false body behind)
    (bound : ∀ header span, Heading given header pairs →
      bindHeader scope.params header declared span = .ok (scope.params.pushAll pairs)) :
    AcceptedAs scope declared (tokens ++ behind) params tree ↔
      scope.params.pushAll pairs = params ∧
        ReadsBody { scope with params } (Stream.ofTokens body) tree := by
  have ended := Stream.ended_of_twin same
  have some : behind ≠ [] := by
    rintro rfl
    cases ended
  obtain ⟨header, m, found, heading, left⟩ := heads.read fronts Stream.before_ofTokens
    (.append (heads.noEnd fronts) ended) some
  have twin : (Stream.ofTokens body).Twin false m := by
    refine ⟨left.rest ▸ same, left.whole.symm, nofun, nofun⟩
  rw [acceptedAs_headed found fun span => bound header span heading]
  exact and_congr_right fun _ => (readsBody_twin twin).symm

/-- The ways of declaring parameters agree. A body without a header, read against parameters that
are declared with names and types; the same words behind a header of the names, where the types are
declared; and the same words behind a header of names and types, where as many parameters are
declared without types or where none are declared: all of these are accepted with the same
parameters and the same tree but for places, or none is. -/
theorem declarations_agree (distinct : (pairs.map (·.1)).Nodup)
    (back : ∀ pair ∈ pairs, ReadBack scope pair.2)
    (noHeader : header? scope (Stream.ofTokens body) = none)
    (names : Heads Unwritten pairs named) (sameNames : Beside false body behindNames)
    (types : Heads Displayed pairs typed) (sameTypes : Beside false body behindTypes)
    (many : specs.length = pairs.length) (untyped : ∀ spec ∈ specs, spec.ty = none)
    (params : Parameters) (tree : Expr) :
    List.TFAE [
      AcceptedAs scope (some (pairs.map fun pair => ⟨some pair.1, some pair.2⟩)) body params tree,
      AcceptedAs scope (some (pairs.map fun pair => ⟨none, some pair.2⟩)) (named ++ behindNames)
        params tree,
      AcceptedAs scope (some specs) (typed ++ behindTypes) params tree,
      AcceptedAs scope none (typed ++ behindTypes) params tree] := by
  have spelled : Heads (SpelledOut scope) pairs typed :=
    types.imp fun pair listed tokens displayed => (back pair listed).spelledOut displayed
  have bare : AcceptedAs scope (some (pairs.map fun pair => ⟨some pair.1, some pair.2⟩)) body
      params tree ↔ _ := acceptedAs_headless noHeader
  rw [bindDeclared_pairs] at bare
  have byName : AcceptedAs scope (some (pairs.map fun pair => ⟨none, some pair.2⟩))
      (named ++ behindNames) params tree ↔ _ :=
    names.accepted fronts_unwritten sameNames
      fun header span heading => bindHeader_declared heading distinct
  have byType : AcceptedAs scope (some specs) (typed ++ behindTypes) params tree ↔ _ :=
    spelled.accepted fronts_spelledOut sameTypes fun header span heading =>
      bindHeader_written heading distinct (by simpa using ⟨many, untyped⟩)
  have alone : AcceptedAs scope none (typed ++ behindTypes) params tree ↔ _ :=
    spelled.accepted fronts_spelledOut sameTypes fun header span heading =>
      bindHeader_written heading distinct nofun
  tfae_have 1 ↔ 2 := bare.trans byName.symm
  tfae_have 1 ↔ 3 := bare.trans byType.symm
  tfae_have 1 ↔ 4 := bare.trans alone.symm
  tfae_finish

/-- A nullable type in front of a name and a comma, an array, and a default instance. -/
theorem declarations_agree_nullable :
    let scope : Scope := ⟨Registry.empty.toUniverse, [], Parameters.ofInstance (some .string)⟩
    let token (kind : TokenKind) (text : String) (column : Nat) : Token :=
      .word kind text ⟨column, 1, column + 1, text.length⟩
    let int := [token .identifier "int" 1, token .question "?" 4]
    let strings := [token .identifier "string" 9, token .leftBracket "[" 15,
      token .rightBracket "]" 16]
    let header (first second : List Token) := token .leftParen "(" 0 ::
      (first ++ token .identifier "x" 6 :: token .comma "," 7 ::
        (second ++ [token .identifier "y" 18, token .rightParen ")" 19]) ++
        [token .fatArrow "=>" 21])
    let body (start : Nat) := [token .identifier "x" start, token .is "is" (start + 2),
      token .identifier "int" (start + 5), token .question "?" (start + 9),
      token .identifier "y" (start + 11), token .colon ":" (start + 13),
      token .identifier "y" (start + 15)] ++ [token .endOfInput "" (start + 16)]
    ∃ params tree, params.list.length = 3 ∧
      AcceptedAs scope (some [⟨some "x", some (.nullable .int)⟩, ⟨some "y", some (.array .string)⟩])
        (body 0) params tree ∧
      AcceptedAs scope (some [⟨none, some (.nullable .int)⟩, ⟨none, some (.array .string)⟩])
        (header [] [] ++ body 24) params tree ∧
      AcceptedAs scope (some [⟨some "other", none⟩, ⟨none, none⟩]) (header int strings ++ body 24)
        params tree ∧
      AcceptedAs scope none (header int strings ++ body 24) params tree := by
  intro scope token int strings header body
  let pairs : List (String × Ty) := [("x", .nullable .int), ("y", .array .string)]
  obtain ⟨⟨parsed, t⟩, accepted, three⟩ : ∃ reply : Lambda × Stream,
      lambda scope (some (pairs.map fun pair => ⟨some pair.1, some pair.2⟩))
        (Stream.ofTokens (body 0)) = .ok reply ∧ reply.1.params.list.length = 3 :=
    exists_ok_that (by decide +kernel)
  have noHeader : header? scope (Stream.ofTokens (body 0)) = none :=
    Option.isNone_iff_eq_none.mp (by decide +kernel)
  have ends : Beside false (body 0) (body 24) := by
    refine beside_of_words (by decide) ?_ (.bare rfl rfl)
    repeat' constructor
  have heads : ∀ {written : Ty → List Token → Prop} {first second : List Token},
      written (.nullable .int) first → written (.array .string) second →
      Heads written pairs (header first second) := by
    intro written first second one two
    have x : (token .identifier "x" 6).kind = .identifier := rfl
    have y : (token .identifier "y" 18).kind = .identifier := rfl
    have comma : (token .comma "," 7).kind = .comma := rfl
    have closes : (token .rightParen ")" 19).kind = .rightParen := rfl
    exact .listed rfl (.more one x comma (.last two y closes)) rfl
  let readInt : List Token :=
    [.word .identifier "int" ⟨0, 1, 1, 3⟩, .word .question "?" ⟨3, 1, 4, 1⟩]
  let readStrings : List Token := [.word .identifier "string" ⟨0, 1, 1, 6⟩,
    .word .leftBracket "[" ⟨6, 1, 7, 1⟩, .word .rightBracket "]" ⟨7, 1, 8, 1⟩]
  have shownInt : Displayed (.nullable .int) int := by
    refine ⟨readInt, _, rfl, ?_⟩
    repeat' constructor
  have shownStrings : Displayed (.array .string) strings := by
    refine ⟨readStrings, _, rfl, ?_⟩
    repeat' constructor
  have back : ∀ pair ∈ pairs, ReadBack scope pair.2 := by
    have name : (token .identifier "x" 0).kind = .identifier := rfl
    have rest : Ended [token .comma "," 1, token .endOfInput "" 2] := .cons (by decide) (.last rfl)
    have first : ReadBack scope (.nullable .int) := ⟨readInt, _, _, _, _, rfl, name, rest, rfl, rfl⟩
    have second : ReadBack scope (.array .string) :=
      ⟨readStrings, _, _, _, _, rfl, name, rest, rfl, rfl⟩
    simp [pairs, first, second]
  have agree := @declarations_agree scope pairs (body 0) (header [] []) (header int strings)
    (body 24) (body 24) [⟨some "other", none⟩, ⟨none, none⟩] (by decide) back noHeader
    (heads rfl rfl) ends (heads shownInt shownStrings) ends rfl (by decide) parsed.params
    parsed.body.unplaced
  have first : AcceptedAs scope _ (body 0) parsed.params parsed.body.unplaced :=
    ⟨parsed, t, accepted, rfl, rfl⟩
  exact ⟨parsed.params, parsed.body.unplaced, three, first, (agree.out 0 1).mp first,
    (agree.out 0 2).mp first, (agree.out 0 3).mp first⟩

end Whole

end Reader
end Formula
