import Formula.Proofs.ReaderTyping
import Formula.Proofs.Tiling
import Formula.Proofs.TokenWalk

/-! What the tokens of an accepted formula are like, whatever its names mean. All of them have been
read, brackets match, and of the signs that assign only `=` stands there, behind the name of a
member in braces. It is shown of the tokens that a walk goes over, and then of whole formulas. -/
namespace Formula

namespace TokenKind

/-- Signs that no formula has. -/
def isBarred : TokenKind → Bool
  | plusPlus | minusMinus | arrow | semicolon => true
  | kind => kind.isAssignment && kind != equal

/-- Words of an expression. -/
def isWord (kind : TokenKind) : Bool :=
  !(kind.isBarred || kind == fatArrow || kind == endOfInput)

/-- Words that stand by themselves, wherever they are. -/
def isFree (kind : TokenKind) : Bool := kind.isWord && !(kind.isBracket || kind.isAssignment)

variable {kind : TokenKind}

theorem isFree_of_plain (plain : Reader.isPlain kind) : kind.isFree := by
  cases kind <;> first | rfl | cases plain

theorem isFree_iff :
    kind.isFree ↔ kind.isWord ∧ kind.isBracket = false ∧ kind.isAssignment = false := by
  simp [isFree]

theorem isWord_iff :
    kind.isWord ↔ kind.isBarred = false ∧ kind ≠ .fatArrow ∧ kind ≠ .endOfInput := by
  simp [isWord, and_assoc]

end TokenKind

/-- Tokens in which brackets match and only members in braces are assigned. The innermost open
bracket is given. -/
inductive Orderly : Option Bracket → List Token → Prop where
  | nil {inside : Option Bracket} : Orderly inside []
  | word {inside : Option Bracket} {token : Token} {rest : List Token} (free : token.kind.isFree)
      (others : Orderly inside rest) : Orderly inside (token :: rest)
  | bracket {inside : Option Bracket} {opening closing : Token} {within rest : List Token}
      {bracket : Bracket} (opens : opening.kind = bracket.opener)
      (inner : Orderly (some bracket) within) (closes : closing.kind = bracket.closer)
      (others : Orderly inside rest) : Orderly inside (opening :: (within ++ closing :: rest))
  | assign {name equal : Token} {rest : List Token} (named : name.kind = .identifier)
      (assigns : equal.kind = .equal) (others : Orderly (some .brace) rest) :
      Orderly (some .brace) (name :: equal :: rest)

/-- The name of a member comes last, and the brackets before it match. -/
def EndsInMember (before : List Token) : Prop :=
  ∃ inner name, before = inner ++ [name] ∧ Balanced inner ∧ name.kind = .identifier

/-- The name of a member comes last, and the innermost bracket that is open there is a brace. -/
def EndsInBrace (before : List Token) : Prop :=
  ∃ front opening inner, before = front ++ opening :: inner ∧ opening.kind = .leftBrace ∧
    EndsInMember inner

theorem EndsInMember.cons {before : List Token} {token : Token} (ends : EndsInMember before)
    (noBracket : token.kind.isBracket = false) : EndsInMember (token :: before) := by
  obtain ⟨inner, name, rfl, balanced, named⟩ := ends
  exact ⟨token :: inner, name, rfl, .cons noBracket balanced, named⟩

theorem EndsInBrace.append {before : List Token} (ends : EndsInBrace before) (front : List Token) :
    EndsInBrace (front ++ before) := by
  obtain ⟨more, opening, inner, rfl, opens, member⟩ := ends
  exact ⟨front ++ more, opening, inner, (List.append_assoc ..).symm, opens, member⟩

namespace Orderly

variable {inside : Option Bracket} {tokens before after : List Token} {equal : Token}

theorem balanced (orderly : Orderly inside tokens) : Balanced tokens := by
  induction orderly with
  | nil => exact .nil
  | word free _ ih => exact .cons (TokenKind.isFree_iff.mp free).2.1 ih
  | bracket opens _ closes _ inner ih => exact .bracket opens inner closes ih
  | assign named assigns _ ih =>
    exact .cons (by rw [named]; rfl) (.cons (by rw [assigns]; rfl) ih)

theorem append {others : List Token} (first : Orderly inside tokens)
    (second : Orderly inside others) : Orderly inside (tokens ++ others) := by
  induction first with
  | nil => exact second
  | word free _ ih => exact .word free (ih second)
  | bracket opens inner closes _ _ ih => simpa using Orderly.bracket opens inner closes (ih second)
  | assign named assigns _ ih => exact .assign named assigns (ih second)

theorem words (orderly : Orderly inside tokens) : ∀ token ∈ tokens, token.kind.isWord := by
  induction orderly with
  | nil => exact List.forall_mem_nil _
  | word free _ ih => exact List.forall_mem_cons.mpr ⟨(TokenKind.isFree_iff.mp free).1, ih⟩
  | @bracket _ opening closing _ _ bracket opens _ closes _ inner ih =>
    have isOpening : opening.kind.isWord := by rw [opens]; cases bracket <;> rfl
    have isClosing : closing.kind.isWord := by rw [closes]; cases bracket <;> rfl
    exact List.forall_mem_cons.mpr ⟨isOpening, List.forall_mem_append.mpr
      ⟨inner, List.forall_mem_cons.mpr ⟨isClosing, ih⟩⟩⟩
  | assign named assigns _ ih =>
    exact List.forall_mem_cons.mpr ⟨by rw [named]; rfl,
      List.forall_mem_cons.mpr ⟨by rw [assigns]; rfl, ih⟩⟩

/-- What assigns stands behind the name of a member, in a brace. -/
theorem assigned (orderly : Orderly inside tokens) (split : tokens = before ++ equal :: after)
    (assigns : equal.kind = .equal) :
    inside = some .brace ∧ EndsInMember before ∨ EndsInBrace before := by
  induction orderly generalizing before after with
  | nil => simp at split
  | @word inside token rest free _ ih =>
    have free := TokenKind.isFree_iff.mp free
    cases before with
    | nil =>
      obtain ⟨rfl, -⟩ := List.cons.inj split
      simp [assigns, TokenKind.isAssignment] at free
    | cons first before =>
      obtain ⟨rfl, later⟩ := List.cons.inj split
      rcases ih later with ⟨isBrace, ends⟩ | ends
      · exact .inl ⟨isBrace, ends.cons free.2.1⟩
      · exact .inr (ends.append [token])
  | @bracket inside opening closing within rest bracket opens inner closes others ihInner ih =>
    cases before with
    | nil =>
      obtain ⟨rfl, -⟩ := List.cons.inj split
      rw [assigns] at opens
      cases bracket <;> cases opens
    | cons first before =>
      obtain ⟨rfl, later⟩ := List.cons.inj split
      -- The sign stands behind the bracket or inside it, and is not what closes it.
      obtain ⟨more, rfl, behind⟩ | ⟨more, rfl, behind⟩ := List.append_eq_append_iff.mp later
      · cases more with
        | nil =>
          obtain ⟨rfl, -⟩ := List.cons.inj behind
          rw [assigns] at closes
          cases bracket <;> cases closes
        | cons token more =>
          obtain ⟨rfl, left⟩ := List.cons.inj behind
          rcases ih left with ⟨isBrace, member, name, rfl, balanced, named⟩ | ends
          · have balanced := Balanced.bracket opens inner.balanced closes balanced
            exact .inl ⟨isBrace, _, name, by simp, balanced, named⟩
          · exact .inr (by simpa using ends.append (opening :: (within ++ [closing])))
      · cases more with
        | nil =>
          obtain ⟨rfl, -⟩ := List.cons.inj behind
          rw [assigns] at closes
          cases bracket <;> cases closes
        | cons token more =>
          obtain ⟨rfl, -⟩ := List.cons.inj behind
          rcases ihInner rfl with ⟨isBrace, ends⟩ | ends
          · cases isBrace
            exact .inr ⟨[], opening, before, rfl, opens, ends⟩
          · exact .inr (ends.append [opening])
  | @assign name sign rest named assigned others ih =>
    cases before with
    | nil =>
      obtain ⟨rfl, -⟩ := List.cons.inj split
      simp [assigns] at named
    | cons first before =>
      obtain ⟨rfl, later⟩ := List.cons.inj split
      cases before with
      | nil => exact .inl ⟨rfl, [], name, rfl, .nil, named⟩
      | cons second before =>
        obtain ⟨rfl, last⟩ := List.cons.inj later
        rcases ih last with ⟨isBrace, ends⟩ | ends
        · exact .inl ⟨isBrace, (ends.cons (by rw [assigned]; rfl)).cons (by rw [named]; rfl)⟩
        · exact .inr (ends.append [name, sign])

end Orderly

namespace Reader

variable {inside : Option Bracket} {s m t : Stream}

/-- A word that stands by itself, and then tokens in order. -/
private theorem orderly_free {used : List Token} (closed : s.Closed) (free : s.kind.isFree)
    (rest : s.next.rest = used ++ t.rest) (orderly : Orderly inside used) :
    ∃ used, s.rest = used ++ t.rest ∧ Orderly inside used := by
  have more : s.kind ≠ .endOfInput := by
    intro isEnd
    rw [isEnd] at free
    cases free
  obtain ⟨first, whole, same, -⟩ := closed.rest_eq more
  refine ⟨first :: used, by rw [whole, rest]; rfl, .word ?_ orderly⟩
  obtain rfl | ⟨shift, -⟩ := same
  · exact free
  · rw [shift]
    rfl

/-- A token of a kind that is no part of a shift is the first of those left. -/
private theorem first_of_kind {kind : TokenKind} (closed : s.Closed) (isKind : s.kind = kind)
    (other : kind ≠ .endOfInput ∧ kind ≠ .greater) :
    s.rest = s.peek :: s.next.rest ∧ s.next.Closed := by
  subst isKind
  exact ⟨closed.first other.1 other.2, closed.next other.1⟩

/-- A walk goes over tokens in order. -/
theorem Walk.orderly (walk : Walk inside s t) (closed : s.Closed) :
    ∃ used, s.rest = used ++ t.rest ∧ Orderly inside used := by
  induction walk with
  | here => exact ⟨[], rfl, .nil⟩
  | @token _ _ s plain _ ih =>
    have free := TokenKind.isFree_of_plain plain
    have more := (TokenKind.isWord_iff.mp (TokenKind.isFree_iff.mp free).1).2.2
    obtain ⟨used, rest, orderly⟩ := ih (closed.next more)
    exact orderly_free closed free rest orderly
  | half splits _ ih =>
    obtain ⟨used, rest, orderly⟩ := ih (closed.half splits)
    exact ⟨used, (Stream.splitShift_eq splits).2.2.1 ▸ rest, orderly⟩
  | mark asks _ _ ih =>
    obtain ⟨used, rest, orderly⟩ := ih (closed.next (by simp [asks]))
    exact orderly_free closed (by rw [asks]; rfl) rest orderly
  | branch asks _ first colon _ inner ih =>
    have start := closed.next (by simp [asks])
    have middle := first.closed start
    obtain ⟨within, split, orderlyWithin⟩ := inner start
    obtain ⟨after, rest, orderly⟩ := ih (middle.next (by simp [colon]))
    obtain ⟨after, rest, orderly⟩ := orderly_free middle (by rw [colon]; rfl) rest orderly
    refine orderly_free closed (by rw [asks]; rfl) ?_ (orderlyWithin.append orderly)
    rw [split, rest, List.append_assoc]
  | @bracket _ s m t bracket opens first closes _ inner ih =>
    obtain ⟨start, within⟩ := first_of_kind closed opens (by cases bracket <;> decide)
    obtain ⟨stop, behind⟩ :=
      first_of_kind (first.closed within) closes (by cases bracket <;> decide)
    obtain ⟨used, split, orderlyWithin⟩ := inner within
    obtain ⟨after, rest, orderly⟩ := ih behind
    refine ⟨_, ?_, .bracket opens orderlyWithin closes orderly⟩
    simp [start, split, stop, rest]
  | assign name equal _ ih =>
    obtain ⟨start, next⟩ := first_of_kind closed name (by decide)
    obtain ⟨sign, behind⟩ := first_of_kind next equal (by decide)
    obtain ⟨used, rest, orderly⟩ := ih behind
    refine ⟨_, ?_, .assign name equal orderly⟩
    rw [start, sign, rest]
    rfl

/-- A header is some tokens in order and an arrow. -/
theorem header_orderly {scope : Scope} {header : List HeaderParam} (closed : s.Closed)
    (read : header? scope s = some (header, t)) :
    ∃ front arrow, s.rest = front ++ arrow :: t.rest ∧ arrow.kind = .fatArrow ∧
      Orderly none front ∧ t.Closed := by
  obtain ⟨name, arrow, rfl⟩ | ⟨opens, m, walk, closes, arrow, rfl⟩ := header_walk read
  · obtain ⟨first, next⟩ := first_of_kind closed name (by decide)
    obtain ⟨second, behind⟩ := first_of_kind next arrow (by decide)
    refine ⟨[s.peek], s.next.peek, by rw [first, second]; rfl, arrow, .word ?_ .nil, behind⟩
    rw [show s.peek.kind = .identifier from name]
    rfl
  · obtain ⟨first, within⟩ := first_of_kind closed opens (by decide)
    obtain ⟨used, split, orderly⟩ := walk.orderly within
    obtain ⟨stop, next⟩ := first_of_kind (walk.closed within) closes (by decide)
    obtain ⟨sign, behind⟩ := first_of_kind next arrow (by decide)
    have brackets : Orderly none (s.peek :: (used ++ [m.peek])) :=
      @Orderly.bracket _ _ _ _ _ .paren opens orderly closes .nil
    refine ⟨_, m.next.peek, ?_, arrow, brackets, behind⟩
    simp [first, split, stop, sign]

/-- Settling the parameters consumes a header or nothing. -/
theorem parameters_orderly {scope : Scope} {declared : Option (List ParamSpec)}
    {params : Parameters} (closed : s.Closed)
    (ran : Yields (parameters scope declared) s params t) :
    s = t ∨ ∃ header front arrow, header? scope s = some (header, t) ∧
      s.rest = front ++ arrow :: t.rest ∧ arrow.kind = .fatArrow ∧ Orderly none front ∧
      t.Closed := by
  simp only [parameters, peek_then] at ran
  obtain ⟨header, m, read, ran⟩ | ⟨-, ran⟩ := attempt_then.mp ran
  · obtain ⟨-, rfl⟩ := ofExcept_yields.mp (spanFrom_then.mp ran)
    obtain ⟨front, arrow, split, isArrow, orderly, behind⟩ := header_orderly closed read
    exact .inr ⟨header, front, arrow, read, split, isArrow, orderly, behind⟩
  · exact .inl (pure_yields.mp ran).2

end Reader

theorem Token.Tiled.ended {before rest : List Char} {tokens : List Token}
    (tiled : Token.Tiled before rest tokens) : Ended tokens := by
  induction tiled with
  | ending => exact .last rfl
  | token _ stands _ _ ih => exact .cons stands.kind ih

/-- The words of an accepted formula, read against a scope, and the end behind them. -/
structure Lambda.Ordered (scope : Scope) (words : List Token) (ending : Token) : Prop where
  balanced : Balanced words
  barred : ∀ word ∈ words, word.kind.isBarred = false
  assigned : ∀ before equal after, words = before ++ equal :: after → equal.kind = .equal →
    EndsInBrace before
  /-- An arrow ends the header, and what the header leaves is what stands behind the arrow. -/
  arrow : ∀ before arrow after, words = before ++ arrow :: after → arrow.kind = .fatArrow →
    ∃ header left, left.rest = after ++ [ending] ∧
      Reader.header? scope (Stream.ofTokens (words ++ [ending])) = some (header, left)
  oneArrow : words.countP (·.kind == .fatArrow) ≤ 1

namespace Lambda

variable {scope : Scope} {words front body : List Token} {ending arrow : Token}

private theorem noArrow (orderly : Orderly none words) : ∀ word ∈ words, word.kind ≠ .fatArrow :=
  fun word member => (TokenKind.isWord_iff.mp (orderly.words word member)).2.1

private theorem countP_arrow (orderly : Orderly none words) :
    words.countP (·.kind == .fatArrow) = 0 :=
  List.countP_eq_zero.mpr fun word member => by simpa using noArrow orderly word member

theorem ordered_plain (orderly : Orderly none words) : Ordered scope words ending where
  balanced := orderly.balanced
  barred word member := (TokenKind.isWord_iff.mp (orderly.words word member)).1
  assigned before equal after split isEqual := by
    rcases orderly.assigned split isEqual with ⟨isBrace, -⟩ | ends
    · cases isBrace
    · exact ends
  arrow before arrow after split isArrow :=
    absurd isArrow (noArrow orderly arrow (by simp [split]))
  oneArrow := by
    rw [countP_arrow orderly]
    omega

/-- A token stands before an arrow, is the arrow, or stands behind it. -/
private theorem split_at_arrow {before after : List Token} {sign : Token}
    (split : front ++ arrow :: body = before ++ sign :: after) :
    (∃ more, front = before ++ sign :: more) ∨ (sign = arrow ∧ after = body) ∨
      ∃ more, before = front ++ arrow :: more ∧ body = more ++ sign :: after := by
  obtain ⟨more, rfl, behind⟩ | ⟨more, rfl, behind⟩ := List.append_eq_append_iff.mp split
  · cases more with
    | nil =>
      obtain ⟨rfl, rfl⟩ := List.cons.inj behind
      exact .inr (.inl ⟨rfl, rfl⟩)
    | cons token more =>
      obtain ⟨rfl, rfl⟩ := List.cons.inj behind
      exact .inr (.inr ⟨more, rfl, rfl⟩)
  · cases more with
    | nil =>
      obtain ⟨rfl, rfl⟩ := List.cons.inj behind
      exact .inr (.inl ⟨rfl, rfl⟩)
    | cons token more =>
      obtain ⟨rfl, -⟩ := List.cons.inj behind
      exact .inl ⟨more, rfl⟩

theorem ordered_headed {header : List HeaderParam} {left : Stream}
    (orderlyFront : Orderly none front) (isArrow : arrow.kind = .fatArrow)
    (orderlyBody : Orderly none body)
    (read : Reader.header? scope (Stream.ofTokens (front ++ arrow :: body ++ [ending])) =
      some (header, left)) (rest : left.rest = body ++ [ending]) :
    Ordered scope (front ++ arrow :: body) ending where
  balanced := orderlyFront.balanced.append (.cons (by rw [isArrow]; rfl) orderlyBody.balanced)
  barred := by
    have before : Ordered scope front ending := ordered_plain orderlyFront
    have behind : Ordered scope body ending := ordered_plain orderlyBody
    exact List.forall_mem_append.mpr ⟨before.barred,
      List.forall_mem_cons.mpr ⟨by rw [isArrow]; rfl, behind.barred⟩⟩
  assigned before equal after split isEqual := by
    obtain ⟨more, inFront⟩ | ⟨rfl, -⟩ | ⟨more, rfl, inBody⟩ := split_at_arrow split
    · have plain : Ordered scope front ending := ordered_plain orderlyFront
      exact plain.assigned _ _ _ inFront isEqual
    · rw [isArrow] at isEqual
      cases isEqual
    · have plain : Ordered scope body ending := ordered_plain orderlyBody
      have ends := plain.assigned _ _ _ inBody isEqual
      simpa using ends.append (front ++ [arrow])
  arrow before sign after split isSign := by
    obtain ⟨more, inFront⟩ | ⟨-, rfl⟩ | ⟨more, -, inBody⟩ := split_at_arrow split
    · exact absurd isSign (noArrow orderlyFront sign (by simp [inFront]))
    · exact ⟨header, left, rest, read⟩
    · exact absurd isSign (noArrow orderlyBody sign (by simp [inBody]))
  oneArrow := by
    rw [List.countP_append, List.countP_cons, countP_arrow orderlyFront, countP_arrow orderlyBody]
    split <;> omega

variable {world : Universe} {namespaces : List String} {declared : Option (List ParamSpec)}
  {receiver : Option Ty} {source : String} {lambda : Lambda}

/-- An accepted formula has been read up to its end, and its words are in order: whatever the
source, the known types, the declared parameters, the default instance and the namespaces are. -/
theorem parse_ordered
    (parsed : Lambda.parse world namespaces declared receiver source = .ok lambda) :
    ∃ words ending left, Token.tokenize source = .ok (words ++ [ending]) ∧
      ending.kind = .endOfInput ∧
      Reader.lambda ⟨world, namespaces, .ofInstance receiver⟩ declared
        (Stream.ofTokens (words ++ [ending])) = .ok (lambda, left) ∧ left.rest = [ending] ∧
      Ordered ⟨world, namespaces, .ofInstance receiver⟩ words ending := by
  obtain ⟨tokens, lexed, parsed⟩ := except_then.mp parsed
  obtain ⟨⟨read, left⟩, ran, same⟩ := except_then.mp parsed
  cases same
  have lexed : Token.tokenize source = .ok tokens := tokenize_of_tokensOf lexed
  have closed : (Stream.ofTokens tokens).Closed := ⟨(Token.tokenize_tiled lexed).ended, nofun⟩
  have whole := ran
  obtain ⟨params, m, bound, ran⟩ := Reader.bind_yields.mp ran
  obtain ⟨body, n, read, ran⟩ := Reader.bind_yields.mp ran
  simp only [Reader.peek_then] at ran
  split at ran
  case isFalse => simp at ran
  case isTrue isEnd =>
    obtain ⟨rfl, rfl⟩ := Reader.pure_yields.mp ran
    have walk : Reader.Walk none m n := (Reader.expression_reads read).walked
    obtain rfl | ⟨header, front, arrow, header, split, isArrow, orderly, behind⟩ :=
      Reader.parameters_orderly closed bound
    · obtain ⟨used, rest, orderly⟩ := walk.orderly closed
      rw [(walk.closed closed).last isEnd] at rest
      have rest : tokens = used ++ [n.peek] := rest
      subst rest
      exact ⟨used, n.peek, n, lexed, isEnd, whole, (walk.closed closed).last isEnd,
        ordered_plain orderly⟩
    · obtain ⟨used, rest, orderlyBody⟩ := walk.orderly behind
      rw [(walk.closed behind).last isEnd] at rest
      have split : tokens = front ++ arrow :: used ++ [n.peek] := by
        rw [rest] at split
        exact split.trans (by simp)
      subst split
      exact ⟨front ++ arrow :: used, n.peek, n, lexed, isEnd, whole,
        (walk.closed behind).last isEnd, ordered_headed orderly isArrow orderlyBody header rest⟩

/-- A header, brackets of all three kinds, and a member that is assigned. -/
theorem parse_ordered_particle :
    let registry := (Registry.empty.register (Library.particleClass Registry.empty)).2
    let source := "(Particle p) => p[0] == null ? new Particle() \x7b Mass = 1, \x7d : p"
    ∃ lambda words ending,
      Lambda.parse registry.toUniverse ["Physics"] none none source = .ok lambda ∧
      Token.tokenize source = .ok (words ++ [ending]) ∧
      Ordered ⟨registry.toUniverse, ["Physics"], .ofInstance none⟩ words ending := by
  intro registry source
  obtain ⟨lambda, parsed, -⟩ : ∃ lambda, Lambda.parse registry.toUniverse ["Physics"] none none
      source = .ok lambda ∧ lambda.params.list.length = 1 := exists_ok_that (by decide +kernel)
  obtain ⟨words, ending, left, lexed, -, -, -, ordered⟩ := parse_ordered parsed
  exact ⟨lambda, words, ending, parsed, lexed, ordered⟩

end Lambda

end Formula
