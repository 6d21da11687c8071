import Formula.Proofs.Grammar
import Formula.Reader.Lambda

/-! How a successful reading moves over its tokens. A walk forgets the names and types of a derivation
and keeps the brackets, the branches of conditionals and the tokens passed one by one; what holds of
the tokens of every accepted text is read off it. -/
namespace Formula

/-- Tokens that end with the only end of input among them. -/
inductive Ended : List Token → Prop where
  | last {token : Token} (isEnd : token.kind = .endOfInput) : Ended [token]
  | cons {token : Token} {tokens : List Token} (more : token.kind ≠ .endOfInput)
      (rest : Ended tokens) : Ended (token :: tokens)

theorem Ended.ne_nil {tokens : List Token} (ended : Ended tokens) : tokens ≠ [] := by
  rintro rfl
  cases ended

theorem Ended.append {front back : List Token}
    (more : ∀ token ∈ front, token.kind ≠ .endOfInput) (ended : Ended back) :
    Ended (front ++ back) := by
  induction front with
  | nil => exact ended
  | cons token front ih =>
    have ⟨first, others⟩ := List.forall_mem_cons.mp more
    exact .cons first (ih others)

/-- No end stands in front of others. -/
theorem Ended.split {front back : List Token} (ended : Ended (front ++ back)) (some : back ≠ []) :
    (∀ token ∈ front, token.kind ≠ .endOfInput) ∧ Ended back := by
  induction front with
  | nil => exact ⟨List.forall_mem_nil _, ended⟩
  | cons token front ih =>
    have others : front ++ back ≠ [] := List.append_ne_nil_of_right_ne_nil front some
    rw [List.cons_append] at ended
    generalize whole : front ++ back = tokens at ended others
    cases ended with
    | last => exact absurd rfl others
    | cons more rest =>
      obtain ⟨front, back⟩ := ih (whole ▸ rest)
      exact ⟨List.forall_mem_cons.mpr ⟨more, front⟩, back⟩

namespace Stream

variable {s t m : Stream}

@[simp] theorem tokenAt_cons_zero {first : Token} {rest : List Token} :
    tokenAt (first :: rest) 0 = first := rfl

theorem tokenAt_succ (tokens : List Token) (places : Nat) :
    tokenAt tokens (places + 1) = tokenAt (tokensAfter tokens) places := by
  match tokens with
  | [] => simp [tokenAt, tokensAfter]
  | [only] => cases places <;> simp [tokenAt, tokensAfter]
  | _ :: next :: rest =>
    simp only [tokenAt, tokensAfter, List.getElem?_cons_succ]
    cases found : (next :: rest)[places]? <;> simp [List.getLast?_cons_cons]

theorem tokensAfter_cons {first : Token} {others : List Token} (some : others ≠ []) :
    tokensAfter (first :: others) = others := by
  cases others with
  | nil => exact absurd rfl some
  | cons => rfl

@[simp] theorem kindAt_one : s.kindAt 1 = s.next.kind := by
  simp [kindAt, peekAt, kind, peek, next, tokenAt_succ]

@[simp] theorem kindAt_two : s.kindAt 2 = s.next.next.kind := by
  simp [kindAt, peekAt, kind, peek, next, tokenAt_succ]

/-- A stream stands before these tokens, none of which has been consumed by half. -/
structure Before (s : Stream) (tokens : List Token) : Prop where
  rest : s.rest = tokens
  whole : s.split = false

section Before

variable {first : Token} {tokens : List Token}

theorem before_ofTokens : (ofTokens tokens).Before tokens := ⟨rfl, rfl⟩

theorem Before.peek (before : s.Before (first :: tokens)) : s.peek = first := by
  simp [Stream.peek, before.rest, before.whole]

theorem Before.kind (before : s.Before (first :: tokens)) : s.kind = first.kind :=
  congrArg Token.kind before.peek

theorem Before.kind_rest (before : s.Before tokens) : s.kind = (ofTokens tokens).kind := by
  simp [Stream.kind, Stream.peek, before.rest, before.whole, ofTokens]

theorem Before.next (before : s.Before (first :: tokens)) (some : tokens ≠ []) :
    s.next.Before tokens := by
  refine ⟨?_, rfl⟩
  rw [Stream.next, before.rest]
  exact tokensAfter_cons some

end Before

/-- The tokens that are left have an end, and only a shift has been consumed by half. -/
structure Closed (s : Stream) : Prop where
  ended : Ended s.rest
  halved : s.split = true → (tokenAt s.rest 0).kind = .greaterGreater

theorem Before.closed {tokens : List Token} (before : s.Before tokens) (ended : Ended tokens) :
    s.Closed :=
  ⟨before.rest ▸ ended, fun half => nomatch half.symm.trans before.whole⟩

/-- A token that is not the end is the first of those that are left, or the second half of a shift,
and consuming it leaves the others. -/
theorem Closed.rest_eq (closed : s.Closed) (more : s.kind ≠ .endOfInput) :
    ∃ first, s.rest = first :: s.next.rest ∧
      (first = s.peek ∨ first.kind = .greaterGreater ∧ s.kind = .greater) ∧ s.next.Closed := by
  obtain ⟨rest, split, previous⟩ := s
  obtain ⟨ended, halved⟩ := closed
  cases ended with
  | last isEnd =>
    cases split with
    | true => simp [isEnd] at halved
    | false => exact absurd isEnd more
  | @cons token tokens notEnd ended =>
    refine ⟨token, ?_, ?_, ?_⟩
    · cases ended <;> rfl
    · cases split with
      | true => exact .inr ⟨halved rfl, rfl⟩
      | false => exact .inl rfl
    · refine ⟨?_, by simp [next]⟩
      cases ended with
      | last isEnd => exact .last isEnd
      | cons notEnd ended => exact .cons notEnd ended

theorem Closed.next (closed : s.Closed) (more : s.kind ≠ .endOfInput) : s.next.Closed := by
  obtain ⟨-, -, -, next⟩ := closed.rest_eq more
  exact next

theorem Closed.next_shorter (closed : s.Closed) (more : s.kind ≠ .endOfInput) :
    s.next.rest.length < s.rest.length := by
  obtain ⟨first, rest, -, -⟩ := closed.rest_eq more
  simp [rest]

theorem Closed.last (closed : s.Closed) (isEnd : s.kind = .endOfInput) : s.rest = [s.peek] := by
  obtain ⟨rest, split, previous⟩ := s
  obtain ⟨ended, halved⟩ := closed
  cases split with
  | true => cases isEnd
  | false =>
    cases ended with
    | last => rfl
    | cons more => exact absurd isEnd more

theorem Closed.first (closed : s.Closed) (more : s.kind ≠ .endOfInput) (whole : s.kind ≠ .greater) :
    s.rest = s.peek :: s.next.rest := by
  obtain ⟨first, rest, rfl | ⟨-, half⟩, -⟩ := closed.rest_eq more
  · exact rest
  · exact absurd half whole

theorem Closed.nonempty (closed : s.Closed) : 0 < s.rest.length :=
  List.length_pos_iff.mpr closed.ended.ne_nil

theorem splitShift_eq (splits : s.splitShift? = some m) :
    s.kind = .greaterGreater ∧ s.split = false ∧ m.rest = s.rest ∧ m.split = true := by
  unfold splitShift? at splits
  split at splits
  case isTrue shift =>
    cases splits
    simp only [Bool.and_eq_true, Bool.not_eq_true', beq_iff_eq] at shift
    exact ⟨shift.2, shift.1, rfl, rfl⟩
  case isFalse => cases splits

/-- The second half of two closing angles is split off without a token being consumed. -/
theorem Closed.half (closed : s.Closed) (splits : s.splitShift? = some m) : m.Closed := by
  obtain ⟨shift, whole, rest, -⟩ := splitShift_eq splits
  refine ⟨rest ▸ closed.ended, fun _ => ?_⟩
  simpa [kind, peek, whole, rest] using shift

theorem eat_eq {kind : TokenKind} : s.eat? kind = some t ↔ s.kind = kind ∧ s.next = t := by
  by_cases same : s.kind = kind <;> simp [eat?, same]

section All

variable {p : Token → Prop}

/-- All tokens that are left have a property. -/
def All (p : Token → Prop) (s : Stream) : Prop := ∀ token ∈ s.rest, p token

/-- The next token has what all have, if the tokens have it that a stream makes up itself. -/
theorem All.peek (all : s.All p)
    (made : ∀ kind lexeme span, kind = .endOfInput ∨ kind = .greater → p (.word kind lexeme span)) :
    p s.peek := by
  have first : p (tokenAt s.rest 0) := by
    cases rest : s.rest with
    | nil => exact made _ _ _ (.inl rfl)
    | cons token tokens => exact all token (rest ▸ List.mem_cons_self)
  unfold Stream.peek
  simp only
  split
  case isTrue => exact made _ _ _ (.inr rfl)
  case isFalse => exact first

theorem All.next (all : s.All p) : s.next.All p := by
  intro token member
  refine all token ?_
  obtain ⟨rest, split, previous⟩ := s
  match rest, member with
  | [_], member => exact member
  | _ :: _ :: _, member => exact List.mem_cons_of_mem _ member

theorem All.half (all : s.All p) (splits : s.splitShift? = some m) : m.All p := by
  obtain ⟨-, -, rest, -⟩ := splitShift_eq splits
  intro token member
  exact all token (rest ▸ member)

end All

end Stream

/-- Whether a token is a bracket. -/
def TokenKind.isBracket : TokenKind → Bool
  | leftParen | rightParen | leftBracket | rightBracket | leftBrace | rightBrace => true
  | _ => false

/-- Tokens in which every bracket that opens is closed by its own kind, properly nested. -/
inductive Balanced : List Token → Prop where
  | nil : Balanced []
  | cons {token : Token} {rest : List Token} (noBracket : token.kind.isBracket = false)
      (balanced : Balanced rest) : Balanced (token :: rest)
  | bracket {opening closing : Token} {within rest : List Token} {bracket : Bracket}
      (opens : opening.kind = bracket.opener) (inner : Balanced within)
      (closes : closing.kind = bracket.closer) (balanced : Balanced rest) :
      Balanced (opening :: (within ++ closing :: rest))

theorem Balanced.append {first second : List Token} (left : Balanced first)
    (right : Balanced second) : Balanced (first ++ second) := by
  induction left with
  | nil => exact right
  | cons noBracket _ ih => exact .cons noBracket ih
  | bracket opens inner closes _ _ ih =>
    simpa using Balanced.bracket opens inner closes ih

namespace Reader

/-- Tokens that a walk passes one by one: all but brackets, what a conditional is written with, the
end, and what no expression has. -/
def isPlain : TokenKind → Bool
  | .leftParen | .rightParen | .leftBracket | .rightBracket | .leftBrace | .rightBrace | .colon
  | .semicolon | .fatArrow | .arrow | .question | .plusPlus | .minusMinus | .endOfInput => false
  | kind => !kind.isAssignment

/-- How a successful reading moves over the tokens, whatever the names mean: one by one, by half of a
shift, or over the whole of a bracket or of the first branch of a conditional. The innermost open
bracket decides whether an assignment may stand here. -/
inductive Walk : Option Bracket → Stream → Stream → Prop where
  | here : Walk inside s s
  | token {s : Stream} (plain : isPlain s.kind) (rest : Walk inside s.next t) : Walk inside s t
  | half (splits : s.splitShift? = some m) (rest : Walk inside m t) : Walk inside s t
  /-- The mark of a nullable type. -/
  | mark (asks : s.kind = .question) (marks : marksNullable s) (rest : Walk inside s.next t) :
      Walk inside s t
  | branch (asks : s.kind = .question) (some : s.next.kind ≠ .colon)
      (within : Walk inside s.next m) (colon : m.kind = .colon) (rest : Walk inside m.next t) :
      Walk inside s t
  | bracket (bracket : Bracket) (opens : s.kind = bracket.opener)
      (within : Walk (some bracket) s.next m) (closes : m.kind = bracket.closer)
      (rest : Walk inside m.next t) : Walk inside s t
  | assign (name : s.kind = .identifier) (equal : s.next.kind = .equal)
      (rest : Walk (some .brace) s.next.next t) : Walk (some .brace) s t

namespace Walk

variable {inside : Option Bracket} {s m t : Stream}

theorem pass {kind : TokenKind} (next : s.kind = kind) (plain : isPlain kind)
    (rest : Walk inside s.next t) : Walk inside s t :=
  .token (next ▸ plain) rest

theorem parens (opens : s.kind = .leftParen) (within : Walk (some .paren) s.next m)
    (closes : m.kind = .rightParen) (rest : Walk inside m.next t) : Walk inside s t :=
  .bracket .paren opens within closes rest

theorem trans (first : Walk inside s m) (second : Walk inside m t) : Walk inside s t := by
  induction first with
  | here => exact second
  | token plain _ ih => exact .token plain (ih second)
  | half splits _ ih => exact .half splits (ih second)
  | mark asks marks _ ih => exact .mark asks marks (ih second)
  | branch asks some within colon _ _ ih => exact .branch asks some within colon (ih second)
  | bracket bracket opens within closes _ _ ih =>
    exact .bracket bracket opens within closes (ih second)
  | assign name equal _ ih => exact .assign name equal (ih second)

private theorem used_token {used : List Token} (closed : s.Closed) (more : s.kind ≠ .endOfInput)
    (noBracket : s.kind.isBracket = false) (rest : s.next.rest = used ++ t.rest)
    (balanced : Balanced used) : ∃ used, s.rest = used ++ t.rest ∧ Balanced used := by
  obtain ⟨first, whole, same, -⟩ := closed.rest_eq more
  refine ⟨first :: used, by rw [whole, rest]; rfl, .cons ?_ balanced⟩
  obtain rfl | ⟨shift, -⟩ := same
  · exact noBracket
  · simp [shift, TokenKind.isBracket]

private theorem peek_of_bracket (closed : s.Closed) (isBracket : s.kind.isBracket) :
    s.rest = s.peek :: s.next.rest ∧ s.next.Closed := by
  have more : s.kind ≠ .endOfInput := fun same => by simp [same, TokenKind.isBracket] at isBracket
  obtain ⟨first, whole, rfl | ⟨-, half⟩, next⟩ := closed.rest_eq more
  · exact ⟨whole, next⟩
  · simp [half, TokenKind.isBracket] at isBracket

private theorem opener_isBracket (bracket : Bracket) : bracket.opener.isBracket := by
  cases bracket <;> rfl

private theorem closer_isBracket (bracket : Bracket) : bracket.closer.isBracket := by
  cases bracket <;> rfl

/-- A walk goes over tokens from the front whose brackets match, and a stream that has an end keeps
it. -/
theorem used (walk : Walk inside s t) (closed : s.Closed) :
    t.Closed ∧ ∃ used, s.rest = used ++ t.rest ∧ Balanced used := by
  induction walk with
  | here => exact ⟨closed, [], rfl, .nil⟩
  | @token _ _ s plain _ ih =>
    have noBracket : s.kind.isBracket = false ∧ s.kind ≠ .endOfInput := by
      cases kind : s.kind <;> simp [kind, isPlain, TokenKind.isBracket] at plain ⊢
    obtain ⟨ends, used, rest, balanced⟩ := ih (closed.next noBracket.2)
    exact ⟨ends, used_token closed noBracket.2 noBracket.1 rest balanced⟩
  | half splits _ ih =>
    obtain ⟨ends, used, rest, balanced⟩ := ih (closed.half splits)
    exact ⟨ends, used, (Stream.splitShift_eq splits).2.2.1 ▸ rest, balanced⟩
  | mark asks _ _ ih =>
    obtain ⟨ends, used, rest, balanced⟩ := ih (closed.next (by simp [asks]))
    exact ⟨ends, used_token closed (by simp [asks]) (by simp [asks, TokenKind.isBracket]) rest
      balanced⟩
  | branch asks _ _ colon _ inner ih =>
    obtain ⟨middle, within, first, balancedWithin⟩ := inner (closed.next (by simp [asks]))
    obtain ⟨ends, after, second, balanced⟩ := ih (middle.next (by simp [colon]))
    obtain ⟨after, second, balanced⟩ := used_token middle (by simp [colon])
      (by simp [colon, TokenKind.isBracket]) second balanced
    refine ⟨ends, used_token closed (by simp [asks]) (by simp [asks, TokenKind.isBracket])
      ?_ (balancedWithin.append balanced)⟩
    rw [first, second, List.append_assoc]
  | bracket _ opens _ closes _ inner ih =>
    obtain ⟨start, nextClosed⟩ := peek_of_bracket closed (opens ▸ opener_isBracket _)
    obtain ⟨middle, within, first, balancedWithin⟩ := inner nextClosed
    obtain ⟨stop, nextClosed⟩ := peek_of_bracket middle (closes ▸ closer_isBracket _)
    obtain ⟨ends, after, second, balanced⟩ := ih nextClosed
    refine ⟨ends, _, ?_, .bracket opens balancedWithin closes balanced⟩
    simp [start, first, stop, second]
  | assign name equal _ ih =>
    have first := closed.next (by simp [name])
    obtain ⟨ends, used, rest, balanced⟩ := ih (first.next (by simp [equal]))
    obtain ⟨used, rest, balanced⟩ := used_token first (by simp [equal])
      (by simp [equal, TokenKind.isBracket]) rest balanced
    exact ⟨ends, used_token closed (by simp [name]) (by simp [name, TokenKind.isBracket]) rest
      balanced⟩

theorem closed (walk : Walk inside s t) (start : s.Closed) : t.Closed := (walk.used start).1

theorem length_le (walk : Walk inside s t) (start : s.Closed) :
    t.rest.length ≤ s.rest.length := by
  obtain ⟨-, used, rest, -⟩ := walk.used start
  simp [rest]

theorem all {p : Token → Prop} (walk : Walk inside s t) (all : s.All p) : t.All p := by
  induction walk with
  | here => exact all
  | token _ _ ih => exact ih all.next
  | half splits _ ih => exact ih (all.half splits)
  | mark _ _ _ ih => exact ih all.next
  | branch _ _ _ _ _ inner ih => exact ih (inner all.next).next
  | bracket _ _ _ _ _ inner ih => exact ih (inner all.next).next
  | assign _ _ _ ih => exact ih all.next.next

end Walk

/-- An attempt that comes to something moves over the tokens by a walk. -/
def Walks {α : Type} (read : Attempt α) : Prop :=
  ∀ s result t inside, read s = some (result, t) → Walk inside s t

section TypeNames

variable {scope : Scope} {readTy : Attempt Ty} {s t m : Stream} {inside : Option Bracket}

theorem argsFrom_walks (walks : Walks readTy) (fuel : Nat) : Walks (argsFrom readTy fuel) := by
  induction fuel with
  | zero =>
    intro s args t inside read
    cases read
  | succ fuel ih =>
    intro s args t inside read
    simp only [argsFrom, Option.bind_eq_some_iff] at read
    obtain ⟨⟨first, m⟩, head, read⟩ := read
    have head := walks s first m inside head
    simp only at read
    split at read
    case h_1 next ate =>
      obtain ⟨comma, rfl⟩ := Stream.eat_eq.mp ate
      obtain ⟨⟨others, last⟩, rest, same⟩ := Option.map_eq_some_iff.mp read
      cases same
      exact head.trans (.pass comma rfl
        (ih _ _ _ inside rest))
    case h_2 =>
      obtain ⟨last, closes, same⟩ := Option.map_eq_some_iff.mp read
      cases same
      rcases Option.or_eq_some_iff.mp closes with ate | ⟨-, splits⟩
      · obtain ⟨greater, rfl⟩ := Stream.eat_eq.mp ate
        exact head.trans (.pass greater rfl .here)
      · exact head.trans (.half splits .here)

theorem typeArgs_walks (walks : Walks readTy) : Walks (typeArgs readTy) := by
  intro s args t inside read
  obtain ⟨after, ate, read⟩ := Option.bind_eq_some_iff.mp read
  obtain ⟨less, rfl⟩ := Stream.eat_eq.mp ate
  exact .pass less rfl (argsFrom_walks walks _ _ _ _ inside read)

theorem generic_walks (walks : Walks readTy) (name : String) :
    Walks (generic? scope readTy name) := by
  intro s ty t inside read
  simp only [generic?, Option.bind_eq_some_iff, Option.map_eq_some_iff] at read
  obtain ⟨⟨args, m⟩, read, ty, -, same⟩ := read
  cases same
  exact typeArgs_walks walks _ _ _ inside read

theorem pathFrom_walks (walks : Walks readTy) (fuel : Nat) (name : String) :
    Walks (pathFrom scope readTy fuel name) := by
  induction fuel generalizing name with
  | zero =>
    intro s ty t inside read
    cases read
  | succ fuel ih =>
    intro s ty t inside read
    simp only [pathFrom] at read
    split at read
    case h_1 found generic =>
      cases read
      exact generic_walks walks name _ _ _ inside generic
    case h_2 =>
      split at read
      case h_1 => cases read; exact .here
      case h_2 =>
        split at read
        case isTrue dotted =>
          rw [Stream.kindAt_one] at dotted
          exact .pass dotted.1 rfl
            (.pass dotted.2 rfl
              (ih _ _ _ _ inside read))
        case isFalse => cases read

theorem path_walks (walks : Walks readTy) : Walks (path scope readTy) := by
  intro s ty t inside read
  unfold path at read
  split at read
  case isTrue name =>
    exact .pass name rfl
      (pathFrom_walks walks _ _ _ _ _ inside read)
  case isFalse => cases read

theorem withNullable_walk (ty : Ty) (s : Stream) : Walk inside s (withNullable ty s).2 := by
  unfold withNullable
  split
  case isTrue marked => exact .mark marked.1 marked.2 .here
  case isFalse => exact .here

theorem withArrays_walk (fuel : Nat) (ty : Ty) (s : Stream) :
    Walk inside s (withArrays fuel ty s).2 := by
  induction fuel generalizing ty s with
  | zero => exact .here
  | succ fuel ih =>
    simp only [withArrays]
    split
    case isTrue pair =>
      rw [Stream.kindAt_one] at pair
      exact .bracket .square pair.1 .here pair.2 (ih _ _)
    case isFalse => exact .here

/-- A type is made of plain tokens, however its reading nests: its brackets are pairs. -/
theorem typeWithin_walks (depth : Nat) : Walks (typeWithin scope depth) := by
  induction depth with
  | zero =>
    intro s ty t inside read
    cases read
  | succ depth ih =>
    intro s ty t inside read
    simp only [typeWithin, Option.map_eq_some_iff] at read
    obtain ⟨⟨plain, m⟩, named, same⟩ := read
    have same : (withArrays _ _ _).2 = t := congrArg Prod.snd same
    rw [← same]
    exact (path_walks ih _ _ _ inside named).trans
      ((withNullable_walk plain m).trans (withArrays_walk _ _ _))

theorem type_walks : Walks (type? scope) :=
  fun s ty t inside read => typeWithin_walks _ s ty t inside read

theorem typePath_walks : Walks (typePath? scope) :=
  fun s ty t inside read => path_walks (typeWithin_walks _) s ty t inside read

theorem path_named {ty : Ty} (read : path scope readTy s = some (ty, t)) : s.kind = .identifier := by
  unfold path at read
  split at read
  case isTrue name => exact name
  case isFalse => cases read

theorem type_named {ty : Ty} (read : type? scope s = some (ty, t)) : s.kind = .identifier := by
  obtain ⟨_, named, -⟩ := Option.map_eq_some_iff.mp read
  exact path_named named

theorem castTarget_walk {ty : Ty} (target : castTarget? scope s = some (ty, t)) :
    ∃ m, Walk inside s m ∧ m.kind = .rightParen ∧ m.next = t := by
  simp only [castTarget?, Option.bind_eq_some_iff, Option.map_eq_some_iff] at target
  obtain ⟨⟨ty, m⟩, named, last, ate, same⟩ := target
  cases same
  obtain ⟨closes, rfl⟩ := Stream.eat_eq.mp ate
  exact ⟨m, type_walks _ _ _ _ named, closes, rfl⟩

end TypeNames

/-- What stands in front of the name of a parameter: nothing, or its type. A name is the parameter
itself where a comma or the closing parenthesis comes behind it. -/
inductive Front (scope : Scope) (s : Stream) : Option Ty → Stream → Prop
  | bare (named : s.kind = .identifier)
      (behind : s.next.kind = .comma ∨ s.next.kind = .rightParen) : Front scope s none s
  | typed (behind : ¬ (s.next.kind = .comma ∨ s.next.kind = .rightParen))
      (read : type? scope s = some (ty, m)) : Front scope s (some ty) m

section Headers

variable {scope : Scope} {s m t : Stream} {header : List HeaderParam} {α β : Type}

theorem bind_comes {first : Attempt α} {rest : α → Attempt β} {result : β} :
    (first >>= rest) s = some (result, t) ↔
      ∃ a m, first s = some (a, m) ∧ rest a m = some (result, t) := by
  refine Option.bind_eq_some_iff.trans ⟨?_, ?_⟩
  · rintro ⟨⟨a, m⟩, head, tail⟩
    exact ⟨a, m, head, tail⟩
  · rintro ⟨a, m, head, tail⟩
    exact ⟨(a, m), head, tail⟩

theorem get_then {rest : Stream → Attempt β} : (get >>= rest) s = rest s s := rfl

theorem set_then {rest : PUnit → Attempt β} : (set m >>= rest) s = rest ⟨⟩ m := rfl

theorem Front.named {ty : Option Ty} (front : Front scope s ty m) : s.kind = .identifier := by
  cases front with
  | bare named => exact named
  | typed behind read => exact type_named read

theorem Front.walk {ty : Option Ty} (front : Front scope s ty m) (inside : Option Bracket) :
    Walk inside s m := by
  cases front with
  | bare => exact .here
  | typed behind read => exact type_walks _ _ _ _ read

/-- What comes behind the type of a parameter: its name, and then the others or the end. -/
theorem nameAfter_eq {fuel : Nat} {ty : Option Ty} {start : Span} :
    (if m.peek.kind ≠ .identifier then failure
      else match m.next.eat? .comma with
        | some after => do
          set after
          let others ← headerFrom scope fuel
          return ⟨m.peek.lexeme, ty, start.join m.peek.span⟩ :: others
        | none =>
          match m.next.eat? .rightParen with
          | some after => do
            set after
            return [⟨m.peek.lexeme, ty, start.join m.peek.span⟩]
          | none => failure : Attempt (List HeaderParam)) m =
    if m.kind = .identifier then
      match m.next.eat? .comma with
      | some after => (headerFrom scope fuel after).map fun others =>
        (⟨m.peek.lexeme, ty, start.join m.peek.span⟩ :: others.1, others.2)
      | none => (m.next.eat? .rightParen).map fun after =>
        ([⟨m.peek.lexeme, ty, start.join m.peek.span⟩], after)
    else none := by
  rw [Stream.kind]
  by_cases named : m.peek.kind = .identifier
  · rw [if_neg (not_not_intro named), if_pos named]
    cases m.next.eat? .comma with
    | some after =>
      simp only [set_then]
      rw [Option.map_eq_bind]
      rfl
    | none => cases m.next.eat? .rightParen <;> rfl
  · rw [if_pos named, if_neg named]
    rfl

/-- The parameters behind an opening parenthesis: the type of the first, if it is written, and what
comes behind it. -/
theorem headerFrom_succ {fuel : Nat} : headerFrom scope (fuel + 1) s =
    (if s.kind = .identifier ∧ (s.next.kind = .comma ∨ s.next.kind = .rightParen) then
        some (none, s)
      else (type? scope s).map fun reply => (some reply.1, reply.2)).bind fun reply =>
      if reply.2.kind = .identifier then
        match reply.2.next.eat? .comma with
        | some after => (headerFrom scope fuel after).map fun others =>
          (⟨reply.2.peek.lexeme, reply.1, s.peek.span.join reply.2.peek.span⟩ :: others.1, others.2)
        | none => (reply.2.next.eat? .rightParen).map fun after =>
          ([⟨reply.2.peek.lexeme, reply.1, s.peek.span.join reply.2.peek.span⟩], after)
      else none := by
  simp only [headerFrom, get_then, Stream.kindAt_one]
  by_cases bare : s.kind = .identifier ∧ (s.next.kind = .comma ∨ s.next.kind = .rightParen)
  · have isBare : s.peek.kind = .identifier ∧ _ := bare
    rw [if_pos bare, if_pos isBare, pure_bind, get_then, Option.bind_some]
    exact nameAfter_eq
  · have notBare : ¬ (s.peek.kind = .identifier ∧ _) := bare
    rw [if_neg bare, if_neg notBare, map_eq_pure_bind, bind_assoc, Option.bind_map]
    refine Option.bind_congr fun reply _ => ?_
    exact nameAfter_eq

/-- A list of parameters begins with what stands in front of a name and the name; behind that it goes
on or closes. -/
theorem headerFrom_cases {fuel : Nat} (read : headerFrom scope (fuel + 1) s = some (header, t)) :
    ∃ ty m others, Front scope s ty m ∧ m.kind = .identifier ∧
      header = ⟨m.peek.lexeme, ty, s.peek.span.join m.peek.span⟩ :: others ∧
      (m.next.kind = .comma ∧ headerFrom scope fuel m.next.next = some (others, t) ∨
        m.next.kind = .rightParen ∧ others = [] ∧ m.next.next = t) := by
  rw [headerFrom_succ] at read
  obtain ⟨⟨ty, m⟩, front, read⟩ := Option.bind_eq_some_iff.mp read
  have front : Front scope s ty m := by
    split at front
    case isTrue bare =>
      cases front
      exact .bare bare.1 bare.2
    case isFalse other =>
      obtain ⟨⟨written, m⟩, typed, same⟩ := Option.map_eq_some_iff.mp front
      cases same
      exact .typed (fun next => other ⟨type_named typed, next⟩) typed
  split at read
  case isFalse => cases read
  case isTrue name =>
    split at read
    case h_1 after ate =>
      obtain ⟨comma, rfl⟩ := Stream.eat_eq.mp ate
      obtain ⟨⟨others, last⟩, rest, same⟩ := Option.map_eq_some_iff.mp read
      cases same
      exact ⟨ty, m, others, front, name, rfl, .inl ⟨comma, rest⟩⟩
    case h_2 =>
      obtain ⟨after, ate, same⟩ := Option.map_eq_some_iff.mp read
      obtain ⟨closes, rfl⟩ := Stream.eat_eq.mp ate
      cases same
      exact ⟨ty, m, [], front, name, rfl, .inr ⟨closes, rfl, rfl⟩⟩

theorem headerFrom_walk {fuel : Nat} (read : headerFrom scope fuel s = some (header, t)) :
    ∃ m, Walk (some .paren) s m ∧ m.kind = .rightParen ∧ m.next = t := by
  induction fuel generalizing s header with
  | zero => cases read
  | succ fuel ih =>
    obtain ⟨ty, m, others, front, name, -, ⟨comma, rest⟩ | ⟨closes, -, rfl⟩⟩ := headerFrom_cases read
    · obtain ⟨n, walk, closes, rfl⟩ := ih rest
      exact ⟨n, (front.walk _).trans (.pass name rfl (.pass comma rfl walk)), closes, rfl⟩
    · exact ⟨m.next, (front.walk _).trans (.pass name rfl .here), closes, rfl⟩

/-- What was read of a header is handed on where an arrow follows. -/
private theorem arrow_eq (params : List HeaderParam) :
    (match m.eat? .fatArrow with
      | some after => do
        set after
        return params
      | none => failure : Attempt (List HeaderParam)) m =
    (m.eat? .fatArrow).map fun after => (params, after) := by
  cases m.eat? .fatArrow <;> rfl

/-- A header in parentheses is what stands in them, in front of an arrow. -/
theorem headerInParens_eq : headerInParens scope s =
    (((s.next.eat? .rightParen).map fun after => ([], after)).or
        (headerFrom scope s.next.rest.length s.next)).bind fun reply =>
      (reply.2.eat? .fatArrow).map fun after => (reply.1, after) := by
  simp only [headerInParens, get_then]
  cases s.next.eat? .rightParen with
  | some after =>
    simp only [set_then, pure_bind, get_then, Option.map_some, Option.some_or, Option.bind_some]
    exact arrow_eq []
  | none =>
    simp only [set_then, Option.map_none, Option.none_or]
    exact Option.bind_congr fun reply _ => arrow_eq reply.1

/-- A header is a name and an arrow, or a list in parentheses and an arrow, and the list may be
empty. -/
theorem header_cases (read : header? scope s = some (header, t)) :
    s.kind = .identifier ∧ s.next.kind = .fatArrow ∧ s.next.next = t ∧
        header = [⟨s.peek.lexeme, none, s.peek.span⟩] ∨
      s.kind = .leftParen ∧ ∃ m, m.kind = .fatArrow ∧ m.next = t ∧
        (s.next.kind = .rightParen ∧ s.next.next = m ∧ header = [] ∨
          headerFrom scope s.next.rest.length s.next = some (header, m)) := by
  simp only [header?, get_then] at read
  split at read
  case isTrue named =>
    rw [Stream.kindAt_one] at named
    cases read
    exact .inl ⟨named.1, named.2, rfl, rfl⟩
  case isFalse =>
    split at read
    case isFalse => cases read
    case isTrue opens =>
      rw [headerInParens_eq] at read
      obtain ⟨⟨params, m⟩, list, read⟩ := Option.bind_eq_some_iff.mp read
      obtain ⟨after, ate, same⟩ := Option.map_eq_some_iff.mp read
      obtain ⟨arrow, rfl⟩ := Stream.eat_eq.mp ate
      cases same
      refine .inr ⟨opens, m, arrow, rfl, ?_⟩
      obtain shut | ⟨-, list⟩ := Option.or_eq_some_iff.mp list
      · obtain ⟨after, ate, same⟩ := Option.map_eq_some_iff.mp shut
        obtain ⟨closes, rfl⟩ := Stream.eat_eq.mp ate
        cases same
        exact .inl ⟨closes, rfl, rfl⟩
      · exact .inr list

/-- A header is a name and an arrow, or a bracket in front of an arrow. -/
theorem header_walk (read : header? scope s = some (header, t)) :
    s.kind = .identifier ∧ s.next.kind = .fatArrow ∧ s.next.next = t ∨
      s.kind = .leftParen ∧ ∃ m, Walk (some .paren) s.next m ∧ m.kind = .rightParen ∧
        m.next.kind = .fatArrow ∧ m.next.next = t := by
  obtain ⟨named, arrow, behind, -⟩ | ⟨opens, m, arrow, rfl, list⟩ := header_cases read
  · exact .inl ⟨named, arrow, behind⟩
  refine .inr ⟨opens, ?_⟩
  obtain ⟨closes, rfl, -⟩ | list := list
  · exact ⟨s.next, .here, closes, arrow, rfl⟩
  · obtain ⟨m, walk, closes, rfl⟩ := headerFrom_walk list
    exact ⟨m, walk, closes, arrow, rfl⟩

end Headers

theorem token_of_operator {kind : TokenKind} {op : BinaryOp}
    (sign : BinaryOp.ofToken? kind = some op) : op.token = kind := by
  unfold BinaryOp.ofToken? at sign
  simpa using List.find?_some sign

theorem plain_of_operator {kind : TokenKind} {op : BinaryOp}
    (sign : BinaryOp.ofToken? kind = some op) : isPlain kind := by
  rw [← token_of_operator sign]
  cases op <;> rfl

theorem plain_of_sign {kind : TokenKind} (sign : isSign kind) : isPlain kind := by
  cases kind <;> first | rfl | cases sign

theorem plain_of_test {kind : TokenKind} {op : TypeTest} (asks : test? kind = some op) :
    isPlain kind := by
  cases kind <;> first | rfl | cases asks

theorem plain_of_constant {token : Token} {value : Value} {ty : Ty}
    (constant : constant? token = some (value, ty)) : isPlain token.kind := by
  unfold constant? at constant
  split at constant <;> simp_all [isPlain, TokenKind.isAssignment]

theorem ne_end_of_plain {kind : TokenKind} (plain : isPlain kind) : kind ≠ .endOfInput := by
  rintro rfl
  cases plain

theorem ne_end_of_sign {kind : TokenKind} (sign : isSign kind) : kind ≠ .endOfInput :=
  ne_end_of_plain (plain_of_sign sign)

theorem ne_end_of_operator {kind : TokenKind} {op : BinaryOp}
    (sign : BinaryOp.ofToken? kind = some op) : kind ≠ .endOfInput :=
  ne_end_of_plain (plain_of_operator sign)

theorem ne_end_of_opener {bracket : Bracket} {kind : TokenKind} (opens : kind = bracket.opener) :
    kind ≠ .endOfInput := by
  rw [opens]
  cases bracket <;> simp [Bracket.opener]

theorem ne_end_of_closer {bracket : Bracket} {kind : TokenKind} (closes : kind = bracket.closer) :
    kind ≠ .endOfInput := by
  rw [closes]
  cases bracket <;> simp [Bracket.closer]

/-- The tokens that an operand begins with. -/
def operandKinds : List TokenKind :=
  [.number, .string, .char, .trueWord, .falseWord, .null, .leftParen, .plus, .minus, .bang, .tilde,
    .new, .typeOf, .sizeOf, .identifier]

/-- An operand begins with one of the tokens that may begin it. -/
theorem Reads.begins {scope : Scope} {inside : Option Bracket} {s t : Stream} {e : Expr}
    (read : Reads scope (.operand inside) s e t) : s.kind ∈ operandKinds := by
  cases read with
  | literal constant =>
    unfold constant? at constant
    rw [Stream.kind]
    split at constant <;> simp_all [operandKinds]
  | sign signed =>
    unfold isSign at signed
    split at signed <;> simp_all [operandKinds]
  | cast opens | group opens => simp [opens, operandKinds]
  | arrayItems new | arrayLength new | create new => simp [new, operandKinds]
  | typeOf keyword | sizeOf keyword => simp [keyword, operandKinds]
  | parameter name | defaultCall name | defaultMember name => simp [name, operandKinds]
  | staticCall begins | staticMember begins => simp [begins.1, operandKinds]

theorem Reads.ne_colon {scope : Scope} {least : Nat} {inside : Option Bracket} {s t : Stream}
    {e : Expr} (read : Reads scope (.expression least inside) s e t) : s.kind ≠ .colon := by
  cases read with
  | expression first =>
    intro colon
    have begins := first.begins
    simp [operandKinds, colon] at begins

/-- What a derivation of a part says about the tokens it goes over. -/
def Part.Walked : Part → Stream → Stream → Prop
  | .expression _ inside, s, t | .operand inside, s, t | .operators _ inside _, s, t
  | .operator _ inside _, s, t => Walk inside s t
  | .arguments _, s, t | .givens, s, t | .initializer _, s, t => ∀ inside, Walk inside s t
  | .items bracket, s, t => ∃ m, Walk (some bracket) s m ∧ m.kind = bracket.closer ∧ m.next = t
  | .assignments _, s, t => ∃ m, Walk (some .brace) s m ∧ m.kind = .rightBrace ∧ m.next = t

/-- Whatever is read passes over plain tokens and over brackets that are closed. -/
theorem Reads.walked {scope : Scope} {part : Part} {s t : Stream} {result : part.Result}
    (reads : Reads scope part s result t) : part.Walked s t := by
  induction reads with
  | expression _ _ first more => exact first.trans more
  | literal constant => exact .token (plain_of_constant constant) .here
  | cast opens target _ _ read =>
    obtain ⟨m, within, closes, rfl⟩ := castTarget_walk target
    exact .parens opens within closes read
  | group opens _ _ closes read => exact .parens opens read closes .here
  | sign signed _ _ read => exact .token (plain_of_sign signed) read
  | arrayItems new named _ _ _ read =>
    exact .pass new rfl ((type_walks _ _ _ _ named).trans (read _))
  | arrayLength new named _ _ _ _ read =>
    exact .pass new rfl ((type_walks _ _ _ _ named).trans (read _))
  | create new named _ _ _ _ given filled =>
    exact .pass new rfl ((type_walks _ _ _ _ named).trans ((given _).trans (filled _)))
  | typeOf keyword opens named closes =>
    exact .pass keyword rfl (.parens opens (type_walks _ _ _ _ named) closes .here)
  | sizeOf keyword opens named closes _ =>
    exact .pass keyword rfl (.parens opens (type_walks _ _ _ _ named) closes .here)
  | parameter name _ => exact .pass name rfl .here
  | defaultCall name _ _ _ _ _ read => exact .pass name rfl (read _)
  | defaultMember name _ _ _ _ => exact .pass name rfl .here
  | staticCall _ named dot name _ _ _ read =>
    exact (typePath_walks _ _ _ _ named).trans (.pass dot rfl (.pass name rfl (read _)))
  | staticMember _ named dot name _ _ =>
    exact (typePath_walks _ _ _ _ named).trans (.pass dot rfl (.pass name rfl .here))
  | done _ => exact .here
  | more _ _ _ first rest => exact first.trans rest
  | memberCall dot name _ _ _ read => exact .pass dot rfl (.pass name rfl (read _))
  | member dot name _ _ => exact .pass dot rfl (.pass name rfl .here)
  | index _ _ _ read => exact read _
  | conditional asks _ branch colon _ _ first second =>
    exact .branch asks branch.ne_colon first colon second
  | coalesce asks _ _ read => exact .pass asks rfl read
  | typeTest asks named _ => exact .token (plain_of_test asks) (type_walks _ _ _ _ named)
  | binary sign _ _ read => exact .token (plain_of_operator sign) read
  | noArguments opens closes => exact fun _ => .bracket _ opens .here closes .here
  | arguments opens _ _ read =>
    obtain ⟨m, within, closes, rfl⟩ := read
    exact fun _ => .bracket _ opens within closes .here
  | lastItem _ closes read => exact ⟨_, read, closes, rfl⟩
  | nextItem _ comma _ read others =>
    obtain ⟨m, rest, closes, rfl⟩ := others
    exact ⟨m, read.trans (.pass comma rfl rest), closes, rfl⟩
  | noGivens _ => exact fun _ => .here
  | givens _ _ read => exact read
  | noInitializer _ => exact fun _ => .here
  | members opens _ _ _ read =>
    obtain ⟨m, within, closes, rfl⟩ := read
    exact fun _ => .bracket .brace opens within closes .here
  | adds _ _ _ _ read => exact read
  | lastAssignment name equal _ _ _ closes read => exact ⟨_, .assign name equal read, closes, rfl⟩
  | trailingComma name equal _ _ _ comma closes read =>
    exact ⟨_, .assign name equal (read.trans (.pass comma rfl .here)), closes, rfl⟩
  | nextAssignment name equal _ _ _ comma _ _ read rest =>
    obtain ⟨m, rest, closes, rfl⟩ := rest
    exact ⟨m, .assign name equal (read.trans (.pass comma rfl rest)), closes, rfl⟩

/-- What holds of all tokens before a part is read holds of those behind it. -/
theorem Reads.all {scope : Scope} {part : Part} {s t : Stream} {result : part.Result}
    {p : Token → Prop} (reads : Reads scope part s result t) (all : s.All p) : t.All p := by
  have walked := reads.walked
  cases part with
  | expression | operand | operators | operator => exact Walk.all walked all
  | arguments | givens | initializer => exact (walked none).all all
  | items | assignments =>
    obtain ⟨m, walk, -, rfl⟩ := walked
    exact (walk.all all).next

end Reader
end Formula
