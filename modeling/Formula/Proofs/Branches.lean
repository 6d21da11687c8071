import Formula.Proofs.HeadersAlongside
import Formula.Proofs.Parentheses

/-! A branch of a conditional without parentheses. What is read on its own is read alike in
parentheses, where nothing but the parenthesis ends it, and in front of a colon, where an expression
ends in any bracket. So a text with a first branch in parentheses and the same text without them agree
up to where the branch begins and again behind it. The one thing that a colon does not end is a type
in front of a question mark: the mark is not taken for one of a nullable type there, and it has no
branch behind it, so no accepted text has a question mark in front of a colon. -/
namespace Formula.Reader

open Formula.Expr (Alike)
open Formula.Stream (Parallel)

variable {scope : Scope} {s t m : Stream} {inside : Option Bracket} {least : Nat} {e left : Expr}

section First

/-- Outside of brackets, no comma and no closing parenthesis comes behind an operand. -/
theorem Reads.goes_on (read : Reads scope (.operators least none left) s e t) :
    s.kind ≠ .comma ∧ s.kind ≠ .rightParen := by
  have known : ∃ ended, endsBefore s.peek none = .ok ended := by
    cases read with
    | done stops => exact stops.elim (fun ends => ⟨true, ends⟩) (fun goes => ⟨false, goes.1⟩)
    | more goesOn => exact ⟨false, goesOn.1⟩
  obtain ⟨ended, known⟩ := known
  constructor <;> intro same <;> rw [Stream.kind] at same <;>
    simp [endsBefore, same, TokenKind.isClosing] at known

/-- Behind the first name of a type comes a dot or type arguments, or the type is that name. -/
theorem typePath_second {ty : Ty} (named : typePath? scope s = some (ty, m)) :
    s.next.kind = .less ∨ s.next.kind = .dot ∨ s.next = m := by
  unfold typePath? path at named
  split at named
  case isTrue =>
    simp only [pathFrom] at named
    split at named
    case h_1 generic =>
      simp only [generic?, typeArgs, Option.bind_eq_some_iff] at generic
      obtain ⟨_, ⟨_, ate, -⟩, -⟩ := generic
      exact .inl (Stream.eat_eq.mp ate).1
    case h_2 =>
      split at named
      case h_1 => exact .inr (.inr (congrArg Prod.snd (Option.some.inj named)))
      case h_2 =>
        split at named
        case isTrue dotted => exact .inr (.inl dotted.1)
        case isFalse => cases named
  case isFalse => cases named

/-- Outside of brackets, no comma and no closing parenthesis comes behind a name either. -/
theorem Reads.name_goes_on (first : Reads scope (.operand none) s left m)
    (more : Reads scope (.operators least none left) m e t) (name : s.kind = .identifier) :
    s.next.kind ≠ .comma ∧ s.next.kind ≠ .rightParen := by
  cases first with
  | parameter | defaultMember => exact more.goes_on
  | defaultCall _ _ _ opens =>
    rw [Stream.kindAt_one] at opens
    simp [opens]
  | staticCall _ named dot | staticMember _ named dot =>
    obtain less | dotted | rfl := typePath_second named
    · simp [less]
    · simp [dotted]
    · simp [dot]
  | literal constant =>
    rw [Stream.kind] at name
    simp [constant?, name] at constant
  | sign signed => simp [isSign, name] at signed
  | cast opens | group opens => cases name.symm.trans opens
  | arrayItems new | arrayLength new | create new => cases name.symm.trans new
  | typeOf keyword | sizeOf keyword => cases name.symm.trans keyword

/-- In front of an expression, a question mark does not mark a nullable type. -/
theorem Reads.noMark (read : Reads scope (.expression least none) s.next e t) :
    marksNullable s = false := by
  cases read with
  | expression first more =>
    by_cases name : s.next.kind = .identifier
    · obtain ⟨noComma, noParen⟩ := first.name_goes_on more name
      simp [marksNullable_named name, noComma, noParen]
    · have begins := first.begins
      simp only [operandKinds, List.mem_cons, List.not_mem_nil, or_false, name] at begins
      simp only [marksNullable, Stream.kindAt_one]
      split <;> simp_all

end First

section Alone

variable {words inner behind : List Token} {last closing colon opening : Token}

/-- Words that are read as an expression on their own, up to their end. -/
structure Alone (scope : Scope) (words : List Token) (last : Token) (e : Expr) : Prop where
  noEnd : ∀ token ∈ words, token.kind ≠ .endOfInput
  isEnd : last.kind = .endOfInput
  read : ∃ t, Reads scope (.expression 0 none) (Stream.ofTokens (words ++ [last])) e t ∧
    t.kind = .endOfInput

/-- The words agree with the same words in front of other tokens, but for a question mark that is
last, in front of a colon. -/
theorem Alone.parallel (alone : Alone scope words last e) (seam : Seam (UpTo behind))
    (same : List.Forall₂ Token.SameWord words inner) (before : s.Before (inner ++ behind))
    (noColon : (Stream.ofTokens behind).kind = .colon →
      ∀ mark ∈ words.getLast?, mark.kind ≠ .question) :
    Parallel (UpTo behind) (Stream.ofTokens (words ++ [last])) s := by
  obtain ⟨t, read, isEnd⟩ := alone.read
  have ended : Ended (words ++ [last]) := .append alone.noEnd (.last alone.isEnd)
  have noParen := not_endsInQuestion read isEnd (Stream.before_ofTokens.closed ended)
  refine ⟨words.length, ?_, before.whole.symm, nofun⟩
  rw [before.rest]
  exact Stream.agree_of_words seam (.ended alone.isEnd) same alone.noEnd noColon fun _ => noParen

/-- In parentheses in front of a colon, the words are read as one operand and nothing else. -/
theorem Alone.inParens (alone : Alone scope words last e)
    (noType : ¬ NamesType scope (words ++ [last]))
    (same : List.Forall₂ Token.SameWord words inner) (opens : opening.kind = .leftParen)
    (closes : closing.kind = .rightParen) (isColon : colon.kind = .colon) (ended : Ended behind)
    (before : s.Before (opening :: (inner ++ closing :: colon :: behind))) :
    ∃ e' m, Alike e e' ∧ m.Before (colon :: behind) ∧
      ∀ inside e'' t, Reads scope (.expression 0 inside) s e'' t → e'' = e' ∧ t = m := by
  have behindEnded : Ended (closing :: colon :: behind) :=
    .cons (by simp [closes]) (.cons (by simp [isColon]) ended)
  have closed : s.Closed :=
    before.closed (.cons (by simp [opens])
      (.append (noEnd_of_words same alone.noEnd) behindEnded))
  have kind : (Stream.ofTokens (closing :: colon :: behind)).kind = .rightParen :=
    Stream.before_ofTokens.kind.trans closes
  have seam : Seam (UpTo (closing :: colon :: behind)) := seam_upTo behindEnded (by simp [kind])
  have sides := alone.parallel seam same (before.next (by simp)) (by simp [kind])
  obtain ⟨t, read, isEnd⟩ := alone.read
  obtain ⟨e', m, read', alike, last, noCast⟩ := within_parens seam sides kind
    (fun ty m named isEnd => noType ⟨ty, m, named, isEnd⟩) read isEnd
  have atColon := last.next (List.cons_ne_nil _ _)
  refine ⟨e', m.next, alike, atColon, fun inside e'' t other => ?_⟩
  have stops : Stops 0 inside m.next := by
    have kind : m.next.peek.kind = .colon := atColon.kind.trans isColon
    simp [Stops, endsBefore, kind, TokenKind.isClosing]
  exact other.unique (.expression (.group (before.kind.trans opens) noCast read'
    (last.kind.trans closes)) (.done stops)) closed

/-- In front of a colon, the words are read as they are on their own, if they do not end in a question
mark. -/
theorem Alone.bare (alone : Alone scope words last e)
    (noMark : ∀ mark ∈ words.getLast?, mark.kind ≠ .question)
    (same : List.Forall₂ Token.SameWord words inner) (isColon : colon.kind = .colon)
    (ended : Ended behind) (before : s.Before (inner ++ colon :: behind)) :
    ∃ e' m, Alike e e' ∧ m.Before (colon :: behind) ∧
      Reads scope (.expression 0 inside) s e' m := by
  have kind : (Stream.ofTokens (colon :: behind)).kind = .colon :=
    Stream.before_ofTokens.kind.trans isColon
  have seam : Seam (UpTo (colon :: behind)) :=
    seam_upTo (.cons (by simp [isColon]) ended) (by simp [kind])
  have bridge : Bridge scope (UpTo (colon :: behind)) inside := by
    refine bridge_upTo seam ?_
    rw [Stream.kind] at kind
    simp [endsBefore, kind, TokenKind.isClosing]
  obtain ⟨t, read, isEnd⟩ := alone.read
  obtain ⟨e', m, read', alike, last⟩ :=
    read.upTo isEnd bridge (alone.parallel seam same before fun _ => noMark)
  exact ⟨e', m, alike, last, read'⟩

end Alone

/-- The words part where the first branch of a conditional begins, and they agree again behind it, up
to the end. -/
inductive Gap (near far : List Token) : List Token → List Token → Prop where
  | ended {a b : Token} (isEnd : a.kind = .endOfInput) (isEnd' : b.kind = .endOfInput) :
      Gap near far [a] [b]
  | branch : Gap near far near far

section Gap

variable {near far as bs : List Token}

theorem Gap.kinds (gap : Gap near far as bs) (asks : (Stream.ofTokens near).kind = .question)
    (asks' : (Stream.ofTokens far).kind = .question) :
    (Stream.ofTokens as).kind = .endOfInput ∧ (Stream.ofTokens bs).kind = .endOfInput ∨
      (Stream.ofTokens as).kind = .question ∧ (Stream.ofTokens bs).kind = .question ∧
        as = near ∧ bs = far := by
  cases gap with
  | ended isEnd isEnd' =>
    exact .inl ⟨Stream.before_ofTokens.kind.trans isEnd, Stream.before_ofTokens.kind.trans isEnd'⟩
  | branch => exact .inr ⟨asks, asks', rfl, rfl⟩

theorem seam_gap (ended : Ended near) (ended' : Ended far)
    (asks : (Stream.ofTokens near).kind = .question)
    (asks' : (Stream.ofTokens far).kind = .question)
    (noMark : marksNullable (Stream.ofTokens near) = false)
    (noMark' : marksNullable (Stream.ofTokens far) = false) : Seam (Gap near far) where
  near gap := by
    cases gap with
    | ended isEnd => exact sealed_end isEnd
    | branch => exact ⟨ended, by simp [asks, seamKinds], fun _ => noMark⟩
  far gap := by
    cases gap with
    | ended _ isEnd => exact sealed_end isEnd
    | branch => exact ⟨ended', by simp [asks', seamKinds], fun _ => noMark'⟩
  kinds gap := by
    obtain ⟨isEnd, isEnd'⟩ | ⟨mark, mark', -⟩ := gap.kinds asks asks'
    · exact .inl ⟨isEnd, by simp [isEnd']⟩
    · exact .inr ⟨mark, mark'⟩

theorem together_gap (asks : (Stream.ofTokens near).kind = .question)
    (asks' : (Stream.ofTokens far).kind = .question) : EndTogether (Gap near far) := by
  intro as bs gap isEnd
  obtain ⟨-, isEnd'⟩ | ⟨mark, -⟩ := gap.kinds asks asks'
  · exact isEnd'
  · cases isEnd.symm.trans mark

end Gap

section Branches

variable {front front' no others : List Token} {branch : Expr}
  {question question' colon colon' ending ending' : Token}

/-- A conditional is read alike on two sides if its first branch is: the near side has one branch to
read, and the far side has one that is like it, whatever bracket is open. -/
theorem bridge_gap (asks : question.kind = .question) (asks' : question'.kind = .question)
    (isColon' : colon'.kind = .colon) (isEnd : ending.kind = .endOfInput)
    (isEnd' : ending'.kind = .endOfInput) (noEnd : ∀ token ∈ no, token.kind ≠ .endOfInput)
    (same : List.Forall₂ Token.SameWord no others) (ended : Ended front) (ended' : Ended front')
    (noMark : marksNullable (Stream.ofTokens (question :: front)) = false)
    (one : ∀ (s : Stream) inside yes m, s.Before front →
      Reads scope (.expression 0 inside) s yes m →
      Alike branch yes ∧ m.Before (colon :: (no ++ [ending])))
    (other : ∀ (s : Stream) inside, s.Before front' →
      ∃ yes m, Alike branch yes ∧ m.Before (colon' :: (others ++ [ending'])) ∧
        Reads scope (.expression 0 inside) s yes m) :
    Bridge scope (Gap (question :: front) (question' :: front')) none := by
  have starts : (Stream.ofTokens (question :: front)).Before _ := Stream.before_ofTokens
  have starts' : (Stream.ofTokens (question' :: front')).Before _ := Stream.before_ofTokens
  have seam : Seam (Gap (question :: front) (question' :: front')) := by
    refine seam_gap (.cons (by simp [asks]) ended) (.cons (by simp [asks']) ended')
      (starts.kind.trans asks) (starts'.kind.trans asks') noMark ?_
    obtain ⟨_, _, -, -, read⟩ := other _ none (starts'.next ended'.ne_nil)
    exact read.noMark
  refine ⟨seam, fun here ends least => ?_, fun here mark read _ => ?_⟩
  · obtain ⟨joined, whole, whole'⟩ := here
    obtain ⟨-, isEnd'⟩ | ⟨mark, -⟩ :=
      joined.kinds (starts.kind.trans asks) (starts'.kind.trans asks')
    · have isEnd' := (Stream.kind_whole whole').trans isEnd'
      rw [Stream.kind] at isEnd'
      simp [Stops, endsBefore, isEnd']
    · cases ends.symm.trans ((Stream.kind_whole whole).trans mark)
  · obtain ⟨joined, whole, whole'⟩ := here
    obtain ⟨isEnd, -⟩ | ⟨-, -, near, far⟩ :=
      joined.kinds (starts.kind.trans asks) (starts'.kind.trans asks')
    · cases mark.symm.trans ((Stream.kind_whole whole).trans isEnd)
    · obtain ⟨alike, last⟩ := one _ _ _ _ (Stream.Before.next ⟨near, whole⟩ ended.ne_nil) read
      obtain ⟨yes', m', alike', last', read'⟩ :=
        other _ _ (Stream.Before.next ⟨far, whole'⟩ ended'.ne_nil)
      have behind := last.next (by simp)
      have behind' := last'.next (by simp)
      refine ⟨yes', m', Option.or_none ▸ read', alike.symm.trans alike', last'.kind.trans isColon',
        no.length, ?_, behind.whole.trans behind'.whole.symm, by simp [behind.whole]⟩
      have kind : (Stream.ofTokens [ending']).kind = .endOfInput :=
        Stream.before_ofTokens.kind.trans isEnd'
      rw [behind.rest, behind'.rest]
      exact Stream.agree_of_words seam (.ended isEnd isEnd') same noEnd (by simp [kind])
        (by simp [kind])

end Branches

section Empty

variable {tokens : List Token} {declared : Option (List ParamSpec)} {parsed : Lambda}

/-- A colon is next. -/
def ColonNext (tokens : List Token) : Prop :=
  ∃ colon rest, tokens = colon :: rest ∧ colon.kind = .colon

theorem ColonNext.kind (next : ColonNext s.next.rest) : s.next.kind = .colon := by
  obtain ⟨colon, rest, left, isColon⟩ := next
  have before : s.next.Before (colon :: rest) := ⟨left, rfl⟩
  exact before.kind.trans isColon

/-- A walk does not get past a question mark in front of a colon: the mark is not one of a nullable
type there, and no branch is empty. -/
theorem Walk.emptyBranch (walk : Walk inside s t) (closed : s.Closed)
    (empty : MarkBefore ColonNext s.rest) : MarkBefore ColonNext t.rest := by
  refine walk.keeps_mark closed empty (fun m _ _ next => ?_) (fun m n _ _ _ next some _ => ?_)
  · simp [marksNullable, next.kind]
  · exact absurd next.kind some

theorem header_emptyBranch {header : List HeaderParam} (found : header? scope s = some (header, t))
    (closed : s.Closed) (empty : MarkBefore ColonNext s.rest) :
    t.Closed ∧ MarkBefore ColonNext t.rest := by
  obtain ⟨name, arrow, rfl⟩ | ⟨opens, m, walk, closes, arrow, rfl⟩ := header_walk found
  · obtain ⟨next, empty⟩ := mark_past closed empty (by simp [name])
    exact mark_past next empty (by simp [arrow])
  · obtain ⟨next, empty⟩ := mark_past closed empty (by simp [opens])
    obtain ⟨last, empty⟩ :=
      mark_past (walk.closed next) (walk.emptyBranch next empty) (by simp [closes])
    exact mark_past last empty (by simp [arrow])

/-- No accepted formula has a question mark in front of a colon. -/
theorem lambda_noEmptyBranch
    (accepted : Yields (lambda scope declared) (Stream.ofTokens tokens) parsed t)
    (ended : Ended tokens) : ¬ MarkBefore ColonNext tokens := by
  intro empty
  have closed : (Stream.ofTokens tokens).Closed := Stream.before_ofTokens.closed ended
  obtain ⟨m, first, ran, isEnd⟩ := lambda_yields.mp accepted
  obtain ⟨middle, empty⟩ : m.Closed ∧ MarkBefore ColonNext m.rest := by
    obtain ⟨header, found, -⟩ | ⟨-, -, rfl⟩ := parameters_yields.mp first
    · exact header_emptyBranch found closed empty
    · exact ⟨closed, empty⟩
  have walk : Walk none m t := (expression_reads ran).walked
  exact (mark_next (walk.closed middle) (walk.emptyBranch middle empty)).1 isEnd

end Empty

section Whole

variable {words test test' yes yes' no no' : List Token} {branch : Expr} {parsed : Lambda}
  {question question' opening closing colon colon' ending ending' last : Token} {stop stop' : Stream}
  {declared : Option (List ParamSpec)}

/-- A conditional is read alike with its first branch in parentheses and without them, if the branch
is read on its own, is not the name of a type and does not end in a question mark. -/
theorem bridge_parens (alone : Alone scope words last branch)
    (noType : ¬ NamesType scope (words ++ [last]))
    (noMark : ∀ mark ∈ words.getLast?, mark.kind ≠ .question)
    (same : List.Forall₂ Token.SameWord words yes) (same' : List.Forall₂ Token.SameWord words yes')
    (sameNo : List.Forall₂ Token.SameWord no no')
    (noEnd : ∀ token ∈ no, token.kind ≠ .endOfInput)
    (asks : question.kind = .question) (asks' : question'.kind = .question)
    (opens : opening.kind = .leftParen) (closes : closing.kind = .rightParen)
    (isColon : colon.kind = .colon) (isColon' : colon'.kind = .colon)
    (isEnd : ending.kind = .endOfInput) (isEnd' : ending'.kind = .endOfInput) :
    Bridge scope (Gap (question :: opening :: (yes ++ closing :: colon :: (no ++ [ending])))
      (question' :: (yes' ++ colon' :: (no' ++ [ending'])))) none := by
  have rest : Ended (no ++ [ending]) := .append noEnd (.last isEnd)
  have rest' : Ended (no' ++ [ending']) := .append (noEnd_of_words sameNo noEnd) (.last isEnd')
  have near : Ended (opening :: (yes ++ closing :: colon :: (no ++ [ending]))) :=
    .cons (by simp [opens]) (.append (noEnd_of_words same alone.noEnd) (.cons (by simp [closes])
      (.cons (by simp [isColon]) rest)))
  have far : Ended (yes' ++ colon' :: (no' ++ [ending'])) :=
    .append (noEnd_of_words same' alone.noEnd) (.cons (by simp [isColon']) rest')
  have notMarked : marksNullable (Stream.ofTokens
      (question :: opening :: (yes ++ closing :: colon :: (no ++ [ending])))) = false := by
    have kind : ∀ tokens, (Stream.ofTokens (question :: opening :: tokens)).next.kind = .leftParen :=
      fun _ => opens
    simp [marksNullable, kind]
  have one : ∀ (s : Stream) inside e m,
      s.Before (opening :: (yes ++ closing :: colon :: (no ++ [ending]))) →
      Reads scope (.expression 0 inside) s e m →
      Alike branch e ∧ m.Before (colon :: (no ++ [ending])) := by
    intro s inside e m before read
    obtain ⟨e', m', alike, last, only⟩ :=
      alone.inParens noType same opens closes isColon rest before
    obtain ⟨rfl, rfl⟩ := only inside e m read
    exact ⟨alike, last⟩
  exact bridge_gap asks asks' isColon' isEnd isEnd' noEnd sameNo near far notMarked one
    fun s inside before => alone.bare noMark same' isColon' rest' before

/-- Where a conditional with its first branch in parentheses is accepted, and the branch is read on
its own and is not the name of a type, the parentheses can be left out just if the branch does not
end in a question mark: the same parameters are then in force, and the tree is the same but for
places. The words without the parentheses may stand in other places. -/
theorem lambda_branch (noEndTest : ∀ token ∈ test, token.kind ≠ .endOfInput)
    (noEndYes : ∀ token ∈ words, token.kind ≠ .endOfInput)
    (noEndNo : ∀ token ∈ no, token.kind ≠ .endOfInput)
    (sameTest : List.Forall₂ Token.SameWord test test')
    (same : List.Forall₂ Token.SameWord words yes) (same' : List.Forall₂ Token.SameWord words yes')
    (sameNo : List.Forall₂ Token.SameWord no no')
    (asks : question.kind = .question) (asks' : question'.kind = .question)
    (opens : opening.kind = .leftParen) (closes : closing.kind = .rightParen)
    (isColon : colon.kind = .colon) (isColon' : colon'.kind = .colon)
    (isEnd : ending.kind = .endOfInput) (isEnd' : ending'.kind = .endOfInput)
    (isLast : last.kind = .endOfInput)
    (accepted : Yields (lambda scope declared) (Stream.ofTokens (test ++ question :: opening ::
      (yes ++ closing :: colon :: (no ++ [ending])))) parsed stop)
    (alone : Yields (expression { scope with params := parsed.params } 0 none)
      (Stream.ofTokens (words ++ [last])) branch stop') (whole : stop'.kind = .endOfInput)
    (noType : ¬ NamesType scope (words ++ [last])) :
    (∀ mark ∈ words.getLast?, mark.kind ≠ .question) ↔ ∃ parsed' t, Yields (lambda scope declared)
        (Stream.ofTokens (test' ++ question' :: (yes' ++ colon' :: (no' ++ [ending'])))) parsed' t ∧
      parsed'.params = parsed.params ∧ parsed'.body.unplaced = parsed.body.unplaced := by
  constructor
  case mp =>
    intro noMark
    have alone : Alone { scope with params := parsed.params } words last branch :=
      ⟨noEndYes, isLast, stop', expression_reads alone, whole⟩
    have noType : ¬ NamesType { scope with params := parsed.params } (words ++ [last]) :=
      fun ⟨ty, m, named, isEnd⟩ => noType ⟨ty, m, type_params _ ▸ named, isEnd⟩
    have bridge := bridge_parens alone noType noMark same same' sameNo noEndNo asks asks' opens closes
      isColon isColon' isEnd isEnd'
    have near : ∀ tokens, (Stream.ofTokens (question :: tokens)).kind = .question := fun _ => asks
    have far : ∀ tokens, (Stream.ofTokens (question' :: tokens)).kind = .question := fun _ => asks'
    have agree := Stream.agree_of_words bridge.toSeam .branch sameTest noEndTest (by simp [far])
      (by simp [far])
    exact lambda_followed bridge (together_gap (near _) (far _)) (Stream.along_ofTokens agree)
      accepted
  case mpr =>
    rintro ⟨parsed', t, accepted', -⟩
    rw [← last_of_words same']
    intro mark last asks
    obtain ⟨front, rfl⟩ := List.getLast?_eq_some_iff.mp last
    have ended : Ended (test' ++ question' :: (front ++ [mark] ++ colon' :: (no' ++ [ending']))) :=
      .append (noEnd_of_words sameTest noEndTest) (.cons (by simp [asks'])
        (.append (noEnd_of_words same' noEndYes) (.cons (by simp [isColon'])
          (.append (noEnd_of_words sameNo noEndNo) (.last isEnd')))))
    refine lambda_noEmptyBranch accepted' ended ⟨test' ++ question' :: front, mark,
      colon' :: (no' ++ [ending']), ?_, asks, by simp, colon', _, rfl, isColon'⟩
    simp

/-- A branch that ends in a type. -/
theorem lambda_branch_typeTest :
    let scope : Scope := ⟨Registry.empty.toUniverse, [], Parameters.ofInstance none⟩
    let declared := some [⟨some "x", some .object⟩]
    let token (kind : TokenKind) (text : String) (column : Nat) : Token :=
      .word kind text ⟨column, 1, column + 1, text.length⟩
    let yes (start : Nat) := [token .identifier "x" start, token .is "is" (start + 2),
      token .identifier "int" (start + 5)]
    let test := [token .trueWord "true" 0]
    let no (start : Nat) := [token .falseWord "false" start]
    ∃ parsed t, Yields (lambda scope declared) (Stream.ofTokens (test ++ token .question "?" 5 ::
        token .leftParen "(" 7 :: (yes 8 ++ token .rightParen ")" 16 :: token .colon ":" 18 ::
          (no 20 ++ [token .endOfInput "" 25])))) parsed t ∧
      ∃ parsed' t', Yields (lambda scope declared) (Stream.ofTokens (test ++
          token .question "?" 5 :: (yes 7 ++ token .colon ":" 16 ::
            (no 18 ++ [token .endOfInput "" 23])))) parsed' t' ∧
        parsed'.params = parsed.params ∧ parsed'.body.unplaced = parsed.body.unplaced := by
  intro scope declared token yes test no
  let wrapped := test ++ token .question "?" 5 :: token .leftParen "(" 7 :: (yes 8 ++
    token .rightParen ")" 16 :: token .colon ":" 18 :: (no 20 ++ [token .endOfInput "" 25]))
  obtain ⟨⟨parsed, t⟩, accepted, -⟩ : ∃ reply : Lambda × Stream,
      lambda scope declared (Stream.ofTokens wrapped) = .ok reply ∧
        reply.1.params.list.length = 1 := exists_ok_that (by decide +kernel)
  have noHeader : header? scope (Stream.ofTokens wrapped) = none :=
    Option.isNone_iff_eq_none.mp (by decide +kernel)
  have params : bindDeclared scope.params declared = parsed.params :=
    ((headless_yields noHeader).mp accepted).1
  obtain ⟨⟨branch, last⟩, alone, isEnd⟩ : ∃ reply : Expr × Stream,
      expression { scope with params := bindDeclared scope.params declared } 0 none
        (Stream.ofTokens (yes 0 ++ [token .endOfInput "" 8])) = .ok reply ∧
        reply.2.kind = .endOfInput := exists_ok_that (by decide +kernel)
  rw [params] at alone
  have named : type? scope (Stream.ofTokens (yes 0 ++ [token .endOfInput "" 8])) = none :=
    Option.isNone_iff_eq_none.mp (by decide +kernel)
  have noType : ¬ NamesType scope (yes 0 ++ [token .endOfInput "" 8]) := by
    rintro ⟨ty, m, found, -⟩
    cases named.symm.trans found
  have words : ∀ start start', List.Forall₂ Token.SameWord (yes start) (yes start') := by
    intro start start'
    repeat' constructor
  have others : List.Forall₂ Token.SameWord (no 20) (no 18) := by
    repeat' constructor
  have same : List.Forall₂ Token.SameWord test test := List.forall₂_same.mpr fun _ _ => .refl _
  have bare := @lambda_branch scope (yes 0) test test (yes 8) (yes 7) (no 20) (no 18) branch parsed
    (token .question "?" 5) (token .question "?" 5) (token .leftParen "(" 7)
    (token .rightParen ")" 16) (token .colon ":" 18) (token .colon ":" 16)
    (token .endOfInput "" 25) (token .endOfInput "" 23) (token .endOfInput "" 8) t last declared
    (by decide) (by decide) (by decide) same (words 0 8) (words 0 7) others rfl rfl rfl rfl rfl rfl
    rfl rfl rfl accepted alone isEnd noType
  exact ⟨parsed, t, accepted, bare.mp (by decide)⟩

/-- A branch that ends in the mark of a nullable type needs its parentheses. -/
theorem lambda_branch_nullable :
    let scope : Scope := ⟨Registry.empty.toUniverse, [], Parameters.ofInstance none⟩
    let declared := some [⟨some "x", some .object⟩]
    let token (kind : TokenKind) (text : String) (column : Nat) : Token :=
      .word kind text ⟨column, 1, column + 1, text.length⟩
    let yes (start : Nat) := [token .identifier "x" start, token .is "is" (start + 2),
      token .identifier "int" (start + 5), token .question "?" (start + 8)]
    let test := [token .trueWord "true" 0]
    let no (start : Nat) := [token .falseWord "false" start]
    (∃ parsed t, Yields (lambda scope declared) (Stream.ofTokens (test ++ token .question "?" 5 ::
        token .leftParen "(" 7 :: (yes 8 ++ token .rightParen ")" 17 :: token .colon ":" 19 ::
          (no 21 ++ [token .endOfInput "" 26])))) parsed t) ∧
      (∃ branch t, Yields
        (expression { scope with params := bindDeclared scope.params declared } 0 none)
        (Stream.ofTokens (yes 0 ++ [token .endOfInput "" 9])) branch t ∧ t.kind = .endOfInput) ∧
      ¬ NamesType scope (yes 0 ++ [token .endOfInput "" 9]) ∧
      ∀ parsed t, ¬ Yields (lambda scope declared) (Stream.ofTokens (test ++
        token .question "?" 5 :: (yes 7 ++ token .colon ":" 17 ::
          (no 19 ++ [token .endOfInput "" 24])))) parsed t := by
  intro scope declared token yes test no
  let wrapped := test ++ token .question "?" 5 :: token .leftParen "(" 7 :: (yes 8 ++
    token .rightParen ")" 17 :: token .colon ":" 19 :: (no 21 ++ [token .endOfInput "" 26]))
  refine ⟨?accepted, ?alone, ?noType, ?refused⟩
  case accepted =>
    obtain ⟨⟨parsed, t⟩, accepted, -⟩ : ∃ reply : Lambda × Stream,
        lambda scope declared (Stream.ofTokens wrapped) = .ok reply ∧
          reply.1.params.list.length = 1 := exists_ok_that (by decide +kernel)
    exact ⟨parsed, t, accepted⟩
  case alone =>
    obtain ⟨⟨branch, t⟩, alone, isEnd⟩ : ∃ reply : Expr × Stream,
        expression { scope with params := bindDeclared scope.params declared } 0 none
          (Stream.ofTokens (yes 0 ++ [token .endOfInput "" 9])) = .ok reply ∧
          reply.2.kind = .endOfInput := exists_ok_that (by decide +kernel)
    exact ⟨branch, t, alone, isEnd⟩
  case noType =>
    have named : type? scope (Stream.ofTokens (yes 0 ++ [token .endOfInput "" 9])) = none :=
      Option.isNone_iff_eq_none.mp (by decide +kernel)
    rintro ⟨ty, m, found, -⟩
    cases named.symm.trans found
  case refused =>
    intro parsed t accepted
    have refused : (lambda scope declared (Stream.ofTokens (test ++ token .question "?" 5 ::
        (yes 7 ++ token .colon ":" 17 :: (no 19 ++ [token .endOfInput "" 24]))))).isOk = false := by
      decide +kernel
    rw [accepted] at refused
    cases refused

end Whole
end Formula.Reader
