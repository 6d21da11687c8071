import Formula.Proofs.TokenWalk
import Mathlib.Data.List.Forall2

/-! Two streams side by side whose words agree, wherever they stand, up to a seam: behind it the tokens
need not be the same, but nothing of a type goes on there on either side, and a question mark marks a
nullable type on both sides or on none. Types are read alike up to the seam, whatever lies behind. -/
namespace Formula

/-- Two tokens are the same word, wherever they stand. -/
structure Token.SameWord (a b : Token) : Prop where
  kind : a.kind = b.kind
  lexeme : a.lexeme = b.lexeme
  number : a.number = b.number

theorem Token.SameWord.refl (a : Token) : a.SameWord a := ⟨rfl, rfl, rfl⟩

theorem kinds_of_words {words inner : List Token} (same : List.Forall₂ Token.SameWord words inner) :
    inner.map (·.kind) = words.map (·.kind) := by
  induction same with
  | nil => rfl
  | cons same _ ih => rw [List.map_cons, List.map_cons, ih, same.kind]

theorem noEnd_of_words {words inner : List Token} (same : List.Forall₂ Token.SameWord words inner)
    (noEnd : ∀ token ∈ words, token.kind ≠ .endOfInput) :
    ∀ token ∈ inner, token.kind ≠ .endOfInput := by
  intro token listed isEnd
  have kind : TokenKind.endOfInput ∈ words.map (·.kind) := by
    rw [← kinds_of_words same]
    exact List.mem_map.mpr ⟨token, listed, isEnd⟩
  obtain ⟨other, listed, isEnd⟩ := List.mem_map.mp kind
  exact noEnd other listed isEnd

/-- Words that are the same end in tokens of the same kind. -/
theorem last_of_words {words inner : List Token} {kind : TokenKind}
    (same : List.Forall₂ Token.SameWord words inner) :
    (∀ token ∈ inner.getLast?, token.kind ≠ kind) ↔ ∀ token ∈ words.getLast?, token.kind ≠ kind := by
  have last : (inner.getLast?).map (·.kind) = (words.getLast?).map (·.kind) := by
    rw [← List.getLast?_map, ← List.getLast?_map, kinds_of_words same]
  generalize inner.getLast? = first at last ⊢
  generalize words.getLast? = second at last ⊢
  cases first <;> cases second <;> simp_all

namespace Reader

/-- Whether a question mark marks a nullable type depends on the two tokens behind it. -/
theorem marksNullable_congr {s s' : Stream} (first : s.next.kind = s'.next.kind)
    (second : s.next.next.kind = s'.next.next.kind) : marksNullable s = marksNullable s' := by
  simp only [marksNullable, Stream.kindAt_one, Stream.kindAt_two, first, second]

theorem marksNullable_named {s : Stream} (name : s.next.kind = .identifier) :
    marksNullable s = (s.next.next.kind == .comma || s.next.next.kind == .rightParen) := by
  simp only [marksNullable, Stream.kindAt_one, Stream.kindAt_two, name]

/-- With no name behind it, what a question mark is depends on one token. -/
theorem marksNullable_unnamed {s s' : Stream} (first : s.next.kind = s'.next.kind)
    (noName : s.next.kind ≠ .identifier) : marksNullable s = marksNullable s' := by
  simp only [marksNullable, Stream.kindAt_one, Stream.kindAt_two, ← first]
  split <;> first | rfl | contradiction

end Reader

/-- The last words of a text are a question mark and a name. -/
def EndsInQuestion (tokens : List Token) : Prop :=
  ∃ front question name ending, tokens = front ++ [question, name, ending] ∧
    question.kind = .question ∧ name.kind = .identifier ∧ ending.kind = .endOfInput

theorem EndsInQuestion.cons {token : Token} {tokens : List Token} (ends : EndsInQuestion tokens) :
    EndsInQuestion (token :: tokens) := by
  obtain ⟨front, question, name, ending, rfl, kinds⟩ := ends
  exact ⟨token :: front, question, name, ending, rfl, kinds⟩

/-- The kinds of tokens at which words may part. -/
def seamKinds : List TokenKind := [.endOfInput, .question, .rightParen, .colon]

/-- Nothing of a type goes on at these tokens. -/
structure Sealed (tokens : List Token) : Prop where
  ended : Ended tokens
  kind : (Stream.ofTokens tokens).kind ∈ seamKinds
  noMark : (Stream.ofTokens tokens).kind = .question →
    Reader.marksNullable (Stream.ofTokens tokens) = false

theorem sealed_end {ending : Token} (isEnd : ending.kind = .endOfInput) : Sealed [ending] := by
  have kind : (Stream.ofTokens [ending]).kind = .endOfInput :=
    Stream.before_ofTokens.kind.trans isEnd
  exact ⟨.last isEnd, by simp [kind, seamKinds], by simp [kind]⟩

/-- Where words part, types end on both sides; the near side is at its end there, or both sides are at
a question. -/
structure Seam (joins : List Token → List Token → Prop) : Prop where
  near : joins as bs → Sealed as
  far : joins as bs → Sealed bs
  kinds : joins as bs →
    (Stream.ofTokens as).kind = .endOfInput ∧ (Stream.ofTokens bs).kind ≠ .question ∨
      (Stream.ofTokens as).kind = .question ∧ (Stream.ofTokens bs).kind = .question

/-- Words agree up to a seam that lies as many tokens ahead as the number says. -/
inductive Agree (joins : List Token → List Token → Prop) : Nat → List Token → List Token → Prop where
  | seam (joined : joins as bs) : Agree joins 0 as bs
  | cons {a b : Token} (same : a.SameWord b) (more : a.kind ≠ .endOfInput)
      (marks : a.kind = .question → Reader.marksNullable (Stream.ofTokens (a :: as)) =
        Reader.marksNullable (Stream.ofTokens (b :: bs)))
      (rest : Agree joins n as bs) : Agree joins (n + 1) (a :: as) (b :: bs)

namespace Stream

variable {joins : List Token → List Token → Prop} {n : Nat} {s s' m m' : Stream} {kind : TokenKind}

/-- Streams of words that agree up to a seam, consumed equally far. -/
structure Along (joins : List Token → List Token → Prop) (n : Nat) (s s' : Stream) : Prop where
  agree : Agree joins n s.rest s'.rest
  split : s.split = s'.split
  halved : s.split = true → (tokenAt s.rest 0).kind = .greaterGreater

theorem along_ofTokens {as bs : List Token} (agree : Agree joins n as bs) :
    Along joins n (ofTokens as) (ofTokens bs) :=
  ⟨agree, rfl, nofun⟩

theorem marksNullable_rest (same : s.rest = s'.rest) :
    Reader.marksNullable s = Reader.marksNullable s' := by
  apply Reader.marksNullable_congr
  · simp [kind, peek, next, same]
  · simp [kind, peek, next, same]

theorem kind_whole (whole : s.split = false) : s.kind = (ofTokens s.rest).kind := by
  simp [kind, peek, ofTokens, whole]

theorem nonempty_of_agree (seam : Seam joins) {as bs : List Token} (agree : Agree joins n as bs) :
    as ≠ [] ∧ bs ≠ [] := by
  cases agree with
  | seam joined => exact ⟨(seam.near joined).ended.ne_nil, (seam.far joined).ended.ne_nil⟩
  | cons => simp

theorem ended_of_agree (seam : Seam joins) {as bs : List Token} (agree : Agree joins n as bs) :
    Ended as ∧ Ended bs := by
  induction agree with
  | seam joined => exact ⟨(seam.near joined).ended, (seam.far joined).ended⟩
  | cons same more _ _ ih => exact ⟨.cons more ih.1, .cons (same.kind ▸ more) ih.2⟩

theorem length_of_agree (seam : Seam joins) {as bs : List Token} (agree : Agree joins n as bs) :
    n < as.length ∧ n < bs.length := by
  induction agree with
  | seam joined =>
    exact ⟨List.length_pos_iff.mpr (seam.near joined).ended.ne_nil,
      List.length_pos_iff.mpr (seam.far joined).ended.ne_nil⟩
  | cons _ _ _ _ ih => exact ⟨Nat.succ_lt_succ ih.1, Nat.succ_lt_succ ih.2⟩

/-- Both streams are at the seam. -/
structure AtSeam (joins : List Token → List Token → Prop) (s s' : Stream) : Prop where
  joined : joins s.rest s'.rest
  whole : s.split = false
  whole' : s'.split = false

namespace AtSeam

theorem near (here : AtSeam joins s s') (seam : Seam joins) : s.kind ∈ seamKinds := by
  rw [kind_whole here.whole]
  exact (seam.near here.joined).kind

theorem far (here : AtSeam joins s s') (seam : Seam joins) : s'.kind ∈ seamKinds := by
  rw [kind_whole here.whole']
  exact (seam.far here.joined).kind

theorem kinds (here : AtSeam joins s s') (seam : Seam joins) :
    s.kind = .endOfInput ∨ s.kind = .question ∧ s'.kind = .question := by
  rw [kind_whole here.whole, kind_whole here.whole']
  exact (seam.kinds here.joined).imp_left And.left

theorem noMark (here : AtSeam joins s s') (seam : Seam joins) (asks : s.kind = .question) :
    Reader.marksNullable s = false := by
  rw [kind_whole here.whole] at asks
  exact (marksNullable_rest rfl).trans ((seam.near here.joined).noMark asks)

theorem noMark' (here : AtSeam joins s s') (seam : Seam joins) (asks : s'.kind = .question) :
    Reader.marksNullable s' = false := by
  rw [kind_whole here.whole'] at asks
  exact (marksNullable_rest rfl).trans ((seam.far here.joined).noMark asks)

end AtSeam

namespace Along

/-- Consuming a token keeps the streams side by side, up to the seam. -/
theorem step (along : Along joins n s s') (seam : Seam joins) :
    AtSeam joins s s' ∨ ∃ k, n = k + 1 ∧ s.kind ≠ .endOfInput ∧ s.peek.SameWord s'.peek ∧
      (s.kind = .question → Reader.marksNullable s = Reader.marksNullable s') ∧
      Along joins k s.next s'.next := by
  obtain ⟨rest, split, previous⟩ := s
  obtain ⟨rest', split', previous'⟩ := s'
  obtain ⟨agree, same, halved⟩ := along
  cases same
  cases agree with
  | seam joined =>
    have kinds := (seam.near joined).kind
    cases split with
    | true =>
      have shift : (tokenAt rest 0).kind = .greaterGreater := halved rfl
      simp [kind, peek, ofTokens, seamKinds, shift] at kinds
    | false => exact .inl ⟨joined, rfl, rfl⟩
  | @cons as bs k a b same more marks agree =>
    right
    have next : Along joins k (Stream.next ⟨a :: as, split, previous⟩)
        (Stream.next ⟨b :: bs, split, previous'⟩) := by
      have some := nonempty_of_agree seam agree
      refine ⟨?_, rfl, by simp [Stream.next]⟩
      simpa only [Stream.next, tokensAfter_cons some.1, tokensAfter_cons some.2] using agree
    cases split with
    | true =>
      refine ⟨k, rfl, by simp [kind, peek, secondHalf, Token.word], ⟨rfl, rfl, rfl⟩, ?_, next⟩
      simp [kind, peek, secondHalf, Token.word]
    | false =>
      refine ⟨k, rfl, more, same, fun asks => ?_, next⟩
      exact (marksNullable_rest rfl).trans ((marks asks).trans (marksNullable_rest rfl))

theorem closed (along : Along joins n s s') (seam : Seam joins) : s.Closed :=
  ⟨(ended_of_agree seam along.agree).1, along.halved⟩

theorem closed_far (along : Along joins n s s') (seam : Seam joins) : s'.Closed := by
  refine ⟨(ended_of_agree seam along.agree).2, fun half => ?_⟩
  have shift := along.halved (along.split.trans half)
  have agree := along.agree
  revert shift
  generalize s.rest = tokens at agree
  generalize s'.rest = others at agree
  intro shift
  cases agree with
  | seam joined =>
    have kinds := (seam.near joined).kind
    rw [show (ofTokens tokens).kind = .greaterGreater from shift] at kinds
    simp [seamKinds] at kinds
  | cons same => exact same.kind.symm.trans shift

theorem length (along : Along joins n s s') (seam : Seam joins) :
    n < s.rest.length ∧ n < s'.rest.length := length_of_agree seam along.agree

theorem kind_eq (along : Along joins n s s') (seam : Seam joins) (more : s.kind ≠ .endOfInput) :
    s.kind = s'.kind := by
  obtain here | ⟨_, -, -, word, -⟩ := along.step seam
  · obtain isEnd | ⟨asks, asks'⟩ := here.kinds seam
    · exact absurd isEnd more
    · exact asks.trans asks'.symm
  · exact word.kind

theorem kind_iff (along : Along joins n s s') (seam : Seam joins) (inner : kind ∉ seamKinds) :
    s'.kind = kind ↔ s.kind = kind := by
  obtain here | ⟨_, -, -, word, -⟩ := along.step seam
  · constructor
    · exact fun same => absurd (same ▸ here.far seam) inner
    · exact fun same => absurd (same ▸ here.near seam) inner
  · have same : s.kind = s'.kind := word.kind
    rw [same]

theorem isNot (along : Along joins n s s') (seam : Seam joins) (other : s.kind ≠ kind)
    (inner : kind ∉ seamKinds) : s'.kind ≠ kind :=
  fun same => other ((along.kind_iff seam inner).mp same)

/-- A token that neither ends the text nor asks a question lies in front of the seam. -/
theorem pass (along : Along joins n s s') (seam : Seam joins) (more : s.kind ≠ .endOfInput)
    (noQuestion : s.kind ≠ .question) :
    s.peek.SameWord s'.peek ∧ ∃ k < n, Along joins k s.next s'.next := by
  obtain here | ⟨k, rfl, -, word, -, next⟩ := along.step seam
  · obtain isEnd | ⟨asks, -⟩ := here.kinds seam
    · exact absurd isEnd more
    · exact absurd asks noQuestion
  · exact ⟨word, k, Nat.lt_succ_self k, next⟩

/-- A token that is next in one stream is next in the other, and behind it they go on. -/
theorem is (along : Along joins n s s') (seam : Seam joins) (found : s.kind = kind)
    (inner : kind ≠ .endOfInput ∧ kind ≠ .question) :
    s'.kind = kind ∧ ∃ k < n, Along joins k s.next s'.next := by
  obtain ⟨word, next⟩ := along.pass seam (found ▸ inner.1) (found ▸ inner.2)
  exact ⟨word.kind.symm.trans found, next⟩

/-- Two tokens in a row are next in both streams or in none. -/
theorem pair_iff {first second : TokenKind} (along : Along joins n s s') (seam : Seam joins)
    (inner : first ∉ seamKinds) (inner' : second ∉ seamKinds) :
    s'.kind = first ∧ s'.kindAt 1 = second ↔ s.kind = first ∧ s.kindAt 1 = second := by
  rw [kindAt_one, kindAt_one, along.kind_iff seam inner]
  refine and_congr_right fun found => ?_
  have ordinary : first ≠ .endOfInput ∧ first ≠ .question := by
    constructor
    · rintro rfl
      exact inner (by simp [seamKinds])
    · rintro rfl
      exact inner (by simp [seamKinds])
  obtain ⟨-, k, -, next⟩ := along.is seam found ordinary
  exact next.kind_iff seam inner'

theorem eat (along : Along joins n s s') (seam : Seam joins) (kind : TokenKind)
    (inner : kind ∉ seamKinds) :
    s.eat? kind = none ∧ s'.eat? kind = none ∨
      ∃ k < n, s.eat? kind = some s.next ∧ s'.eat? kind = some s'.next ∧
        Along joins k s.next s'.next := by
  have same := along.kind_iff seam inner
  by_cases found : s.kind = kind
  · right
    have noSeam : s.kind ∉ seamKinds := found ▸ inner
    simp only [seamKinds, List.mem_cons, not_or] at noSeam
    obtain ⟨-, k, bound, next⟩ := along.pass seam noSeam.1 noSeam.2.1
    exact ⟨k, bound, by simp [eat?, found], by simp [eat?, found, same], next⟩
  · left
    simp [eat?, found, same]

theorem half (along : Along joins n s s') (seam : Seam joins) :
    s.splitShift? = none ∧ s'.splitShift? = none ∨
      ∃ m m', s.splitShift? = some m ∧ s'.splitShift? = some m' ∧ Along joins n m m' := by
  have shift : s'.kind = .greaterGreater ↔ s.kind = .greaterGreater :=
    along.kind_iff seam (by simp [seamKinds])
  by_cases splits : s.split = false ∧ s.kind = .greaterGreater
  · right
    refine ⟨{ s with split := true, previous := { s.peek.span with length := 1 } },
      { s' with split := true, previous := { s'.peek.span with length := 1 } }, ?_, ?_, ?_⟩
    · simp [splitShift?, splits.1, splits.2]
    · simp [splitShift?, ← along.split, splits.1, shift.mpr splits.2]
    · refine ⟨along.agree, rfl, fun _ => ?_⟩
      simpa [Stream.kind, peek, splits.1] using splits.2
  · left
    have splits' : ¬ (s'.split = false ∧ s'.kind = .greaterGreater) := by
      rw [← along.split, shift]
      exact splits
    simp only [splitShift?, Bool.and_eq_true, Bool.not_eq_true', beq_iff_eq]
    exact ⟨if_neg splits, if_neg splits'⟩

end Along

section Words

variable {body inner as bs : List Token}

/-- A question mark right in front of the seam. -/
private theorem marks_last (seam : Seam joins) (joined : joins as bs)
    (noColon : (ofTokens bs).kind ≠ .colon) (next : s.next.kind = (ofTokens as).kind)
    (next' : s'.next.kind = (ofTokens bs).kind) :
    Reader.marksNullable s = Reader.marksNullable s' := by
  have listed := (seam.far joined).kind
  simp only [seamKinds, List.mem_cons, List.not_mem_nil, or_false] at listed
  simp only [Reader.marksNullable, kindAt_one, next, next']
  obtain ⟨isEnd, noQuestion⟩ | ⟨mark, mark'⟩ := seam.kinds joined
  · rcases listed with found | found | found | found
    · rw [isEnd, found]
    · exact absurd found noQuestion
    · rw [isEnd, found]
    · exact absurd found noColon
  · rw [mark, mark']

/-- A question mark with a name between it and the seam. -/
private theorem marks_named (seam : Seam joins) (joined : joins as bs)
    (noParen : (ofTokens bs).kind ≠ .rightParen) (name : s.next.kind = .identifier)
    (name' : s'.next.kind = .identifier) (last : s.next.next.kind = (ofTokens as).kind)
    (last' : s'.next.next.kind = (ofTokens bs).kind) :
    Reader.marksNullable s = Reader.marksNullable s' := by
  have listed := (seam.far joined).kind
  simp only [seamKinds, List.mem_cons, List.not_mem_nil, or_false] at listed
  rw [Reader.marksNullable_named name, Reader.marksNullable_named name', last, last']
  obtain ⟨isEnd, noQuestion⟩ | ⟨mark, mark'⟩ := seam.kinds joined
  · rw [isEnd]
    rcases listed with found | found | found | found
    · rw [found]
    · exact absurd found noQuestion
    · exact absurd found noParen
    · rw [found]
      rfl
  · rw [mark, mark']

/-- A question mark in front of words that are the same, up to a seam, is one of a nullable type on
both sides or on none. -/
private theorem marks_at_seam {a b : Token} (seam : Seam joins) (joined : joins as bs)
    (words : List.Forall₂ Token.SameWord body inner) (asks : a.kind = .question)
    (noColon : (ofTokens bs).kind = .colon → ∀ mark ∈ (a :: body).getLast?, mark.kind ≠ .question)
    (noParen : (ofTokens bs).kind = .rightParen → ¬ EndsInQuestion (a :: (body ++ as))) :
    Reader.marksNullable (ofTokens (a :: (body ++ as))) =
      Reader.marksNullable (ofTokens (b :: (inner ++ bs))) := by
  have some := (seam.near joined).ended.ne_nil
  have some' := (seam.far joined).ended.ne_nil
  cases words with
  | nil =>
    exact marks_last seam joined (fun colon => noColon colon a rfl asks)
      (before_ofTokens.next some).kind_rest (before_ofTokens.next some').kind_rest
  | @cons c d body inner same words =>
    have second : Before _ (c :: (body ++ as)) := (@before_ofTokens (a :: _)).next (by simp)
    have second' : Before _ (d :: (inner ++ bs)) := (@before_ofTokens (b :: _)).next (by simp)
    have first := second.kind.trans (same.kind.trans second'.kind.symm)
    by_cases name : c.kind = .identifier
    · cases words with
      | nil =>
        refine marks_named seam joined (fun closes => noParen closes ?_) (second.kind.trans name)
          (second'.kind.trans (same.kind ▸ name)) (second.next some).kind_rest
          (second'.next some').kind_rest
        obtain ⟨isEnd, -⟩ | ⟨-, mark'⟩ := seam.kinds joined
        · have whole := (before_ofTokens.closed (seam.near joined).ended).last isEnd
          exact ⟨[], a, c, _, congrArg (a :: c :: ·) whole, asks, name, isEnd⟩
        · simp [mark'] at closes
      | cons same _ =>
        have third := (second.next (by simp)).kind
        have third' := (second'.next (by simp)).kind
        exact Reader.marksNullable_congr first (third.trans (same.kind.trans third'.symm))
    · exact Reader.marksNullable_unnamed first (second.kind ▸ name)

/-- Words that are the same agree up to the seam behind them, but for a question mark that the seam
makes one of a nullable type on one side alone. -/
theorem agree_of_words (seam : Seam joins) (joined : joins as bs)
    (words : List.Forall₂ Token.SameWord body inner)
    (noEnd : ∀ token ∈ body, token.kind ≠ .endOfInput)
    (noColon : (ofTokens bs).kind = .colon → ∀ mark ∈ body.getLast?, mark.kind ≠ .question)
    (noParen : (ofTokens bs).kind = .rightParen → ¬ EndsInQuestion (body ++ as)) :
    Agree joins body.length (body ++ as) (inner ++ bs) := by
  induction words with
  | nil => exact .seam joined
  | @cons a b body inner same words ih =>
    have ⟨first, others⟩ := List.forall_mem_cons.mp noEnd
    refine .cons same first (fun asks => ?_) (ih others ?_ ?_)
    · exact marks_at_seam seam joined words asks noColon noParen
    · intro colon mark listed
      refine noColon colon mark ?_
      cases body with
      | nil => cases listed
      | cons => exact listed
    · exact fun closes ends => noParen closes ends.cons

end Words
end Stream

/-- The near side is at its end, and the far side is where some tokens are left. -/
inductive UpTo (behind : List Token) : List Token → List Token → Prop where
  | ended {ending : Token} (isEnd : ending.kind = .endOfInput) : UpTo behind [ending] behind

theorem UpTo.parts {behind as bs : List Token} (joined : UpTo behind as bs) :
    ∃ ending, as = [ending] ∧ ending.kind = .endOfInput ∧ bs = behind := by
  cases joined with
  | ended isEnd => exact ⟨_, rfl, isEnd, rfl⟩

/-- Nothing of a type goes on at an end, a closing parenthesis or a colon. -/
theorem seam_upTo {behind : List Token} (ended : Ended behind)
    (kind : (Stream.ofTokens behind).kind ∈ [.endOfInput, .rightParen, .colon]) :
    Seam (UpTo behind) := by
  simp only [List.mem_cons, List.not_mem_nil, or_false] at kind
  have noQuestion : (Stream.ofTokens behind).kind ≠ .question := by
    rintro asks
    simp [asks] at kind
  constructor
  · rintro _ _ ⟨isEnd⟩
    exact sealed_end isEnd
  · rintro _ _ ⟨-⟩
    refine ⟨ended, ?_, fun asks => absurd asks noQuestion⟩
    rcases kind with kind | kind | kind <;> simp [kind, seamKinds]
  · rintro _ _ ⟨isEnd⟩
    exact .inl ⟨Stream.before_ofTokens.kind.trans isEnd, noQuestion⟩

namespace Reader

variable {joins : List Token → List Token → Prop} {n : Nat}

/-- Two attempts come to nothing, or to the same result on streams that are still side by side. -/
inductive Paired (joins : List Token → List Token → Prop) (n : Nat) {α : Type} :
    Option (α × Stream) → Option (α × Stream) → Prop
  | none : Paired joins n none none
  | some {a : α} {m m' : Stream} {k : Nat} (bound : k ≤ n) (along : m.Along joins k m') :
      Paired joins n (some (a, m)) (some (a, m'))

namespace Paired

variable {α β : Type} {first second : Option (α × Stream)}

theorem bind {next next' : α × Stream → Option (β × Stream)} (paired : Paired joins n first second)
    (goesOn : ∀ a m m' k, k ≤ n → m.Along joins k m' →
      Paired joins n (next (a, m)) (next' (a, m'))) :
    Paired joins n (first.bind next) (second.bind next') := by
  cases paired with
  | none => exact .none
  | some bound along => exact goesOn _ _ _ _ bound along

theorem map {f : α → β} (paired : Paired joins n first second) :
    Paired joins n (first.map fun reply => (f reply.1, reply.2))
      (second.map fun reply => (f reply.1, reply.2)) := by
  cases paired with
  | none => exact .none
  | some bound along => exact .some bound along

theorem mono {k : Nat} (paired : Paired joins k first second) (bound : k ≤ n) :
    Paired joins n first second := by
  cases paired with
  | none => exact .none
  | some inner along => exact .some (Nat.le_trans inner bound) along

theorem forward {a : α} {m : Stream} (paired : Paired joins n first second)
    (came : first = Option.some (a, m)) :
    ∃ m' k, second = Option.some (a, m') ∧ m.Along joins k m' := by
  cases paired with
  | none => cases came
  | some _ along =>
    cases came
    exact ⟨_, _, rfl, along⟩

theorem backward {a : α} {m' : Stream} (paired : Paired joins n first second)
    (came : second = Option.some (a, m')) :
    ∃ m k, first = Option.some (a, m) ∧ m.Along joins k m' := by
  cases paired with
  | none => cases came
  | some _ along =>
    cases came
    exact ⟨_, _, rfl, along⟩

end Paired

section TypeNames

variable {scope : Scope} {readTy readTy' : Attempt Ty} {s s' : Stream} {bound fuel fuel' : Nat}

/-- Two readers of types go side by side on streams that are closer to the seam than a bound. -/
def PairedBelow (joins : List Token → List Token → Prop) (bound : Nat)
    (readTy readTy' : Attempt Ty) : Prop :=
  ∀ n m m', Stream.Along joins n m m' → n < bound → Paired joins n (readTy m) (readTy' m')

/-- Behind an argument comes another one, the closing angle bracket, or one half of a shift. -/
theorem closing_paired (seam : Seam joins) (along : s.Along joins n s') (args : List Ty) :
    Paired joins n (((s.eat? .greater).or s.splitShift?).map fun last => (args, last))
      (((s'.eat? .greater).or s'.splitShift?).map fun last => (args, last)) := by
  obtain ⟨noAngle, noAngle'⟩ | ⟨k, less, ate, ate', next⟩ :=
    along.eat seam .greater (by simp [seamKinds])
  · rw [noAngle, noAngle', Option.none_or, Option.none_or]
    obtain ⟨whole, whole'⟩ | ⟨m, m', splits, splits', halves⟩ := along.half seam
    · rw [whole, whole']
      exact .none
    · rw [splits, splits']
      exact .some (Nat.le_refl n) halves
  · rw [ate, ate']
    exact .some (Nat.le_of_lt less) next

theorem argsFrom_paired (seam : Seam joins) (below : PairedBelow joins bound readTy readTy')
    (along : s.Along joins n s') (shorter : n < bound) (enough : n < fuel) (enough' : n < fuel') :
    Paired joins n (argsFrom readTy fuel s) (argsFrom readTy' fuel' s') := by
  induction fuel generalizing fuel' s s' n with
  | zero => cases enough
  | succ fuel ih =>
    obtain ⟨fuel', rfl⟩ : ∃ n, fuel' = n + 1 := ⟨fuel' - 1, by omega⟩
    refine (below n s s' along shorter).bind fun first after after' k within behind => ?_
    obtain ⟨noComma, noComma'⟩ | ⟨j, less, ate, ate', next⟩ :=
      behind.eat seam .comma (by simp [seamKinds])
    · simp only [noComma, noComma']
      exact (closing_paired seam behind [first]).mono within
    · simp only [ate, ate']
      exact (ih next (by omega) (by omega) (by omega)).map.mono (by omega)

theorem generic_paired {name : String} (seam : Seam joins)
    (below : PairedBelow joins bound readTy readTy') (along : s.Along joins n s')
    (shorter : n ≤ bound) :
    Paired joins n (generic? scope readTy name s) (generic? scope readTy' name s') := by
  unfold generic? typeArgs
  obtain ⟨noArgs, noArgs'⟩ | ⟨k, less, ate, ate', next⟩ :=
    along.eat seam .less (by simp [seamKinds])
  · rw [noArgs, noArgs']
    exact .none
  · rw [ate, ate']
    have length := next.length seam
    have args : Paired joins n (argsFrom readTy s.next.rest.length s.next)
        (argsFrom readTy' s'.next.rest.length s'.next) :=
      (argsFrom_paired seam below next (by omega) length.1 length.2).mono (by omega)
    refine Paired.bind args fun args after after' j within behind => ?_
    cases found : scope.resolveGeneric name args with
    | none =>
      simp only [found]
      exact .none
    | some ty =>
      simp only [found]
      exact .some within behind

theorem pathFrom_paired {name : String} (seam : Seam joins)
    (below : PairedBelow joins bound readTy readTy') (along : s.Along joins n s')
    (shorter : n ≤ bound) (enough : n < fuel) (enough' : n < fuel') :
    Paired joins n (pathFrom scope readTy fuel name s) (pathFrom scope readTy' fuel' name s') := by
  induction fuel generalizing fuel' name s s' n with
  | zero => cases enough
  | succ fuel ih =>
    obtain ⟨fuel', rfl⟩ : ∃ n, fuel' = n + 1 := ⟨fuel' - 1, by omega⟩
    have generic : Paired joins n (generic? scope readTy name s) (generic? scope readTy' name s') :=
      generic_paired seam below along shorter
    simp only [pathFrom]
    generalize generic? scope readTy name s = first at generic
    generalize generic? scope readTy' name s' = second at generic
    cases generic with
    | some within behind => exact .some within behind
    | none =>
      simp only
      cases scope.resolveName name with
      | some ty => exact .some (Nat.le_refl n) along
      | none =>
        have goesOn : s'.kind = .dot ∧ s'.kindAt 1 = .identifier ↔
            s.kind = .dot ∧ s.kindAt 1 = .identifier :=
          along.pair_iff seam (by simp [seamKinds]) (by simp [seamKinds])
        by_cases dotted : s.kind = .dot ∧ s.kindAt 1 = .identifier
        · simp only
          rw [if_pos dotted, if_pos (goesOn.mpr dotted)]
          rw [Stream.kindAt_one] at dotted
          obtain ⟨-, k, less, next⟩ := along.is seam dotted.1 (by simp)
          obtain ⟨word, j, fewer, last⟩ := next.pass seam (by simp [dotted.2]) (by simp [dotted.2])
          rw [word.lexeme]
          exact (ih last (by omega) (by omega) (by omega)).mono (by omega)
        · simp only
          rw [if_neg dotted, if_neg (fun both => dotted (goesOn.mp both))]
          exact .none

theorem path_paired (seam : Seam joins) (below : PairedBelow joins n readTy readTy')
    (along : s.Along joins n s') : Paired joins n (path scope readTy s) (path scope readTy' s') := by
  unfold path
  have name : s'.kind = .identifier ↔ s.kind = .identifier :=
    along.kind_iff seam (by simp [seamKinds])
  by_cases named : s.kind = .identifier
  · obtain ⟨word, k, less, next⟩ := along.pass seam (by simp [named]) (by simp [named])
    have length := along.length seam
    rw [if_pos named, if_pos (name.mpr named), word.lexeme]
    exact (pathFrom_paired seam below next (by omega) (by omega) (by omega)).mono (by omega)
  · rw [if_neg named, if_neg (fun named' => named (name.mp named'))]
    exact .none

theorem withNullable_paired (seam : Seam joins) (along : s.Along joins n s') (ty : Ty) :
    Paired joins n (some (withNullable ty s)) (some (withNullable ty s')) := by
  unfold withNullable
  obtain here | ⟨k, rfl, -, word, marks, next⟩ := along.step seam
  · have stays : ∀ r : Stream, (r.kind = .question → marksNullable r = false) →
        ¬ (r.kind = .question ∧ marksNullable r) := by
      rintro r noMark ⟨asks, marks⟩
      simp [noMark asks] at marks
    rw [if_neg (stays s (here.noMark seam)), if_neg (stays s' (here.noMark' seam))]
    exact .some (Nat.le_refl n) along
  · have same : s.kind = s'.kind := word.kind
    by_cases asks : s.kind = .question
    · rw [← same, ← marks asks]
      split
      case isTrue => exact .some (Nat.le_succ k) next
      case isFalse => exact .some (Nat.le_refl _) along
    · rw [← same, if_neg (fun both => asks both.1), if_neg (fun both => asks both.1)]
      exact .some (Nat.le_refl _) along

theorem withArrays_stops (noBracket : s.kind ≠ .leftBracket) (fuel : Nat) (ty : Ty) :
    withArrays fuel ty s = (ty, s) := by
  cases fuel with
  | zero => rfl
  | succ fuel => rw [withArrays, if_neg (fun both => noBracket both.1)]

theorem withArrays_paired {ty : Ty} (seam : Seam joins) (along : s.Along joins n s')
    (enough : n ≤ fuel) (enough' : n ≤ fuel') :
    Paired joins n (some (withArrays fuel ty s)) (some (withArrays fuel' ty s')) := by
  induction fuel generalizing fuel' s s' ty n with
  | zero =>
    obtain here | ⟨k, rfl, -⟩ := along.step seam
    · have ends : ∀ r : Stream, r.kind ∈ seamKinds → r.kind ≠ .leftBracket := by
        rintro r listed opens
        simp [opens, seamKinds] at listed
      rw [withArrays_stops (ends s' (here.far seam))]
      exact .some (Nat.le_refl n) along
    · cases enough
  | succ fuel ih =>
    have goesOn : s'.kind = .leftBracket ∧ s'.kindAt 1 = .rightBracket ↔
        s.kind = .leftBracket ∧ s.kindAt 1 = .rightBracket :=
      along.pair_iff seam (by simp [seamKinds]) (by simp [seamKinds])
    by_cases pair : s.kind = .leftBracket ∧ s.kindAt 1 = .rightBracket
    · have pair' := pair
      rw [Stream.kindAt_one] at pair'
      obtain ⟨-, k, less, next⟩ := along.is seam pair'.1 (by simp)
      obtain ⟨-, j, fewer, last⟩ := next.is seam pair'.2 (by simp)
      obtain ⟨fuel', rfl⟩ : ∃ n, fuel' = n + 1 := ⟨fuel' - 1, by omega⟩
      rw [withArrays, if_pos pair, withArrays, if_pos (goesOn.mpr pair)]
      exact (ih last (by omega) (by omega)).mono (by omega)
    · have stays : withArrays fuel' ty s' = (ty, s') := by
        cases fuel' with
        | zero => rfl
        | succ fuel' => rw [withArrays, if_neg (fun both => pair (goesOn.mp both))]
      rw [withArrays, if_neg pair, stays]
      exact .some (Nat.le_refl n) along

/-- A type is read alike, however deep its reader may go, if that is deep enough for its tokens. -/
theorem typeWithin_paired {depth depth' : Nat} (seam : Seam joins) (along : s.Along joins n s')
    (enough : n < depth) (enough' : n < depth') :
    Paired joins n (typeWithin scope depth s) (typeWithin scope depth' s') := by
  induction depth generalizing depth' s s' n with
  | zero => cases enough
  | succ depth ih =>
    obtain ⟨depth', rfl⟩ : ∃ n, depth' = n + 1 := ⟨depth' - 1, by omega⟩
    have below : PairedBelow joins n (typeWithin scope depth) (typeWithin scope depth') :=
      fun k m m' along less => ih along (by omega) (by omega)
    have named : Paired joins n (path scope (typeWithin scope depth) s)
        (path scope (typeWithin scope depth') s') := path_paired seam below along
    simp only [typeWithin]
    generalize path scope (typeWithin scope depth) s = first at named
    generalize path scope (typeWithin scope depth') s' = second at named
    cases named with
    | none => exact .none
    | @some ty m m' k within behind =>
      have marked := withNullable_paired seam behind ty
      simp only [Option.map_some]
      generalize withNullable ty m = reply at marked
      generalize withNullable ty m' = reply' at marked
      cases marked with
      | @some _ r r' j inner last =>
        have length := last.length seam
        exact (withArrays_paired seam last (Nat.le_of_lt length.1)
          (Nat.le_of_lt length.2)).mono (Nat.le_trans inner within)

theorem type_paired (seam : Seam joins) (along : s.Along joins n s') :
    Paired joins n (type? scope s) (type? scope s') := by
  have length := along.length seam
  exact typeWithin_paired seam along (by omega) (by omega)

theorem typePath_paired (seam : Seam joins) (along : s.Along joins n s') :
    Paired joins n (typePath? scope s) (typePath? scope s') := by
  have length := along.length seam
  exact path_paired seam
    (fun k m m' along less => typeWithin_paired seam along (by omega) (by omega)) along

end TypeNames

end Reader

namespace Stream

variable {joins : List Token → List Token → Prop} {scope : Scope} {s s' m : Stream}
  {kind : TokenKind} {ty : Ty}

/-- Streams of words that agree up to a seam, wherever that lies. -/
def Parallel (joins : List Token → List Token → Prop) (s s' : Stream) : Prop :=
  ∃ n, Along joins n s s'

namespace Parallel

/-- Consuming a token keeps the streams side by side, up to the seam. -/
theorem step (sides : Parallel joins s s') (seam : Seam joins) :
    AtSeam joins s s' ∨
      s.kind ≠ .endOfInput ∧ s.peek.SameWord s'.peek ∧ Parallel joins s.next s'.next := by
  obtain ⟨n, along⟩ := sides
  obtain here | ⟨k, -, more, word, -, next⟩ := along.step seam
  · exact .inl here
  · exact .inr ⟨more, word, k, next⟩

theorem closed (sides : Parallel joins s s') (seam : Seam joins) : s.Closed :=
  sides.elim fun _ along => along.closed seam

theorem kind_eq (sides : Parallel joins s s') (seam : Seam joins) (more : s.kind ≠ .endOfInput) :
    s.kind = s'.kind :=
  sides.elim fun _ along => along.kind_eq seam more

theorem isNot (sides : Parallel joins s s') (seam : Seam joins) (other : s.kind ≠ kind)
    (inner : kind ∉ seamKinds) : s'.kind ≠ kind :=
  sides.elim fun _ along => along.isNot seam other inner

theorem pair_iff {first second : TokenKind} (sides : Parallel joins s s') (seam : Seam joins)
    (inner : first ∉ seamKinds) (inner' : second ∉ seamKinds) :
    s'.kind = first ∧ s'.kindAt 1 = second ↔ s.kind = first ∧ s.kindAt 1 = second :=
  sides.elim fun _ along => along.pair_iff seam inner inner'

theorem is (sides : Parallel joins s s') (seam : Seam joins) (found : s.kind = kind)
    (inner : kind ≠ .endOfInput ∧ kind ≠ .question) :
    s'.kind = kind ∧ Parallel joins s.next s'.next := by
  obtain ⟨n, along⟩ := sides
  obtain ⟨found', k, -, next⟩ := along.is seam found inner
  exact ⟨found', k, next⟩

/-- A token that is passed by itself is the same word on both sides, and behind it they go on. -/
theorem plain (sides : Parallel joins s s') (seam : Seam joins) (isPlain : Reader.isPlain s.kind) :
    s.peek.SameWord s'.peek ∧ Parallel joins s.next s'.next := by
  have inner : s.kind ≠ .endOfInput ∧ s.kind ≠ .question := by
    constructor <;> intro same <;> simp [same, Reader.isPlain] at isPlain
  obtain ⟨n, along⟩ := sides
  obtain ⟨word, k, -, next⟩ := along.pass seam inner.1 inner.2
  exact ⟨word, k, next⟩

theorem name (sides : Parallel joins s s') (seam : Seam joins) (named : s.kind = .identifier) :
    s'.kind = .identifier ∧ s.peek.SameWord s'.peek ∧ Parallel joins s.next s'.next := by
  obtain ⟨word, next⟩ := sides.plain seam (by simp [named, Reader.isPlain, TokenKind.isAssignment])
  exact ⟨word.kind.symm.trans named, word, next⟩

theorem type (sides : Parallel joins s s') (seam : Seam joins)
    (named : Reader.type? scope s = some (ty, m)) :
    ∃ m', Reader.type? scope s' = some (ty, m') ∧ Parallel joins m m' := by
  obtain ⟨n, along⟩ := sides
  obtain ⟨m', k, named', behind⟩ := (Reader.type_paired seam along).forward named
  exact ⟨m', named', k, behind⟩

theorem typePath (sides : Parallel joins s s') (seam : Seam joins)
    (named : Reader.typePath? scope s = some (ty, m)) :
    ∃ m', Reader.typePath? scope s' = some (ty, m') ∧ Parallel joins m m' := by
  obtain ⟨n, along⟩ := sides
  obtain ⟨m', k, named', behind⟩ := (Reader.typePath_paired seam along).forward named
  exact ⟨m', named', k, behind⟩

end Parallel
end Stream

end Formula
