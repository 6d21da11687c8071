import Formula.Proofs.TokenWalk
import Mathlib.Data.Prod.Lex

/-! How far a reading has come. Streams are ordered by the tokens that are left and, among those with
the same tokens left, by whether the first half of a shift has been consumed. Before an end of input
every token that is consumed leads further ahead, so whatever is read successfully does; the end itself
is never consumed, which is why the order alone would not do for tokens without one. -/
namespace Formula

/-- The last of some tokens is an end of input. -/
def EndsInput (tokens : List Token) : Prop := tokens.getLast?.map Token.kind = some .endOfInput

theorem Ended.endsInput {tokens : List Token} (ended : Ended tokens) : EndsInput tokens := by
  induction ended with
  | last isEnd => simp [EndsInput, isEnd]
  | @cons first rest _ ended ih =>
    obtain ⟨other, rest, rfl⟩ := List.exists_cons_of_ne_nil ended.ne_nil
    simpa [EndsInput, List.getLast?_cons_cons] using ih

namespace Stream

variable {s t m : Stream}

/-- The last token that is left is an end of input, and only a shift has been consumed by half. -/
structure Terminated (s : Stream) : Prop where
  ended : EndsInput s.rest
  halved : s.split = true → (tokenAt s.rest 0).kind = .greaterGreater

theorem terminated_ofTokens {tokens : List Token} (ends : EndsInput tokens) :
    (ofTokens tokens).Terminated := ⟨ends, nofun⟩

theorem Closed.terminated (closed : s.Closed) : s.Terminated := ⟨closed.ended.endsInput, closed.halved⟩

/-- A stream is further ahead than another: fewer tokens are left, or as many, of which the first has
been consumed by half. -/
def Beyond (t s : Stream) : Prop :=
  t.rest.length < s.rest.length ∨
    t.rest.length = s.rest.length ∧ s.split = false ∧ t.split = true

/-- Nothing goes on further ahead for ever. -/
theorem beyond_wf : WellFounded Beyond := by
  let left (s : Stream) : Nat := 2 * s.rest.length + (if s.split then 0 else 1)
  refine Subrelation.wf (r := fun t s => left t < left s) ?_ (measure left).wf
  rintro t s (fewer | ⟨same, whole, half⟩)
  · simp only [left]
    split <;> split <;> omega
  · simp [left, same, whole, half]

/-- No step leads past the token that stands for the end. -/
theorem Terminated.next (live : s.Terminated) : s.next.Terminated := by
  obtain ⟨rest, split, previous⟩ := s
  refine ⟨?_, nofun⟩
  match rest, live.ended with
  | [token], ended => exact ended
  | token :: other :: tokens, ended =>
    simpa [EndsInput, Stream.next, tokensAfter, List.getLast?_cons_cons] using ended

/-- A token that is not the end leaves others when it is consumed. -/
theorem Terminated.rest_eq (live : s.Terminated) (more : s.kind ≠ .endOfInput) :
    ∃ first, s.rest = first :: s.next.rest := by
  obtain ⟨rest, split, previous⟩ := s
  obtain ⟨ended, halved⟩ := live
  match rest with
  | [] => cases ended
  | [token] =>
    have isEnd : token.kind = .endOfInput := by simpa [EndsInput] using ended
    cases split with
    | true => simp [isEnd] at halved
    | false => exact absurd isEnd more
  | token :: other :: tokens => exact ⟨token, rfl⟩

theorem Terminated.next_shorter (live : s.Terminated) (more : s.kind ≠ .endOfInput) :
    s.next.rest.length < s.rest.length := by
  obtain ⟨first, rest⟩ := live.rest_eq more
  simp [rest]

theorem Terminated.nonempty (live : s.Terminated) : 0 < s.rest.length := by
  obtain ⟨ended, -⟩ := live
  rw [List.length_pos_iff]
  intro none
  simp [EndsInput, none] at ended

theorem Terminated.half (live : s.Terminated) (splits : s.splitShift? = some m) : m.Terminated := by
  obtain ⟨shift, whole, rest, -⟩ := splitShift_eq splits
  refine ⟨rest ▸ live.ended, fun _ => ?_⟩
  simpa [kind, peek, whole, rest] using shift

theorem half_beyond (splits : s.splitShift? = some m) : m.Beyond s := by
  obtain ⟨-, whole, rest, half⟩ := splitShift_eq splits
  exact .inr ⟨by rw [rest], whole, half⟩

section Reached

variable {tokens : List Token}

/-- The streams that are come to over some tokens: one token is consumed after the other, or a shift by
half. Where a reading goes back, it has been before. -/
inductive Reachable (tokens : List Token) : Stream → Prop where
  | start : Reachable tokens (ofTokens tokens)
  | next {s : Stream} (before : Reachable tokens s) : Reachable tokens s.next
  | half {s m : Stream} (before : Reachable tokens s) (splits : s.splitShift? = some m) :
      Reachable tokens m

theorem Reachable.terminated (reached : Reachable tokens s) (ends : EndsInput tokens) :
    s.Terminated := by
  induction reached with
  | start => exact terminated_ofTokens ends
  | next _ ih => exact ih.next
  | half _ splits ih => exact ih.half splits

theorem next_le (s : Stream) : s.next.rest.length ≤ s.rest.length := by
  obtain ⟨rest, -, -⟩ := s
  match rest with
  | [] | [_] | _ :: _ :: _ => simp [next, tokensAfter]

theorem Reachable.length_le (reached : Reachable tokens s) : s.rest.length ≤ tokens.length := by
  induction reached with
  | start => exact Nat.le_refl _
  | next _ ih => exact Nat.le_trans (next_le _) ih
  | half _ splits ih =>
    obtain ⟨-, -, rest, -⟩ := splitShift_eq splits
    rw [rest]
    exact ih

/-- How far a stream is over some tokens: how many of them have been consumed, and whether the first half
of the next one has. -/
def reach (s : Stream) (tokens : List Token) : Nat ×ₗ Bool :=
  toLex (tokens.length - s.rest.length, s.split)

/-- To be further ahead is to reach further over the tokens. -/
theorem Reachable.beyond_iff (reached : s.Reachable tokens) (reached' : t.Reachable tokens) :
    t.Beyond s ↔ s.reach tokens < t.reach tokens := by
  have bound := reached.length_le
  have bound' := reached'.length_le
  have fewer : t.rest.length < s.rest.length ↔
      tokens.length - s.rest.length < tokens.length - t.rest.length := by omega
  have same : t.rest.length = s.rest.length ↔
      tokens.length - s.rest.length = tokens.length - t.rest.length := by omega
  rw [Beyond, fewer, same, reach, reach, Prod.Lex.toLex_lt_toLex, Bool.lt_iff]

end Reached

/-- Where an end of input is left it stays left, and no more tokens are left than before. -/
def Onward (s t : Stream) : Prop := s.Terminated → t.Terminated ∧ t.rest.length ≤ s.rest.length

theorem Onward.refl : s.Onward s := fun live => ⟨live, Nat.le_refl _⟩

theorem Onward.trans (first : s.Onward m) (second : m.Onward t) : s.Onward t := by
  intro live
  obtain ⟨middle, fewer⟩ := first live
  obtain ⟨ends, fewest⟩ := second middle
  exact ⟨ends, Nat.le_trans fewest fewer⟩

theorem onward_next (more : s.kind ≠ .endOfInput) : s.Onward s.next :=
  fun live => ⟨live.next, Nat.le_of_lt (live.next_shorter more)⟩

/-- Fewer tokens are left than a bound. -/
structure Within (bound : Nat) (s : Stream) : Prop where
  live : s.Terminated
  short : s.rest.length < bound

variable {bound : Nat}

theorem Within.one_lt (within : s.Within bound) : 1 < bound :=
  Nat.lt_of_le_of_lt within.live.nonempty within.short

theorem Within.onward (within : s.Within bound) (onward : s.Onward t) : t.Within bound := by
  obtain ⟨live, fewer⟩ := onward within.live
  exact ⟨live, Nat.lt_of_le_of_lt fewer within.short⟩

theorem Within.mono {more : Nat} (within : s.Within bound) (fewer : bound ≤ more) : s.Within more :=
  ⟨within.live, Nat.lt_of_lt_of_le within.short fewer⟩

theorem Within.same (within : s.Within bound) (more : s.kind ≠ .endOfInput) : s.next.Within bound :=
  within.onward (onward_next more)

theorem Terminated.within_next (live : s.Terminated) (more : s.kind ≠ .endOfInput) :
    s.next.Within s.rest.length := ⟨live.next, live.next_shorter more⟩

theorem Within.next (within : s.Within (bound + 1)) (more : s.kind ≠ .endOfInput) :
    s.next.Within bound :=
  (within.live.within_next more).mono (Nat.le_of_lt_succ within.short)

/-- What goes on behind a token is further ahead than the token. -/
theorem Onward.past (onward : s.next.Onward t) (live : s.Terminated) (more : s.kind ≠ .endOfInput) :
    t.Within s.rest.length := (live.within_next more).onward onward

/-- What stands behind a token that is come to is further ahead than the start. -/
theorem Onward.behind (onward : s.Onward t) (live : s.Terminated) (more : t.kind ≠ .endOfInput) :
    t.next.Within s.rest.length := by
  obtain ⟨ends, fewer⟩ := onward live
  exact (ends.within_next more).mono fewer

end Stream

namespace Reader

open Formula.Stream

variable {α : Type} {scope : Scope} {readTy : Attempt Ty} {s t m : Stream} {ty : Ty}
  {inside : Option Bracket}

theorem Walk.onward (walk : Walk inside s t) : s.Onward t := by
  induction walk with
  | here => exact .refl
  | token plain _ ih => exact (onward_next (ne_end_of_plain plain)).trans ih
  | half splits _ ih =>
    obtain ⟨-, -, rest, -⟩ := splitShift_eq splits
    exact Onward.trans (fun live => ⟨live.half splits, rest ▸ Nat.le_refl _⟩) ih
  | mark asks _ _ ih => exact (onward_next (by simp [asks])).trans ih
  | branch asks _ _ colon _ within ih =>
    exact (onward_next (by simp [asks])).trans
      (within.trans ((onward_next (by simp [colon])).trans ih))
  | bracket _ opens _ closes _ within ih =>
    exact (onward_next (ne_end_of_opener opens)).trans
      (within.trans ((onward_next (ne_end_of_closer closes)).trans ih))
  | assign name equal _ ih =>
    exact (onward_next (by simp [name])).trans ((onward_next (by simp [equal])).trans ih)

/-- Whatever is read goes over the same tokens. -/
theorem Walk.reachable {tokens : List Token} (walk : Walk inside s t)
    (reached : s.Reachable tokens) : t.Reachable tokens := by
  induction walk with
  | here => exact reached
  | token _ _ ih | mark _ _ _ ih => exact ih reached.next
  | half splits _ ih => exact ih (reached.half splits)
  | branch _ _ _ _ _ within ih | bracket _ _ _ _ _ within ih =>
    exact ih (within reached.next).next
  | assign _ _ _ ih => exact ih reached.next.next

theorem Walks.onward {read : Attempt α} {result : α} (walks : Walks read)
    (came : read s = some (result, t)) : s.Onward t :=
  (walks s result t none came).onward

theorem type_onward (named : type? scope s = some (ty, t)) : s.Onward t := type_walks.onward named

theorem castTarget_onward (target : castTarget? scope s = some (ty, t)) : s.Onward t := by
  obtain ⟨m, walk, closes, rfl⟩ : ∃ m, Walk none s m ∧ m.kind = .rightParen ∧ m.next = t :=
    castTarget_walk target
  exact walk.onward.trans (onward_next (by simp [closes]))

theorem items_onward {bracket : Bracket} {args : List Expr}
    (read : Reads scope (.items bracket) s args t) : s.Onward t := by
  obtain ⟨m, walk, closes, rfl⟩ := read.walked
  exact walk.onward.trans (onward_next (ne_end_of_closer closes))

section Past

/-! What is read begins with a token of its own, so it leads further ahead than where it began. -/

theorem path_past (walks : Walks readTy) (live : s.Terminated)
    (named : path scope readTy s = some (ty, t)) : t.Within s.rest.length := by
  have name := path_named named
  rw [path, if_pos name] at named
  exact ((pathFrom_walks walks _ _).onward named).past live (by simp [name])

/-- A type takes at least one token. -/
theorem typeWithin_past {depth : Nat} (live : s.Terminated)
    (named : typeWithin scope depth s = some (ty, t)) : t.Within s.rest.length := by
  cases depth with
  | zero => cases named
  | succ depth =>
    rw [typeWithin, Option.map_eq_some_iff] at named
    obtain ⟨⟨plain, m⟩, path, same⟩ := named
    have marks : Walk none m t := by
      have same : (withArrays _ _ _).2 = t := congrArg Prod.snd same
      rw [← same]
      exact (withNullable_walk plain m).trans (withArrays_walk _ _ _)
    exact (path_past (typeWithin_walks depth) live path).onward marks.onward

theorem typeArgs_past {args : List Ty} (walks : Walks readTy) (live : s.Terminated)
    (read : typeArgs readTy s = some (args, t)) : t.Within s.rest.length := by
  obtain ⟨after, ate, read⟩ := Option.bind_eq_some_iff.mp read
  obtain ⟨less, rfl⟩ := eat_eq.mp ate
  exact ((argsFrom_walks walks _).onward read).past live (by simp [less])

theorem arguments_past {bracket : Bracket} {args : List Expr} (live : s.Terminated)
    (read : Reads scope (.arguments bracket) s args t) : t.Within s.rest.length := by
  cases read with
  | noArguments opens closes =>
    exact (onward_next (ne_end_of_closer closes)).past live (ne_end_of_opener opens)
  | arguments opens _ items => exact (items_onward items).past live (ne_end_of_opener opens)

theorem operator_past {level : Nat} {left e : Expr} (live : s.Terminated)
    (read : Reads scope (.operator level inside left) s e t) : t.Within s.rest.length := by
  cases read with
  | memberCall dot name _ args _ =>
    exact ((onward_next (by simp [name])).trans (args.walked none).onward).past live (by simp [dot])
  | member dot name _ _ => exact (onward_next (by simp [name])).past live (by simp [dot])
  | index _ args _ => exact arguments_past live args
  | conditional asks _ first colon second _ =>
    have branches := first.walked.onward.trans ((onward_next (by simp [colon])).trans second.walked.onward)
    exact branches.past live (by simp [asks])
  | coalesce asks right _ => exact right.walked.onward.past live (by simp [asks])
  | typeTest asks named _ =>
    exact (type_onward named).past live (ne_end_of_plain (plain_of_test asks))
  | binary sign right _ => exact right.walked.onward.past live (ne_end_of_operator sign)

/-- An operand takes at least one token. -/
theorem operand_past {e : Expr} (live : s.Terminated) (read : Reads scope (.operand inside) s e t) :
    t.Within s.rest.length := by
  have more : s.kind ≠ .endOfInput := by
    intro isEnd
    have begins := read.begins
    simp [isEnd, operandKinds] at begins
  cases read with
  | literal | parameter | defaultMember => exact Onward.refl.past live more
  | cast _ target operand _ =>
    exact ((castTarget_onward target).trans operand.walked.onward).past live more
  | group _ _ inner closes =>
    exact (inner.walked.onward.trans (onward_next (by simp [closes]))).past live more
  | sign _ operand _ => exact operand.walked.onward.past live more
  | arrayItems _ named _ items _ =>
    exact ((type_onward named).trans (items.walked none).onward).past live more
  | arrayLength _ named _ _ length _ =>
    exact ((type_onward named).trans (length.walked none).onward).past live more
  | create _ named _ given _ filled =>
    have behind := (given.walked none).trans (filled.walked none)
    exact ((type_onward named).trans behind.onward).past live more
  | typeOf _ opens named closes | sizeOf _ opens named closes =>
    have inner := (type_onward named).trans (onward_next (by simp [closes]))
    exact ((onward_next (by simp [opens])).trans inner).past live more
  | defaultCall _ _ _ _ args _ => exact (args.walked none).onward.past live more
  | staticCall _ named dot name _ args _ =>
    have owner := path_past (typeWithin_walks _) live named
    have member := (owner.same (by simp [dot])).same (by simp [name])
    exact member.onward (args.walked none).onward
  | staticMember _ named dot name _ _ =>
    have owner := path_past (typeWithin_walks _) live named
    exact (owner.same (by simp [dot])).same (by simp [name])

end Past

end Reader
end Formula
