import Formula.Proofs.Seams

/-! Two streams side by side: the tokens of a text up to its end, and the same words, wherever they
stand, up to an end of their own or in front of a closing parenthesis. The words agree up to a seam
there; a text that ends in a question mark and a name is the one that does not go with a parenthesis. -/
namespace Formula

/-- Tokens up to the end, beside the same words: up to a closing parenthesis where those are
enclosed, up to their own end where they are not. -/
inductive Beside : Bool → List Token → List Token → Prop where
  | enclosed {ending closing after : Token} (isEnd : ending.kind = .endOfInput)
      (closes : closing.kind = .rightParen) (isAfter : after.kind = .endOfInput) :
      Beside true [ending] [closing, after]
  | bare {ending last : Token} (isEnd : ending.kind = .endOfInput)
      (isLast : last.kind = .endOfInput) : Beside false [ending] [last]
  | cons {enclosed : Bool} {a b : Token} {as bs : List Token} (same : a.SameWord b)
      (more : a.kind ≠ .endOfInput) (rest : Beside enclosed as bs) :
      Beside enclosed (a :: as) (b :: bs)

theorem Beside.symm {as bs : List Token} (beside : Beside false as bs) : Beside false bs as := by
  generalize bare : false = enclosed at beside
  induction beside with
  | enclosed => cases bare
  | bare isEnd isLast => exact .bare isLast isEnd
  | cons same more _ ih =>
    exact .cons ⟨same.kind.symm, same.lexeme.symm, same.number.symm⟩ (same.kind ▸ more) (ih bare)

/-- Tokens that stand beside others stand there word by word, up to the end. -/
theorem Beside.parts {enclosed : Bool} {as bs : List Token} (beside : Beside enclosed as bs) :
    ∃ body inner ending behind, as = body ++ [ending] ∧ bs = inner ++ behind ∧
      (∀ token ∈ body, token.kind ≠ .endOfInput) ∧ List.Forall₂ Token.SameWord body inner ∧
      ending.kind = .endOfInput ∧ Beside enclosed [ending] behind := by
  induction beside with
  | enclosed isEnd closes isAfter =>
    exact ⟨[], [], _, _, rfl, rfl, by simp, .nil, isEnd, .enclosed isEnd closes isAfter⟩
  | bare isEnd isLast => exact ⟨[], [], _, _, rfl, rfl, by simp, .nil, isEnd, .bare isEnd isLast⟩
  | @cons _ a b _ _ same more _ ih =>
    obtain ⟨body, inner, ending, behind, rfl, rfl, noEnd, words, isEnd, atEnd⟩ := ih
    exact ⟨a :: body, b :: inner, ending, behind, rfl, rfl,
      List.forall_mem_cons.mpr ⟨more, noEnd⟩, .cons same words, isEnd, atEnd⟩

namespace Stream

variable {enclosed : Bool} {s s' m m' : Stream} {as bs : List Token}

/-- Streams of the same words, the second in parentheses or not, consumed equally far. A text in
parentheses does not end in a question mark and a name: with the parenthesis behind them, the mark
would be one of a nullable type. -/
structure Twin (enclosed : Bool) (s s' : Stream) : Prop where
  beside : Beside enclosed s.rest s'.rest
  split : s.split = s'.split
  halved : s.split = true → (tokenAt s.rest 0).kind = .greaterGreater
  noQuestion : enclosed = true → ¬ EndsInQuestion s.rest

theorem ended_of_beside (beside : Beside enclosed as bs) : Ended as := by
  induction beside with
  | enclosed isEnd | bare isEnd => exact .last isEnd
  | cons _ more _ ih => exact .cons more ih

theorem ended_of_twin (beside : Beside enclosed as bs) : Ended bs := by
  induction beside with
  | enclosed _ closes isAfter => exact .cons (by simp [closes]) (.last isAfter)
  | bare _ isLast => exact .last isLast
  | cons same more _ ih => exact .cons (same.kind ▸ more) ih

/-- Where one stream is at its end, the other is at its own, or at the parenthesis and then at its
end. -/
def Ends (enclosed : Bool) (s : Stream) : Prop :=
  if enclosed then s.kind = .rightParen ∧ s.next.kind = .endOfInput else s.kind = .endOfInput

namespace Twin

theorem closed (twin : Twin enclosed s s') : s.Closed :=
  ⟨ended_of_beside twin.beside, twin.halved⟩

/-- Without parentheses, neither stream comes before the other. -/
theorem symm (twin : Twin false s s') : Twin false s' s := by
  refine ⟨twin.beside.symm, twin.split.symm, fun half => ?_, nofun⟩
  have shift := twin.halved (twin.split.trans half)
  have beside := twin.beside
  revert shift
  generalize s.rest = tokens at beside
  generalize s'.rest = others at beside
  intro shift
  cases beside with
  | bare isEnd => simp [isEnd] at shift
  | cons same => exact same.kind.symm.trans shift

/-- The words of twins agree up to a seam: on one side the end, on the other what stands there. -/
theorem parallel (twin : Twin enclosed s s') :
    ∃ behind, Seam (UpTo behind) ∧ Parallel (UpTo behind) s s' ∧
      ∀ t : Stream, t.Before behind → t.Ends enclosed := by
  obtain ⟨body, inner, ending, behind, front, back, noEnd, words, isEnd, atEnd⟩ :=
    twin.beside.parts
  have ended := ended_of_twin atEnd
  cases atEnd with
  | @enclosed _ closing after _ closes isAfter =>
    have kind : (ofTokens [closing, after]).kind = .rightParen := before_ofTokens.kind.trans closes
    have seam : Seam (UpTo [closing, after]) := seam_upTo ended (by simp [kind])
    refine ⟨_, seam, ⟨body.length, ?_, twin.split, twin.halved⟩, fun t before => ?_⟩
    · rw [front, back]
      exact agree_of_words seam (.ended isEnd) words noEnd (by simp [kind])
        (fun _ => front ▸ twin.noQuestion rfl)
    · exact ⟨before.kind.trans closes, (before.next (by simp)).kind.trans isAfter⟩
  | @bare _ last _ isLast =>
    have kind : (ofTokens [last]).kind = .endOfInput := before_ofTokens.kind.trans isLast
    have seam : Seam (UpTo [last]) := seam_upTo ended (by simp [kind])
    refine ⟨_, seam, ⟨body.length, ?_, twin.split, twin.halved⟩, fun t before => ?_⟩
    · rw [front, back]
      exact agree_of_words seam (.ended isEnd) words noEnd (by simp [kind]) (by simp [kind])
    · exact before.kind.trans isLast
  | cons same more => exact absurd isEnd more

end Twin
end Stream
end Formula
