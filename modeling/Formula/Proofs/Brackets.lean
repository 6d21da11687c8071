import Formula.Proofs.TokenWalk

/-! What brackets keep a walk from. No front part of the tokens that a walk goes over closes more
brackets than it opens, so no walk gets past a closing bracket whose opening one lies before it. -/
namespace Formula

/-- How many more brackets tokens open than they close. -/
def depth : List Token → Int
  | [] => 0
  | token :: rest =>
    (if token.kind.isClosing then -1 else if token.kind.isBracket then 1 else 0) + depth rest

theorem depth_append (first second : List Token) :
    depth (first ++ second) = depth first + depth second := by
  induction first with
  | nil => simp [depth]
  | cons token rest ih =>
    simp only [List.cons_append, depth, ih]
    omega

theorem depth_closer {token : Token} {bracket : Bracket} (closes : token.kind = bracket.closer)
    (rest : List Token) : depth (token :: rest) = depth rest - 1 := by
  have closing : token.kind.isClosing = true := by
    rw [closes]
    cases bracket <;> rfl
  simp only [depth, closing, ↓reduceIte]
  omega

theorem depth_opener {token : Token} {bracket : Bracket} (opens : token.kind = bracket.opener)
    (rest : List Token) : depth (token :: rest) = depth rest + 1 := by
  have opening : token.kind.isClosing = false ∧ token.kind.isBracket = true := by
    rw [opens]
    cases bracket <;> exact ⟨rfl, rfl⟩
  simp only [depth, opening.1, opening.2, Bool.false_eq_true, ↓reduceIte]
  omega

theorem depth_other {token : Token} (noBracket : token.kind.isBracket = false) (rest : List Token) :
    depth (token :: rest) = depth rest := by
  have noClosing : token.kind.isClosing = false := by
    cases kind : token.kind <;> simp [kind, TokenKind.isBracket, TokenKind.isClosing] at noBracket ⊢
  simp only [depth, noBracket, noClosing, Bool.false_eq_true, ↓reduceIte]
  omega

theorem Balanced.depth_eq {tokens : List Token} (balanced : Balanced tokens) :
    depth tokens = 0 := by
  induction balanced with
  | nil => rfl
  | cons noBracket _ ih => rw [depth_other noBracket, ih]
  | bracket opens _ closes _ inner ih =>
    rw [depth_opener opens, depth_append, depth_closer closes, inner, ih]
    rfl

/-- Nothing that tokens with matching brackets begin with closes more than it opens. -/
theorem Balanced.depth_front {tokens front back : List Token} (balanced : Balanced tokens)
    (parts : tokens = front ++ back) : 0 ≤ depth front := by
  induction balanced generalizing front back with
  | nil =>
    obtain ⟨rfl, -⟩ := List.append_eq_nil_iff.mp parts.symm
    exact Int.le_refl 0
  | @cons token rest noBracket _ ih =>
    cases front with
    | nil => exact Int.le_refl 0
    | cons first front =>
      obtain ⟨rfl, others⟩ := List.cons.inj parts
      rw [depth_other noBracket]
      exact ih others
  | @bracket opening closing within rest _ opens inner closes _ ihInner ihRest =>
    cases front with
    | nil => exact Int.le_refl 0
    | cons first front =>
      obtain ⟨rfl, others⟩ := List.cons.inj parts
      rw [depth_opener opens]
      -- The front ends inside the bracket, or it has what is inside and goes on from there.
      obtain ⟨more, rfl, behind⟩ | ⟨more, rfl, -⟩ := List.append_eq_append_iff.mp others
      · rw [depth_append, inner.depth_eq]
        cases more with
        | nil => simp [depth]
        | cons token more =>
          obtain ⟨rfl, after⟩ := List.cons.inj behind
          have level := ihRest after
          rw [depth_closer closes]
          omega
      · have level := ihInner rfl
        omega

namespace Reader

variable {scope : Scope} {s m n : Stream} {inside inside' : Option Bracket} {bracket : Bracket}

/-- No walk gets past a closing bracket to which another one comes from the same place. -/
theorem Walk.stops (walk : Walk inside s m) (closes : m.kind = bracket.closer)
    (other : Walk inside' s n) (closed : s.Closed) : m.rest.length ≤ n.rest.length := by
  obtain ⟨middle, used, rest, balanced⟩ := walk.used closed
  obtain ⟨-, used', rest', balanced'⟩ := other.used closed
  have whole : m.kind ≠ .greater := by
    rw [closes]
    cases bracket <;> simp [Bracket.closer]
  have first := middle.first (ne_end_of_closer closes) whole
  have same : used ++ m.rest = used' ++ n.rest := rest.symm.trans rest'
  obtain ⟨more, parts, second⟩ | ⟨more, -, second⟩ := List.append_eq_append_iff.mp same
  · cases more with
    | nil => simp [second]
    | cons token more =>
      rw [first] at second
      obtain ⟨rfl, -⟩ := List.cons.inj second
      have front : used' = (used ++ [m.peek]) ++ more := by simp [parts]
      have level := balanced'.depth_front front
      rw [depth_append, balanced.depth_eq, depth_closer closes] at level
      simp [depth] at level
  · simp [second]

/-- A walk to a closing bracket and a walk to the end do not begin in one place. -/
theorem Walk.apart (bracket : Bracket) (walk : Walk inside s m) (closes : m.kind = bracket.closer)
    (other : Walk inside' s n) (isEnd : n.kind = .endOfInput) (closed : s.Closed) : False := by
  have short := walk.stops closes other closed
  have more := ne_end_of_closer closes
  have middle := walk.closed closed
  have shorter := middle.next_shorter more
  have some := (middle.next more).nonempty
  rw [(other.closed closed).last isEnd] at short
  simp only [List.length_singleton] at short
  omega

/-- Walks from one place that come to closing brackets come to the same one. -/
theorem Walk.meet (bracket other : Bracket) (walk : Walk inside s m)
    (closes : m.kind = bracket.closer) (walk' : Walk inside' s n) (closes' : n.kind = other.closer)
    (closed : s.Closed) : m.rest = n.rest := by
  have first := walk.stops closes walk' closed
  have second := walk'.stops closes' walk closed
  obtain ⟨-, used, rest, -⟩ := walk.used closed
  obtain ⟨-, used', rest', -⟩ := walk'.used closed
  have same : used ++ m.rest = used' ++ n.rest := rest.symm.trans rest'
  exact (List.append_inj' same (by omega)).2

/-- What a walk goes through in parentheses, up to the end behind them, has no header. -/
theorem header_none (walk : Walk (some .paren) s.next m) (opens : s.kind = .leftParen)
    (closes : m.kind = .rightParen) (isEnd : m.next.kind = .endOfInput) (closed : s.Closed) :
    header? scope s = none := by
  cases came : header? scope s with
  | none => rfl
  | some reply =>
    obtain ⟨header, t⟩ := reply
    obtain ⟨name, -⟩ | ⟨-, n, walk', closes', arrow, -⟩ := header_walk came
    · simp [opens] at name
    · have same := walk.meet .paren .paren closes walk' closes' (closed.next (by simp [opens]))
      have kinds : n.next.kind = m.next.kind := by
        simp [Stream.kind, Stream.next, Stream.peek, same]
      simp [kinds, isEnd] at arrow

end Reader
end Formula
