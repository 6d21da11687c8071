import Formula.Proofs.Alongside

/-! Whole formulas are read alike up to a seam where both sides end together. A header is read with the
same names and types on both sides, wherever they stand, so the same parameters are in force in front
of bodies that are read alike. -/
namespace Formula

/-- What a header says of a parameter. -/
def HeaderParam.written (param : HeaderParam) : String × Option Ty := (param.name, param.ty)

namespace Reader

open Formula.Expr (Alike)
open Formula.Stream (Along Parallel)

variable {joins : List Token → List Token → Prop} {scope : Scope} {s s' m t : Stream}

/-- What a header says of its parameters, and the stream that is left. -/
def allWritten (reply : List HeaderParam × Stream) : List (String × Option Ty) × Stream :=
  (reply.1.map (·.written), reply.2)

section Binding

variable {params inForce : Parameters} {header header' : List HeaderParam}
  {declared : Option (List ParamSpec)} {specs : List ParamSpec} {earlier : List String}
  {span span' : Span}

theorem bindFrom_followed (same : header.map (·.written) = header'.map (·.written))
    (bound : bindFrom params earlier header specs = .ok inForce) :
    bindFrom params earlier header' specs = .ok inForce := by
  induction header generalizing header' params earlier specs with
  | nil =>
    rw [List.map_eq_nil_iff.mp same.symm]
    exact bound
  | cons param header ih =>
    cases header' with
    | nil => cases same
    | cons param' header' =>
      obtain ⟨name, ty, place⟩ := param
      obtain ⟨name', ty', place'⟩ := param'
      obtain ⟨first, others⟩ := List.cons.inj same
      obtain ⟨rfl, rfl⟩ : name = name' ∧ ty = ty' := Prod.mk.inj first
      have goesOn : ∀ known, bindFrom (params.push name known) (name :: earlier) header specs.tail =
          .ok inForce → bindFrom (params.push name known) (name :: earlier) header' specs.tail =
            .ok inForce := fun known bound => ih others bound
      simp only [bindFrom] at bound ⊢
      split at bound
      case isTrue => cases bound
      case isFalse fresh =>
        rw [if_neg fresh]
        cases ty <;> cases declared : specs.head?.bind (·.ty) <;> simp only [declared] at bound ⊢
        case some.some =>
          split at bound
          case isTrue agree =>
            rw [if_pos agree]
            exact goesOn _ bound
          case isFalse => cases bound
        all_goals exact goesOn _ bound

theorem bindHeader_followed (same : header.map (·.written) = header'.map (·.written))
    (bound : bindHeader params header declared span = .ok inForce) :
    bindHeader params header' declared span' = .ok inForce := by
  have length : header.length = header'.length := by simpa using congrArg List.length same
  cases declared with
  | none => exact bindFrom_followed same bound
  | some specs =>
    simp only [bindHeader, ← length] at bound ⊢
    split at bound
    case isTrue many =>
      rw [if_pos many]
      exact bindFrom_followed same bound
    case isFalse => cases bound

end Binding

section Reading

variable {n fuel fuel' : Nat} {first second : Option (List HeaderParam × Stream)}

/-- Where the near side ends, the far side ends as well. -/
def EndTogether (joins : List Token → List Token → Prop) : Prop :=
  ∀ as bs, joins as bs → (Stream.ofTokens as).kind = .endOfInput →
    (Stream.ofTokens bs).kind = .endOfInput

theorem end_followed (along : Along joins n s s') (seam : Seam joins)
    (together : EndTogether joins) (isEnd : s.kind = .endOfInput) : s'.kind = .endOfInput := by
  obtain ⟨joined, whole, whole'⟩ | ⟨_, -, more, -⟩ := along.step seam
  · rw [Stream.kind_whole whole] at isEnd
    rw [Stream.kind_whole whole']
    exact together _ _ joined isEnd
  · exact absurd isEnd more

/-- No parenthesis closes at the seam. -/
theorem closes_iff (along : Along joins n s s') (seam : Seam joins) (together : EndTogether joins) :
    s'.kind = .rightParen ↔ s.kind = .rightParen := by
  obtain here | ⟨_, -, -, word, -⟩ := along.step seam
  · obtain isEnd | ⟨asks, asks'⟩ := here.kinds seam
    · simp [isEnd, end_followed along seam together isEnd]
    · simp [asks, asks']
  · have same : s.kind = s'.kind := word.kind
    rw [same]

/-- What stands in front of the name of a parameter: nothing, or its type. -/
theorem front_paired (along : Along joins n s s') (seam : Seam joins) (together : EndTogether joins) :
    Paired joins n
      (if s.kind = .identifier ∧ (s.next.kind = .comma ∨ s.next.kind = .rightParen) then
          some (none, s)
        else (type? scope s).map fun reply => (some reply.1, reply.2))
      (if s'.kind = .identifier ∧ (s'.next.kind = .comma ∨ s'.next.kind = .rightParen) then
          some (none, s')
        else (type? scope s').map fun reply => (some reply.1, reply.2)) := by
  have bare : s'.kind = .identifier ∧ (s'.next.kind = .comma ∨ s'.next.kind = .rightParen) ↔
      s.kind = .identifier ∧ (s.next.kind = .comma ∨ s.next.kind = .rightParen) := by
    rw [along.kind_iff seam (by simp [seamKinds])]
    refine and_congr_right fun named => ?_
    obtain ⟨-, k, -, next⟩ := along.is seam named (by simp)
    rw [next.kind_iff seam (by simp [seamKinds]), closes_iff next seam together]
  simp only [bare]
  split
  case isTrue => exact .some (Nat.le_refl n) along
  case isFalse => exact (type_paired seam along).map

/-- The end of a header comes on both sides or on none. -/
theorem last_paired {param param' : HeaderParam} (along : Along joins n s s') (seam : Seam joins)
    (together : EndTogether joins) (same : param.written = param'.written) :
    Paired joins n
      (((s.eat? .rightParen).map fun after => ([param], after)).map allWritten)
      (((s'.eat? .rightParen).map fun after => ([param'], after)).map allWritten) := by
  have iff := closes_iff along seam together
  by_cases closes : s.kind = .rightParen
  · obtain ⟨-, k, less, next⟩ := along.is seam closes (by simp)
    simp only [Stream.eat?, closes, iff.mpr closes, ↓reduceIte, Option.map_some, allWritten,
      List.map_cons, List.map_nil, same]
    exact .some (Nat.le_of_lt less) next
  · have closes' := fun found => closes (iff.mp found)
    simp only [Stream.eat?, if_neg closes, if_neg closes']
    exact .none

theorem allWritten_more {param : HeaderParam} {reply : Option (List HeaderParam × Stream)} :
    (reply.map fun others => (param :: others.1, others.2)).map allWritten =
      (reply.map allWritten).map fun others => (param.written :: others.1, others.2) := by
  cases reply <;> rfl

theorem headerFrom_paired (seam : Seam joins) (together : EndTogether joins)
    (along : Along joins n s s') (enough : n < fuel) (enough' : n < fuel') :
    Paired joins n ((headerFrom scope fuel s).map allWritten)
      ((headerFrom scope fuel' s').map allWritten) := by
  induction fuel generalizing fuel' s s' n with
  | zero => cases enough
  | succ fuel ih =>
    obtain ⟨fuel', rfl⟩ : ∃ less, fuel' = less + 1 := ⟨fuel' - 1, by omega⟩
    rw [headerFrom_succ, headerFrom_succ, Option.map_bind, Option.map_bind]
    refine (front_paired along seam together).bind fun ty m m' k within behind => ?_
    simp only [Function.comp_apply]
    by_cases named : m.kind = .identifier
    · obtain ⟨word, j, less, next⟩ := behind.pass seam (by simp [named]) (by simp [named])
      have named' : m'.kind = .identifier := word.kind.symm.trans named
      rw [if_pos named, if_pos named']
      obtain ⟨noComma, noComma'⟩ | ⟨i, fewer, ate, ate', last⟩ :=
        next.eat seam .comma (by simp [seamKinds])
      · simp only [noComma, noComma']
        refine (last_paired next seam together ?_).mono (by omega)
        simp only [HeaderParam.written, word.lexeme]
      · simp only [ate, ate']
        rw [allWritten_more, allWritten_more]
        simp only [HeaderParam.written, ← word.lexeme]
        have rest : Paired joins i ((headerFrom scope fuel m.next.next).map allWritten)
            ((headerFrom scope fuel' m'.next.next).map allWritten) :=
          ih last (by omega) (by omega)
        exact rest.map.mono (by omega)
    · have unnamed : ¬ m'.kind = .identifier :=
        fun named' => named ((behind.kind_iff seam (by simp [seamKinds])).mp named')
      rw [if_neg named, if_neg unnamed]
      exact .none

/-- A header in parentheses says what stands in them says. -/
theorem headerInParens_written : (headerInParens scope s).map allWritten =
    (((s.next.eat? .rightParen).map fun after => ([], after)).or
        ((headerFrom scope s.next.rest.length s.next).map allWritten)).bind fun reply =>
      (reply.2.eat? .fatArrow).map fun after => (reply.1, after) := by
  rw [headerInParens_eq, Option.map_bind]
  cases s.next.eat? .rightParen with
  | some after => simp [allWritten, Function.comp_def]
  | none =>
    rw [Option.map_none, Option.map_none, Option.none_or, Option.none_or, Option.bind_map]
    simp [allWritten, Function.comp_def]

theorem headerInParens_paired (seam : Seam joins) (together : EndTogether joins)
    (along : Along joins n s.next s'.next) :
    Paired joins n ((headerInParens scope s).map allWritten)
      ((headerInParens scope s').map allWritten) := by
  have length := along.length seam
  have inside : Paired joins n
      (((s.next.eat? .rightParen).map fun after => ([], after)).or
        ((headerFrom scope s.next.rest.length s.next).map allWritten))
      (((s'.next.eat? .rightParen).map fun after => ([], after)).or
        ((headerFrom scope s'.next.rest.length s'.next).map allWritten)) := by
    have iff := closes_iff along seam together
    by_cases closes : s.next.kind = .rightParen
    · obtain ⟨-, k, less, next⟩ := along.is seam closes (by simp)
      simp only [Stream.eat?, closes, iff.mpr closes, ↓reduceIte, Option.map_some, Option.some_or]
      exact .some (Nat.le_of_lt less) next
    · have closes' := fun found => closes (iff.mp found)
      simp only [Stream.eat?, if_neg closes, if_neg closes', Option.map_none, Option.none_or]
      exact headerFrom_paired seam together along length.1 length.2
  rw [headerInParens_written, headerInParens_written]
  refine inside.bind fun params m m' k within behind => ?_
  obtain ⟨noArrow, noArrow'⟩ | ⟨j, less, ate, ate', next⟩ :=
    behind.eat seam .fatArrow (by simp [seamKinds])
  · simp only [noArrow, noArrow']
    exact .none
  · simp only [ate, ate', Option.map_some]
    exact .some (by omega) next

/-- A header is read with the same names and types on both sides, or on none. -/
theorem header_paired (seam : Seam joins) (together : EndTogether joins) (along : Along joins n s s') :
    Paired joins n ((header? scope s).map allWritten) ((header? scope s').map allWritten) := by
  have pair : s'.kind = .identifier ∧ s'.kindAt 1 = .fatArrow ↔
      s.kind = .identifier ∧ s.kindAt 1 = .fatArrow :=
    along.pair_iff seam (by simp [seamKinds]) (by simp [seamKinds])
  have opens : s'.kind = .leftParen ↔ s.kind = .leftParen :=
    along.kind_iff seam (by simp [seamKinds])
  simp only [header?, get_then]
  by_cases named : s.kind = .identifier ∧ s.kindAt 1 = .fatArrow
  · have named' := named
    rw [Stream.kindAt_one] at named'
    obtain ⟨word, k, less, next⟩ := along.pass seam (by simp [named.1]) (by simp [named.1])
    obtain ⟨-, j, fewer, last⟩ := next.is seam named'.2 (by simp)
    rw [if_pos (show s.peek.kind = .identifier ∧ _ from named),
      if_pos (show s'.peek.kind = .identifier ∧ _ from pair.mpr named), word.lexeme]
    exact .some (by omega) last
  · rw [if_neg (show ¬ (s.peek.kind = .identifier ∧ _) from named),
      if_neg (show ¬ (s'.peek.kind = .identifier ∧ _) from fun both => named (pair.mp both))]
    by_cases paren : s.kind = .leftParen
    · rw [if_pos (show s.peek.kind = .leftParen from paren),
        if_pos (show s'.peek.kind = .leftParen from opens.mpr paren)]
      obtain ⟨-, k, less, next⟩ := along.is seam paren (by simp)
      exact (headerInParens_paired seam together next).mono (Nat.le_of_lt less)
    · rw [if_neg (show ¬ s.peek.kind = .leftParen from paren),
        if_neg (show ¬ s'.peek.kind = .leftParen from fun found => paren (opens.mp found))]
      exact .none

end Reading

section Formulas

variable {declared : Option (List ParamSpec)} {params : Parameters} {parsed : Lambda} {n : Nat}

/-- The same parameters are in force on both sides. -/
theorem parameters_followed (seam : Seam joins) (together : EndTogether joins)
    (along : Along joins n s s') (ran : Yields (parameters scope declared) s params t) :
    ∃ t' k, Yields (parameters scope declared) s' params t' ∧ Along joins k t t' := by
  have paired : Paired joins n ((header? scope s).map allWritten)
      ((header? scope s').map allWritten) := header_paired seam together along
  obtain ⟨header, found, bound⟩ | ⟨headless, bound, rfl⟩ := parameters_yields.mp ran
  · obtain ⟨t', k, found', behind⟩ := paired.forward (congrArg (Option.map allWritten) found)
    obtain ⟨⟨header', m'⟩, again, same⟩ := Option.map_eq_some_iff.mp found'
    obtain ⟨names, rfl⟩ := Prod.mk.inj same
    exact ⟨m', k, parameters_yields.mpr
      (.inl ⟨header', again, bindHeader_followed names.symm bound⟩), behind⟩
  · have headless' : header? scope s' = none := by
      rw [headless] at paired
      generalize other : (header? scope s').map allWritten = reply at paired
      cases paired with
      | none => exact Option.map_eq_none_iff.mp other
    exact ⟨s', n, parameters_yields.mpr (.inr ⟨headless', bound, rfl⟩), along⟩

/-- A formula is accepted on both sides, with the same parameters and the same tree but for places. -/
theorem lambda_followed (bridge : Bridge { scope with params := parsed.params } joins none)
    (together : EndTogether joins) (along : Along joins n s s')
    (accepted : Yields (lambda scope declared) s parsed t) :
    ∃ parsed' t', Yields (lambda scope declared) s' parsed' t' ∧
      parsed'.params = parsed.params ∧ parsed'.body.unplaced = parsed.body.unplaced := by
  obtain ⟨m, first, ran, isEnd⟩ := lambda_yields.mp accepted
  have seam := bridge.toSeam
  obtain ⟨m', k, first', behind⟩ := parameters_followed seam together along first
  obtain ⟨body', t', read', alike, j, last⟩ :=
    (expression_reads ran).followed bridge m' ⟨k, behind⟩
  have isEnd' := end_followed last seam together isEnd
  refine ⟨⟨parsed.params, body'⟩, t', lambda_yields.mpr ⟨m', first', ?_, isEnd'⟩, rfl, alike.symm⟩
  exact Reads.yields read' (behind.closed_far seam)

end Formulas

end Reader
end Formula
