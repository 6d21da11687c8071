import Formula.Proofs.Brackets
import Formula.Proofs.GrammarComplete
import Formula.Proofs.Places
import Formula.Proofs.Seams

/-! Expressions are read alike up to a seam. A derivation for the one side is followed, rule by rule,
by one for the other; whatever has no bracket around it in the one has the bracket around it that is
open where the seam is. What a seam has to be like for this is said of the seam alone: an expression
ends there on both sides, or the first branch of a conditional begins there, which the other side
has in its own way. -/
namespace Formula

namespace Reader

open Formula.Expr (Alike AllAlike unplaced unplacedAll)
open Formula.Stream (Parallel AtSeam)

variable {joins : List Token → List Token → Prop} {scope : Scope} {s t m s' : Stream}
  {inside outer : Option Bracket}

section Tokens

variable {least level : Nat} {ty : Ty}

/-- What a token in front of the end means for an expression, it means inside a further bracket. -/
theorem endsBefore_inside {a b : Token} {ended : Bool} (same : a.kind = b.kind)
    (more : a.kind ≠ .endOfInput) (answer : endsBefore a inside = .ok ended) :
    endsBefore b (inside.or outer) = .ok ended := by
  unfold endsBefore at answer ⊢
  rw [if_neg more] at answer
  rw [← same, if_neg more]
  by_cases closing : a.kind.isClosing
  · rw [if_pos closing] at answer ⊢
    cases inside with
    | none => cases answer
    | some bracket =>
      simp only [Option.some_or] at answer ⊢
      split at answer
      case isTrue closes => rw [if_pos closes, answer]
      case isFalse => cases answer
  · rw [if_neg closing] at answer ⊢
    generalize a.kind = kind at answer ⊢
    cases kind with
    | comma =>
      cases inside with
      | none => simp at answer
      | some bracket => exact answer
    | _ => exact answer

theorem goesOn_parallel (seam : Seam joins) (sides : Parallel joins s s')
    (goesOn : GoesOn least inside s level) : GoesOn least (inside.or outer) s' level := by
  have more := ne_end_of_goesOn goesOn
  have same := sides.kind_eq seam more
  obtain ⟨goes, bound, tight⟩ := goesOn
  exact ⟨endsBefore_inside same more goes, same ▸ bound, tight⟩

theorem constant_same {a b : Token} (same : a.SameWord b) : constant? b = constant? a := by
  simp only [constant?, same.kind, same.lexeme, same.number]

theorem parameterNode_alike (param : Parameter) (place place' : Span) :
    Expr.Alike (parameterNode param place) (parameterNode param place') := rfl

theorem memberDefault_alike {param : Parameter} (word : s.peek.SameWord s'.peek) :
    (Expr.memberDefault? scope.world (parameterNode param s'.peek.span) s'.peek).map unplaced =
      (Expr.memberDefault? scope.world (parameterNode param s.peek.span) s.peek).map unplaced :=
  (Expr.memberDefault_alike word.lexeme (parameterNode_alike param _ _)).symm

theorem beginsType_parallel (seam : Seam joins) (sides : Parallel joins s s')
    (begins : BeginsType scope s) : BeginsType scope s' := by
  obtain ⟨name, undeclared, noMember⟩ := begins
  obtain ⟨name', word, next⟩ := sides.name seam name
  refine ⟨name', word.lexeme ▸ undeclared, fun param receiver => ?_⟩
  obtain ⟨noCall, none⟩ := noMember param receiver
  rw [Stream.kindAt_one] at noCall ⊢
  refine ⟨next.isNot seam noCall (by simp [seamKinds]), ?_⟩
  exact Option.map_eq_none_iff.mp
    ((memberDefault_alike word).trans (congrArg (Option.map unplaced) none))

theorem castTarget_eq_some :
    castTarget? scope s = some (ty, t) ↔
      ∃ m, type? scope s = some (ty, m) ∧ m.kind = .rightParen ∧ m.next = t := by
  simp only [castTarget?, Option.bind_eq_some_iff, Option.map_eq_some_iff, Stream.eat_eq]
  constructor
  · rintro ⟨⟨ty, m⟩, named, last, ⟨closes, rfl⟩, same⟩
    cases same
    exact ⟨m, named, closes, rfl⟩
  · rintro ⟨m, named, closes, rfl⟩
    exact ⟨(ty, m), named, m.next, ⟨closes, rfl⟩, rfl⟩

theorem castTarget_parallel (seam : Seam joins) (sides : Parallel joins s s')
    (target : castTarget? scope s = some (ty, t)) :
    ∃ t', castTarget? scope s' = some (ty, t') ∧ Parallel joins t t' := by
  obtain ⟨m, named, closes, rfl⟩ := castTarget_eq_some.mp target
  obtain ⟨m', named', middle⟩ := sides.type seam named
  obtain ⟨closes', next⟩ := middle.is seam closes (by simp)
  exact ⟨m'.next, castTarget_eq_some.mpr ⟨m', named', closes', rfl⟩, next⟩

/-- What is no cast stays none, unless its type goes up to the end. -/
theorem noCast_parallel (seam : Seam joins) (sides : Parallel joins s s')
    (noType : castTarget? scope s = none)
    (within : ∀ ty m, type? scope s = some (ty, m) → m.kind ≠ .endOfInput) :
    castTarget? scope s' = none := by
  by_contra some
  obtain ⟨⟨ty, t'⟩, target⟩ := Option.ne_none_iff_exists'.mp some
  obtain ⟨m', named', closes', -⟩ := castTarget_eq_some.mp target
  obtain ⟨n, along⟩ := sides
  obtain ⟨m, k, named, middle⟩ := (type_paired seam along).backward named'
  have closes : m.kind = .rightParen := (middle.kind_eq seam (within ty m named)).trans closes'
  cases noType.symm.trans (castTarget_eq_some.mpr ⟨m, named, closes, rfl⟩)

end Tokens

/-- A seam up to which expressions are read alike. Where the near side ends, an expression ends on the
far side, inside the bracket that is open there; and the first branch of a conditional that begins at
the seam has a like one on the far side, behind which the words agree again. -/
structure Bridge (scope : Scope) (joins : List Token → List Token → Prop) (outer : Option Bracket) :
    Prop extends Seam joins where
  ends {s s' : Stream} : AtSeam joins s s' → s.kind = .endOfInput →
    ∀ least, Stops least outer s'
  branch {s s' m : Stream} {inside : Option Bracket} {yes : Expr} :
    AtSeam joins s s' → s.kind = .question →
    Reads scope (.expression 0 inside) s.next yes m → m.kind = .colon →
    ∃ yes' m', Reads scope (.expression 0 (inside.or outer)) s'.next yes' m' ∧ Alike yes yes' ∧
      m'.kind = .colon ∧ Parallel joins m.next m'.next

/-- A part of the far side is read with a result that is like a given one, and the streams are left
side by side. -/
def Comes (joins : List Token → List Token → Prop) (scope : Scope) (part : Part)
    (like : part.Result → Prop) (s' t : Stream) : Prop :=
  ∃ result t', Reads scope part s' result t' ∧ like result ∧ Parallel joins t t'

/-- What a derivation for the near side says about the far side. -/
def Part.Followed (joins : List Token → List Token → Prop) (outer : Option Bracket)
    (scope : Scope) : (part : Part) → Stream → part.Result → Stream → Prop
  | .expression least inside, s, e, t => ∀ s', Parallel joins s s' →
      Comes joins scope (.expression least (inside.or outer)) (Alike e) s' t
  | .operand inside, s, e, t => ∀ s', Parallel joins s s' →
      Comes joins scope (.operand (inside.or outer)) (Alike e) s' t
  | .operators least inside left, s, e, t => ∀ s' left', Parallel joins s s' → Alike left left' →
      Comes joins scope (.operators least (inside.or outer) left') (Alike e) s' t
  | .operator level inside left, s, e, t => ∀ s' left', Parallel joins s s' → Alike left left' →
      Comes joins scope (.operator level (inside.or outer) left') (Alike e) s' t
  | .arguments bracket, s, args, t => ∀ s', Parallel joins s s' →
      Comes joins scope (.arguments bracket) (AllAlike args) s' t
  | .items bracket, s, args, t => ∀ s', Parallel joins s s' →
      Comes joins scope (.items bracket) (AllAlike args) s' t
  | .givens, s, args, t => ∀ s', Parallel joins s s' →
      Comes joins scope .givens (AllAlike args) s' t
  | .assignments ty, s, steps, t => ∀ s', Parallel joins s s' →
      Comes joins scope (.assignments ty) (fun steps' => steps.map (·.1) = steps'.map (·.1) ∧
        AllAlike (steps.map (·.2)) (steps'.map (·.2))) s' t
  | .initializer ty, s, reply, t => ∀ s', Parallel joins s s' →
      Comes joins scope (.initializer ty)
        (fun reply' => reply.1 = reply'.1 ∧ AllAlike reply.2 reply'.2) s' t

section Steps

variable {ty : Ty} {ref : MemberRef} {value converted yes : Expr} {least : Nat}

theorem Bridge.stops (bridge : Bridge scope joins outer) (sides : Parallel joins s s')
    (stops : Stops least inside s) : Stops least (inside.or outer) s' := by
  by_cases isEnd : s.kind = .endOfInput
  · obtain here | ⟨more, -⟩ := sides.step bridge.toSeam
    · cases inside with
      | none => exact bridge.ends here isEnd least
      | some bracket =>
        rw [Stream.kind] at isEnd
        simp [Stops, endsBefore, isEnd] at stops
    · exact absurd isEnd more
  · have same : s.kind = s'.kind := sides.kind_eq bridge.toSeam isEnd
    obtain ends | ⟨goes, loose⟩ := stops
    · exact .inl (endsBefore_inside same isEnd ends)
    · exact .inr ⟨endsBefore_inside same isEnd goes, fun level bound => loose level (same ▸ bound)⟩

/-- The first branch of a conditional, whether the seam lies in front of it or not. -/
theorem Bridge.branch_followed (bridge : Bridge scope joins outer) (sides : Parallel joins s s')
    (asks : s.kind = .question) (read : Reads scope (.expression 0 inside) s.next yes m)
    (colon : m.kind = .colon)
    (followed : Part.Followed joins outer scope (.expression 0 inside) s.next yes m) :
    s'.kind = .question ∧ ∃ yes' m', Reads scope (.expression 0 (inside.or outer)) s'.next yes' m' ∧
      Alike yes yes' ∧ m'.kind = .colon ∧ Parallel joins m.next m'.next := by
  have asks' := (sides.kind_eq bridge.toSeam (by simp [asks])).symm.trans asks
  refine ⟨asks', ?_⟩
  obtain here | ⟨-, -, next⟩ := sides.step bridge.toSeam
  · exact bridge.branch here asks read colon
  · obtain ⟨yes', m', read', alike, middle⟩ := followed _ next
    obtain ⟨colon', after⟩ := middle.is bridge.toSeam colon (by simp)
    exact ⟨yes', m', read', alike, colon', after⟩

variable (seam : Seam joins)

include seam

private theorem created_alike (sides : Parallel joins s s') (new : s.kind = .new)
    (named : type? scope s.next = some (ty, m)) :
    s'.kind = .new ∧ ∃ m', type? scope s'.next = some (ty, m') ∧ Parallel joins m m' := by
  obtain ⟨new', next⟩ := sides.is seam new (by simp)
  exact ⟨new', next.type seam named⟩

private theorem enclosed_alike (sides : Parallel joins s s') (opens : s.kind = .leftParen)
    (named : type? scope s.next = some (ty, m)) (closes : m.kind = .rightParen) :
    s'.kind = .leftParen ∧ ∃ m', type? scope s'.next = some (ty, m') ∧ m'.kind = .rightParen ∧
      Parallel joins m.next m'.next := by
  obtain ⟨opens', next⟩ := sides.is seam opens (by simp)
  obtain ⟨m', named', middle⟩ := next.type seam named
  exact ⟨opens', m', named', middle.is seam closes (by simp)⟩

private theorem dotted_alike (sides : Parallel joins s s') (dot : s.kind = .dot)
    (name : s.next.kind = .identifier) :
    s'.kind = .dot ∧ s'.next.kind = .identifier ∧ s.next.peek.SameWord s'.next.peek ∧
      Parallel joins s.next.next s'.next.next := by
  obtain ⟨dot', next⟩ := sides.is seam dot (by simp)
  exact ⟨dot', next.name seam name⟩

/-- A member that is assigned, and the value it is given. -/
private theorem assignment_followed (sides : Parallel joins s s') (name : s.kind = .identifier)
    (equal : s.next.kind = .equal) (member : Expr.assignable scope.world ty s.peek = .ok ref)
    (read : Part.Followed joins outer scope (.expression 0 (some .brace)) s.next.next value m)
    (built : Expr.convertImplicit scope.world value ref.ty = .ok converted) :
    s'.kind = .identifier ∧ s'.next.kind = .equal ∧
      Expr.assignable scope.world ty s'.peek = .ok ref ∧ ∃ value' converted' m',
        Reads scope (.expression 0 (some .brace)) s'.next.next value' m' ∧
        Expr.convertImplicit scope.world value' ref.ty = .ok converted' ∧
        Alike converted converted' ∧ Parallel joins m m' := by
  obtain ⟨name', word, next⟩ := sides.name seam name
  obtain ⟨equal', after⟩ := next.is seam equal (by simp)
  obtain ⟨value', m', read', alike, middle⟩ := read _ after
  obtain ⟨converted', built', alike⟩ := Expr.built_alike (Expr.convertImplicit_alike alike) built
  exact ⟨name', equal', Expr.assignable_alike word.lexeme member, value', converted', m', read',
    built', alike, middle⟩

end Steps

theorem closer_inner {bracket : Bracket} :
    bracket.closer ≠ .endOfInput ∧ bracket.closer ≠ .question := by
  cases bracket <;> simp [Bracket.closer]

theorem opener_inner {bracket : Bracket} :
    bracket.opener ≠ .endOfInput ∧ bracket.opener ≠ .question := by
  cases bracket <;> simp [Bracket.opener]

/-- What lies in front of the seam is read alike on both sides, part by part. -/
theorem Reads.followed {part : Part} {result : part.Result} (reads : Reads scope part s result t)
    (bridge : Bridge scope joins outer) : part.Followed joins outer scope s result t := by
  have seam := bridge.toSeam
  induction reads with
  | expression _ _ first more =>
    intro s' sides
    obtain ⟨left', m', read', alike, middle⟩ := first s' sides
    obtain ⟨e', t', rest', alike, last⟩ := more m' left' middle alike
    exact ⟨e', t', .expression read' rest', alike, last⟩
  | literal constant =>
    intro s' sides
    obtain ⟨word, next⟩ := sides.plain seam (plain_of_constant constant)
    have constant' := (constant_same word).trans constant
    exact ⟨_, s'.next, .literal constant', rfl, next⟩
  | cast opens target _ built read =>
    intro s' sides
    obtain ⟨opens', next⟩ := sides.is seam opens (by simp)
    obtain ⟨m', target', middle⟩ := castTarget_parallel seam next target
    obtain ⟨operand', t', read', alike, last⟩ := read m' middle
    obtain ⟨e', built', alike⟩ := Expr.built_alike (Expr.castWritten_alike alike) built
    exact ⟨e', t', .cast opens' target' read' built', alike, last⟩
  | group opens noType inner closes read =>
    intro s' sides
    obtain ⟨opens', next⟩ := sides.is seam opens (by simp)
    obtain ⟨e', m', read', alike, middle⟩ := read _ next
    obtain ⟨closes', last⟩ := middle.is seam closes (by simp)
    -- A type that went up to the end would have passed the parenthesis that closes the group.
    have noType' := noCast_parallel seam next noType fun ty n named isEnd =>
      inner.walked.apart .paren closes (type_walks _ _ _ none named) isEnd (next.closed seam)
    exact ⟨e', m'.next, .group opens' noType' read' closes', alike, last⟩
  | sign signed _ built read =>
    intro s' sides
    obtain ⟨word, next⟩ := sides.plain seam (plain_of_sign signed)
    have same : _ = s'.kind := word.kind
    obtain ⟨operand', t', read', alike, last⟩ := read _ next
    obtain ⟨e', built', alike⟩ := Expr.built_alike (Expr.applySign_alike word.kind alike) built
    exact ⟨e', t', .sign (same ▸ signed) read' built', alike, last⟩
  | arrayItems new named opens _ built read =>
    intro s' sides
    obtain ⟨new', m', named', middle⟩ := created_alike seam sides new named
    obtain ⟨opens', -⟩ := middle.is seam opens (by simp)
    obtain ⟨given', t', read', alike, last⟩ := read _ middle
    obtain ⟨items', built', alike⟩ := Expr.convertAll_alike alike built
    refine ⟨_, t', .arrayItems new' named' opens' read' built', ?_, last⟩
    simp only [Alike, unplaced, Info.unplaced]
    rw [alike]
  | arrayLength new named notArray opens _ integral read =>
    intro s' sides
    obtain ⟨new', m', named', middle⟩ := created_alike seam sides new named
    obtain ⟨opens', -⟩ := middle.is seam opens (by simp)
    obtain ⟨given', t', read', alike, last⟩ := read _ middle
    obtain ⟨length', rest, rfl, same, none⟩ := alike.of_cons
    obtain rfl := none.of_nil
    refine ⟨_, t', .arrayLength new' named' notArray opens' read' (same.ty_eq ▸ integral), ?_, last⟩
    simp only [Alike, unplaced, Info.unplaced]
    rw [same]
  | create new named notArray _ resolved _ given filled =>
    intro s' sides
    obtain ⟨new', m', named', middle⟩ := created_alike seam sides new named
    obtain ⟨args', n', given', alikeArgs, after⟩ := given _ middle
    obtain ⟨⟨init', values'⟩, t', filled', ⟨same, alikeValues⟩, last⟩ := filled _ after
    have resolved' := alikeArgs.types ▸ resolved
    refine ⟨_, t', .create new' named' notArray given' resolved' filled', ?_, last⟩
    simp only at same
    simp only [Alike, unplaced, Info.unplaced]
    rw [alikeArgs, alikeValues, same]
  | typeOf keyword opens named closes =>
    intro s' sides
    obtain ⟨keyword', next⟩ := sides.is seam keyword (by simp)
    obtain ⟨opens', m', named', closes', last⟩ := enclosed_alike seam next opens named closes
    exact ⟨_, m'.next, .typeOf keyword' opens' named' closes', rfl, last⟩
  | sizeOf keyword opens named closes built =>
    intro s' sides
    obtain ⟨keyword', next⟩ := sides.is seam keyword (by simp)
    obtain ⟨opens', m', named', closes', last⟩ := enclosed_alike seam next opens named closes
    obtain ⟨e', built', alike⟩ := Expr.built_alike Expr.measure_alike built
    exact ⟨e', m'.next, .sizeOf keyword' opens' named' closes' built', alike, last⟩
  | parameter name declared =>
    intro s' sides
    obtain ⟨name', word, next⟩ := sides.name seam name
    exact ⟨_, s'.next, .parameter name' (word.lexeme ▸ declared), rfl, next⟩
  | defaultCall name undeclared receiver opens _ built read =>
    intro s' sides
    obtain ⟨name', word, next⟩ := sides.name seam name
    rw [Stream.kindAt_one] at opens
    obtain ⟨opens', -⟩ := next.is seam opens (by simp)
    obtain ⟨args', t', read', alike, last⟩ := read _ next
    obtain ⟨e', built', alike⟩ := Expr.built_alike
      (Expr.callDefault_alike word.lexeme (parameterNode_alike _ _ s'.peek.span) alike) built
    exact ⟨e', t', .defaultCall name' (word.lexeme ▸ undeclared) receiver
      (Stream.kindAt_one.trans opens') read' built', alike, last⟩
  | defaultMember name undeclared receiver noCall built =>
    intro s' sides
    obtain ⟨name', word, next⟩ := sides.name seam name
    rw [Stream.kindAt_one] at noCall
    have noCall' := Stream.kindAt_one.symm ▸ next.isNot seam noCall (by simp [seamKinds])
    have same := (memberDefault_alike word).trans (congrArg (Option.map unplaced) built)
    obtain ⟨e', built', alike⟩ := Option.map_eq_some_iff.mp same
    exact ⟨e', s'.next, .defaultMember name' (word.lexeme ▸ undeclared) receiver noCall' built',
      alike.symm, next⟩
  | staticCall begins named dot name opens _ built read =>
    intro s' sides
    obtain ⟨m', named', middle⟩ := sides.typePath seam named
    obtain ⟨dot', name', word, after⟩ := dotted_alike seam middle dot name
    obtain ⟨opens', -⟩ := after.is seam opens (by simp)
    obtain ⟨args', t', read', alike, last⟩ := read _ after
    obtain ⟨e', built', alike⟩ := Expr.built_alike (Expr.callStatic_alike word.lexeme alike) built
    exact ⟨e', t', .staticCall (beginsType_parallel seam sides begins) named' dot' name' opens'
      read' built', alike, last⟩
  | staticMember begins named dot name noCall built =>
    intro s' sides
    obtain ⟨m', named', middle⟩ := sides.typePath seam named
    obtain ⟨dot', name', word, after⟩ := dotted_alike seam middle dot name
    obtain ⟨e', built', alike⟩ := Expr.built_alike (Expr.memberStatic_alike word.lexeme) built
    exact ⟨e', _, .staticMember (beginsType_parallel seam sides begins) named' dot' name'
      (after.isNot seam noCall (by simp [seamKinds])) built', alike, after⟩
  | done stops =>
    intro s' left' sides alike
    exact ⟨left', s', .done (bridge.stops sides stops), alike, sides⟩
  | more goesOn _ _ first rest =>
    intro s' left' sides alike
    obtain ⟨folded', m', first', alike, middle⟩ := first s' left' sides alike
    obtain ⟨e', t', rest', alike, last⟩ := rest m' folded' middle alike
    exact ⟨e', t', .more (goesOn_parallel seam sides goesOn) first' rest', alike, last⟩
  | memberCall dot name opens _ built read =>
    intro s' left' sides on
    obtain ⟨dot', name', word, after⟩ := dotted_alike seam sides dot name
    obtain ⟨opens', -⟩ := after.is seam opens (by simp)
    obtain ⟨args', t', read', alike, last⟩ := read _ after
    obtain ⟨e', built', alike⟩ := Expr.built_alike (Expr.callOn_alike word.lexeme on alike) built
    exact ⟨e', t', .memberCall dot' name' opens' read' built', alike, last⟩
  | member dot name noCall built =>
    intro s' left' sides on
    obtain ⟨dot', name', word, after⟩ := dotted_alike seam sides dot name
    obtain ⟨e', built', alike⟩ := Expr.built_alike (Expr.memberOf_alike word.lexeme on) built
    have noCall' := after.isNot seam noCall (by simp [seamKinds])
    exact ⟨e', _, .member dot' name' noCall' built', alike, after⟩
  | index opens _ built read =>
    intro s' left' sides on
    obtain ⟨opens', -⟩ := sides.is seam opens (by simp)
    obtain ⟨args', t', read', alike, last⟩ := read _ sides
    obtain ⟨e', built', alike⟩ := Expr.indexInto_alike on alike built
    exact ⟨e', t', .index opens' read' built', alike, last⟩
  | conditional asks truth firstRead colon _ built first second =>
    intro s' left' sides on
    obtain ⟨asks', yes', m', first', alikeYes, colon', after⟩ :=
      bridge.branch_followed sides asks firstRead colon first
    obtain ⟨no', t', second', alikeNo, last⟩ := second _ after
    obtain ⟨e', built', alike⟩ := Expr.built_alike (Expr.choose_alike on alikeYes alikeNo) built
    exact ⟨e', t', .conditional asks' (on.ty_eq ▸ truth) first' colon' second' built', alike, last⟩
  | coalesce asks _ built read =>
    intro s' left' sides on
    obtain ⟨asks', next⟩ := sides.is seam asks (by simp)
    obtain ⟨right', t', read', alike, last⟩ := read _ next
    obtain ⟨e', built', alike⟩ := Expr.built_alike (Expr.coalesceWith_alike on alike) built
    exact ⟨e', t', .coalesce asks' read' built', alike, last⟩
  | typeTest asks named built =>
    intro s' left' sides on
    obtain ⟨word, next⟩ := sides.plain seam (plain_of_test asks)
    have same : _ = s'.kind := word.kind
    obtain ⟨t', named', last⟩ := next.type seam named
    obtain ⟨e', built', alike⟩ := Expr.built_alike (Expr.testType_alike on) built
    exact ⟨e', t', .typeTest (same ▸ asks) named' built', alike, last⟩
  | binary sign _ built read =>
    intro s' left' sides on
    obtain ⟨word, next⟩ := sides.plain seam (plain_of_operator sign)
    have same : _ = s'.kind := word.kind
    obtain ⟨right', t', read', alike, last⟩ := read _ next
    obtain ⟨e', built', alike⟩ := Expr.built_alike (Expr.applyOperator_alike on alike) built
    exact ⟨e', t', .binary (same ▸ sign) read' built', alike, last⟩
  | noArguments opens closes =>
    intro s' sides
    obtain ⟨opens', next⟩ := sides.is seam opens opener_inner
    obtain ⟨closes', last⟩ := next.is seam closes closer_inner
    exact ⟨[], _, .noArguments opens' closes', rfl, last⟩
  | arguments opens some inner read =>
    intro s' sides
    obtain ⟨opens', next⟩ := sides.is seam opens opener_inner
    obtain ⟨m, walk, closes, -⟩ := inner.walked
    -- The items that are read there keep the end from being next.
    have more := fun isEnd =>
      walk.apart _ closes (.here : Walk none _ _) isEnd (next.closed seam)
    obtain ⟨items', t', read', alike, last⟩ := read _ next
    exact ⟨items', t', .arguments opens' (next.kind_eq seam more ▸ some) read', alike, last⟩
  | lastItem _ closes read =>
    intro s' sides
    obtain ⟨item', m', read', alike, middle⟩ := read _ sides
    obtain ⟨closes', last⟩ := middle.is seam closes closer_inner
    exact ⟨[item'], _, .lastItem read' closes', .cons alike rfl, last⟩
  | nextItem _ comma _ read others =>
    intro s' sides
    obtain ⟨item', m', read', alike, middle⟩ := read _ sides
    obtain ⟨comma', after⟩ := middle.is seam comma (by simp)
    obtain ⟨items', t', others', alikeOthers, last⟩ := others _ after
    exact ⟨item' :: items', t', .nextItem read' comma' others', .cons alike alikeOthers, last⟩
  | noGivens opens =>
    intro s' sides
    obtain ⟨opens', -⟩ := sides.is seam opens (by simp)
    exact ⟨[], s', .noGivens opens', rfl, sides⟩
  | givens opens _ read =>
    intro s' sides
    obtain ⟨opens', -⟩ := sides.is seam opens (by simp)
    obtain ⟨args', t', read', alike, last⟩ := read _ sides
    exact ⟨args', t', .givens opens' read', alike, last⟩
  | noInitializer none =>
    intro s' sides
    exact ⟨_, s', .noInitializer (sides.isNot seam none (by simp [seamKinds])), ⟨rfl, rfl⟩, sides⟩
  | members opens name equal _ read =>
    intro s' sides
    obtain ⟨opens', next⟩ := sides.is seam opens (by simp)
    rw [Stream.kindAt_one] at name
    rw [Stream.kindAt_two] at equal
    obtain ⟨name', after⟩ := next.is seam name (by simp)
    obtain ⟨equal', -⟩ := after.is seam equal (by simp)
    obtain ⟨steps', t', read', ⟨same, alike⟩, last⟩ := read _ next
    refine ⟨_, t', .members opens' (Stream.kindAt_one.trans name') (Stream.kindAt_two.trans equal')
      read', ⟨congrArg Initializer.members same, alike⟩, last⟩
  | adds opens noMember _ built read =>
    intro s' sides
    obtain ⟨opens', next⟩ := sides.is seam opens (by simp)
    have pair : s'.next.kind = .identifier ∧ s'.next.kindAt 1 = .equal ↔ _ :=
      next.pair_iff seam (by simp [seamKinds]) (by simp [seamKinds])
    simp only [Stream.kindAt_one] at pair
    simp only [Stream.kindAt_one, Stream.kindAt_two] at noMember
    obtain ⟨items', t', read', alike, last⟩ := read _ sides
    refine ⟨_, t', .adds opens' ?_ read' (Expr.addsFor_alike alike built), ⟨rfl, alike⟩, last⟩
    simp only [Stream.kindAt_one, Stream.kindAt_two]
    exact fun both => noMember (pair.mp both)
  | lastAssignment name equal member _ built closes read =>
    intro s' sides
    obtain ⟨name', equal', member', value', converted', m', read', built', alike, middle⟩ :=
      assignment_followed seam sides name equal member read built
    obtain ⟨closes', last⟩ := middle.is seam closes (by simp)
    exact ⟨[(_, converted')], _, .lastAssignment name' equal' member' read' built' closes',
      ⟨rfl, .cons alike rfl⟩, last⟩
  | trailingComma name equal member _ built comma closes read =>
    intro s' sides
    obtain ⟨name', equal', member', value', converted', m', read', built', alike, middle⟩ :=
      assignment_followed seam sides name equal member read built
    obtain ⟨comma', after⟩ := middle.is seam comma (by simp)
    obtain ⟨closes', last⟩ := after.is seam closes (by simp)
    exact ⟨[(_, converted')], _, .trailingComma name' equal' member' read' built' comma' closes',
      ⟨rfl, .cons alike rfl⟩, last⟩
  | nextAssignment name equal member _ built comma some _ read rest =>
    intro s' sides
    obtain ⟨name', equal', member', value', converted', m', read', built', alike, middle⟩ :=
      assignment_followed seam sides name equal member read built
    obtain ⟨comma', after⟩ := middle.is seam comma (by simp)
    obtain ⟨others', t', rest', ⟨same, alikeOthers⟩, last⟩ := rest _ after
    exact ⟨(_, converted') :: others', t', .nextAssignment name' equal' member' read' built' comma'
      (after.isNot seam some (by simp [seamKinds])) rest',
      ⟨congrArg (List.cons _) same, .cons alike alikeOthers⟩, last⟩

section UpTo

variable {behind : List Token} {least : Nat} {e : Expr}

/-- Expressions are read alike up to their end and in front of what ends them on the far side. -/
theorem bridge_upTo (seam : Seam (UpTo behind))
    (ends : endsBefore (Stream.ofTokens behind).peek outer = .ok true) :
    Bridge scope (UpTo behind) outer where
  toSeam := seam
  ends := by
    intro s s' here _ least
    obtain ⟨joined, -, whole⟩ := here
    obtain ⟨_, -, -, left⟩ := joined.parts
    have same : s'.peek = (Stream.ofTokens behind).peek := by
      simp [Stream.peek, Stream.ofTokens, whole, left]
    exact .inl (same ▸ ends)
  branch := by
    intro s s' m inside yes here asks
    obtain ⟨joined, whole, -⟩ := here
    obtain ⟨ending, left, isEnd, -⟩ := joined.parts
    have isEnd : s.kind = .endOfInput := (Stream.Before.kind ⟨left, whole⟩).trans isEnd
    simp [isEnd] at asks

/-- What is read up to its end is read alike in front of other tokens. -/
theorem Reads.upTo (read : Reads scope (.expression least inside) s e t)
    (isEnd : t.kind = .endOfInput) (bridge : Bridge scope (UpTo behind) outer)
    (sides : Parallel (UpTo behind) s s') :
    ∃ e' t', Reads scope (.expression least (inside.or outer)) s' e' t' ∧ Alike e e' ∧
      t'.Before behind := by
  obtain ⟨e', t', read', alike, last⟩ := read.followed bridge s' sides
  obtain ⟨joined, -, whole⟩ | ⟨more, -⟩ := last.step bridge.toSeam
  · obtain ⟨_, -, -, left⟩ := joined.parts
    exact ⟨e', t', read', alike, left, whole⟩
  · exact absurd isEnd more

end UpTo

end Reader
end Formula
