import Formula.Proofs.Composition
import Formula.Proofs.Regions

/-! How the nodes of a tree nest. Whatever is read from a stream stands between where the reading
begins and what it consumed last, one tree behind another, so a node that is made of trees in a row
holds them in that order and without overlap. The spans of nodes are joined from those of tokens and
of operands that lead to each other; nothing else is needed of them. -/
namespace Formula

namespace Expr

/-- A node that lies in a source, with its children in it, one behind another. -/
structure Laid (source : String) (e : Expr) : Prop where
  lies : e.span.Lies source
  within : ∀ c ∈ e.children, e.span.offset ≤ c.span.offset ∧ c.span.stop ≤ e.span.stop
  order : e.children.Pairwise fun a b => a.span.stop ≤ b.span.offset

/-- All nodes of a tree lie in a source and nest. -/
abbrev AllLaid (source : String) : Expr → Prop := Everywhere (Laid source)

/-- Trees between two places of a source, one behind another. -/
structure Row (source : String) (start stop : Nat) (es : List Expr) : Prop where
  laid : ∀ e ∈ es, AllLaid source e
  within : ∀ e ∈ es, start ≤ e.span.offset ∧ e.span.stop ≤ stop
  order : es.Pairwise fun a b => a.span.stop ≤ b.span.offset

section Rows

variable {source : String} {start stop from' upTo : Nat} {e c : Expr} {es fs : List Expr}
  {a b : Span} {blamed : List Span} {result : Except CompileError Expr}

theorem Row.nil : Row source start stop [] :=
  ⟨List.forall_mem_nil _, List.forall_mem_nil _, .nil⟩

theorem Row.widen (row : Row source start stop es) (before : from' ≤ start) (behind : stop ≤ upTo) :
    Row source from' upTo es :=
  ⟨row.laid, fun e member =>
    ⟨before.trans (row.within e member).1, (row.within e member).2.trans behind⟩, row.order⟩

theorem Row.append (first : Row source start stop es) (second : Row source from' upTo fs)
    (inOrder : stop ≤ from') (begins : start ≤ from') (ends : stop ≤ upTo) :
    Row source start upTo (es ++ fs) := by
  refine ⟨List.forall_mem_append.mpr ⟨first.laid, second.laid⟩,
    List.forall_mem_append.mpr ⟨(first.widen (Nat.le_refl _) ends).within,
      (second.widen begins (Nat.le_refl _)).within⟩,
    List.pairwise_append.mpr ⟨first.order, second.order, fun a inFirst b inSecond => ?_⟩⟩
  exact ((first.within a inFirst).2.trans inOrder).trans (second.within b inSecond).1

theorem Row.head (row : Row source start stop (e :: es)) : AllLaid source e :=
  row.laid e List.mem_cons_self

/-- A tree alone stands where it stands. -/
theorem Row.tight (row : Row source start stop [e]) :
    Row source e.span.offset e.span.stop [e] :=
  ⟨row.laid, List.forall_mem_singleton.mpr ⟨Nat.le_refl _, Nat.le_refl _⟩, row.order⟩

/-- A node over a row stands in a row alone. -/
theorem Row.node (row : Row source e.span.offset e.span.stop e.children)
    (lies : e.span.Lies source) : Row source e.span.offset e.span.stop [e] :=
  ⟨List.forall_mem_singleton.mpr (.node ⟨lies, row.within, row.order⟩ row.laid),
    List.forall_mem_singleton.mpr ⟨Nat.le_refl _, Nat.le_refl _⟩, List.pairwise_singleton ..⟩

/-- Operands that enter a node stay in their row. -/
theorem Row.entered (row : Row source start stop es) (entered : List.Forall₂ Enters es fs) :
    Row source start stop fs := by
  have spans := entered_spans entered
  refine ⟨entered_everywhere entered (fun e ty laid => ?_) row.laid, ?within, ?order⟩
  · exact ⟨laid.lies, List.forall_mem_singleton.mpr ⟨Nat.le_refl _, Nat.le_refl _⟩,
      List.pairwise_singleton ..⟩
  case within =>
    have within : ∀ span ∈ es.map (·.span), start ≤ span.offset ∧ span.stop ≤ stop :=
      List.forall_mem_map.mpr row.within
    rwa [← spans, List.forall_mem_map] at within
  case order =>
    have order : (es.map (·.span)).Pairwise fun a b => a.stop ≤ b.offset :=
      List.pairwise_map.mpr row.order
    rwa [← spans, List.pairwise_map] at order

/-- The last of a row ends it. -/
theorem Row.ends (row : Row source start stop (es ++ [e])) :
    Row source start e.span.stop (es ++ [e]) := by
  refine ⟨row.laid, fun other member => ⟨(row.within other member).1, ?_⟩, row.order⟩
  rcases List.mem_append.mp member with earlier | last
  · have order := (List.pairwise_append.mp row.order).2.2
    have before := order other earlier e (List.mem_singleton.mpr rfl)
    exact before.trans e.span.offset_le_stop
  · rw [List.mem_singleton.mp last]

/-- A node that operands in a row enter, from the beginning of the row to its end. -/
theorem Row.over (row : Row source a.offset b.stop es) (leads : a.Leads b) (first : a.Lies source)
    (last : b.Lies source) (spanned : e.span = a.join b)
    (entered : List.Forall₂ Enters es e.children) : Row source a.offset b.stop [e] := by
  have children := row.entered entered
  have lies := first.join last
  rw [← leads.join_offset, ← leads.join_stop, ← spanned] at children ⊢
  rw [← spanned] at lies
  exact children.node lies

/-- What is built of a row stands where its span says, or else it is all there is in the row. -/
theorem Row.built (row : Row source a.offset b.stop es) (leads : a.Leads b) (first : a.Lies source)
    (last : b.Lies source) (builds : Builds es (a.join b) blamed result) (built : result = .ok e) :
    Row source a.offset b.stop [e] := by
  subst built
  obtain made | rfl := builds
  · exact row.over leads first last made.spanned made.entered
  · exact row

end Rows
end Expr

namespace Reader

open Formula.Expr

/-- A reading came to trees in a row behind some place, and stops where the last of them does or
behind it. -/
structure Passed (source : String) (start : Nat) (t : Stream) (es : List Expr) : Prop where
  placed : t.Placed source
  lies : t.previous.Lies source
  row : Row source start t.previous.stop es

section Passing

variable {source : String} {start before : Nat} {s m t : Stream} {e left right : Expr}
  {es fs : List Expr} {span : Span} {blamed : List Span} {scope : Scope} {ty : Ty}
  {result : Except CompileError Expr}

theorem later_begins (later : Stream.Later source s.next m) :
    s.peek.span.offset ≤ m.peek.span.offset :=
  (later.leads.offset.trans m.previous.offset_le_stop).trans later.placed.behind

theorem later_behind (later : Stream.Later source s m) :
    s.previous.stop ≤ m.peek.span.offset :=
  later.leads.stop.trans later.placed.behind

theorem Passed.later (passed : Passed source start s es) (later : Stream.Later source s t) :
    Passed source start t es :=
  ⟨later.placed, later.lies passed.lies, passed.row.widen (Nat.le_refl _) later.leads.stop⟩

theorem Passed.widen (passed : Passed source start t es) (le : before ≤ start) :
    Passed source before t es :=
  ⟨passed.placed, passed.lies, passed.row.widen le (Nat.le_refl _)⟩

theorem Passed.bounds (passed : Passed source start t [e]) :
    start ≤ e.span.offset ∧ e.span.stop ≤ t.previous.stop :=
  passed.row.within e List.mem_cons_self

/-- Trees that were read lie in the source. -/
theorem Passed.trees_lie (passed : Passed source start t es) : ∀ e ∈ es, e.span.Lies source :=
  fun e member => (passed.row.laid e member).own.lies

theorem Passed.tree_lies (passed : Passed source start t [e]) : e.span.Lies source :=
  passed.row.head.own.lies

/-- Nothing was made of what was consumed. -/
theorem later_nothing (later : Stream.Later source s.next t) (placed : s.Placed source) :
    Passed source start t [] :=
  ⟨later.placed, later.lies placed.lies, .nil⟩

theorem Passed.entered (passed : Passed source start t es) (entered : List.Forall₂ Enters es fs) :
    Passed source start t fs :=
  ⟨passed.placed, passed.lies, passed.row.entered entered⟩

/-- A tree alone begins where it begins. -/
theorem Passed.tight (passed : Passed source start t [e]) :
    Passed source e.span.offset t [e] :=
  ⟨passed.placed, passed.lies, passed.row.tight.widen (Nat.le_refl _) passed.bounds.2⟩

/-- Trees behind others. -/
theorem Passed.append (first : Passed source start s es) (onward : Stream.Later source s m)
    (second : Passed source m.peek.span.offset t fs) (rest : Stream.Later source m t)
    (begins : start ≤ m.peek.span.offset) : Passed source start t (es ++ fs) :=
  ⟨second.placed, second.lies, first.row.append second.row (later_behind onward) begins
    (onward.trans rest).leads.stop⟩

theorem Passed.cons (first : Passed source start s [e]) (onward : Stream.Later source s m)
    (others : Passed source m.peek.span.offset t es) (rest : Stream.Later source m t) :
    Passed source e.span.offset t (e :: es) :=
  first.tight.append onward others rest <|
    (e.span.offset_le_stop.trans first.bounds.2).trans (later_behind onward)

/-- A tree leads to whatever is consumed behind it. -/
theorem Passed.leads (passed : Passed source start s [e]) (onward : Stream.Later source s.next t) :
    e.span.Leads t.previous :=
  (Span.leads_of_le (passed.bounds.2.trans passed.placed.behind)).trans onward.leads

/-- A node that begins at a span somewhere before the trees it is made of, and goes on to the end of
what was consumed. -/
theorem Passed.over (passed : Passed source span.offset t es) (lies : span.Lies source)
    (leads : span.Leads t.previous) (spanned : e.span = t.spanFrom span)
    (entered : List.Forall₂ Enters es e.children) : Passed source span.offset t [e] :=
  ⟨passed.placed, passed.lies, passed.row.over leads lies passed.lies spanned entered⟩

theorem Passed.built (passed : Passed source span.offset t es) (lies : span.Lies source)
    (leads : span.Leads t.previous) (builds : Builds es (t.spanFrom span) blamed result)
    (built : result = .ok e) : Passed source span.offset t [e] :=
  ⟨passed.placed, passed.lies, passed.row.built leads lies passed.lies builds built⟩

/-- A node that begins with a sign and ends with its operand. -/
theorem Passed.signed (passed : Passed source start t [right]) (lies : span.Lies source)
    (before : span.stop ≤ start) (builds : Builds [right] (span.join right.span) blamed result)
    (built : result = .ok e) : Passed source span.offset t [e] := by
  have leads : span.Leads right.span := Span.leads_of_le (before.trans passed.bounds.1)
  have row := passed.row.tight.widen leads.offset (Nat.le_refl _)
  exact ⟨passed.placed, passed.lies,
    (row.built leads lies passed.tree_lies builds built).widen (Nat.le_refl _) passed.bounds.2⟩

/-- A node that begins with one operand and ends with another. -/
theorem Passed.joined (es : List Expr)
    (passed : Passed source left.span.offset t (left :: es ++ [right]))
    (builds : Builds (left :: es ++ [right]) (left.span.join right.span) blamed result)
    (built : result = .ok e) : Passed source left.span.offset t [e] := by
  have last : right ∈ left :: es ++ [right] := List.mem_append_right _ (List.mem_singleton.mpr rfl)
  have leads : left.span.Leads right.span := by
    have order := (List.pairwise_append.mp passed.row.order).2.2
    exact Span.leads_of_le (order left List.mem_cons_self right (List.mem_singleton.mpr rfl))
  have row := passed.row.ends.built leads passed.row.head.own.lies
    (passed.row.laid right last).own.lies builds built
  exact ⟨passed.placed, passed.lies, row.widen (Nat.le_refl _) (passed.row.within right last).2⟩

/-- A node over the token that is next alone. -/
theorem leaf_passed (placed : s.Placed source) (more : s.kind ≠ .endOfInput)
    (spanned : e.span = s.peek.span) (childless : e.children = []) :
    Passed source s.peek.span.offset s.next [e] := by
  have nothing : Passed source s.peek.span.offset s.next [] := ⟨placed.next more, placed.lies, .nil⟩
  refine nothing.over placed.lies (.refl _) (spanned.trans (Span.join_self _).symm) ?_
  rw [childless]
  exact .nil

/-- A path that names a type begins with a name, and goes on from there. -/
theorem typePath_onward (read : typePath? scope s = some (ty, m)) (placed : s.Placed source) :
    Stream.Later source s.next m := by
  unfold typePath? path at read
  split at read
  case isTrue name =>
    have walk : Walk none s.next m := pathFrom_walks (typeWithin_walks _) _ _ _ _ _ _ read
    exact walk.later (placed.next (by simp [name]))
  case isFalse => cases read

theorem type_later (read : type? scope s = some (ty, t)) (placed : s.Placed source) :
    Stream.Later source s t :=
  (type_walks _ _ _ none read).later placed

theorem castTarget_later (target : castTarget? scope s = some (ty, t)) (placed : s.Placed source) :
    Stream.Later source s t := by
  obtain ⟨m, walk, closes, rfl⟩ := @castTarget_walk _ _ _ none _ target
  exact walk.later_next (by simp [closes]) placed

theorem typeInParens_later (opens : s.kind = .leftParen)
    (named : type? scope s.next = some (ty, m)) (closes : m.kind = .rightParen)
    (placed : s.Placed source) : Stream.Later source s m.next := by
  have first := placed.after (by simp [opens])
  have inner := type_later named first.placed
  exact (first.trans inner).trans (inner.placed.after (by simp [closes]))

theorem arguments_onward {bracket : Bracket} (read : Reads scope (.arguments bracket) s es t)
    (placed : s.Placed source) : Stream.Later source s.next t := by
  have first (opens : s.kind = bracket.opener) : Stream.Later source s s.next :=
    placed.after (ne_end_of_opener opens)
  cases read with
  | noArguments opens closes =>
    exact (first opens).placed.after (ne_end_of_closer closes)
  | arguments opens _ read => exact read.later (first opens).placed

end Passing

/-- The trees that are read of a part. -/
def Part.trees : (part : Part) → part.Result → List Expr
  | .expression _ _, e | .operand _, e | .operators _ _ _, e | .operator _ _ _, e => [e]
  | .arguments _, es | .items _, es | .givens, es => es
  | .assignments _, steps => steps.map (·.2)
  | .initializer _, (_, values) => values

/-- Where a part is read from: behind `start`, and behind the operand where it has one. What may come
to nothing stands behind something. -/
def Part.Starts (source : String) : Part → Stream → Nat → Prop
  | .operators _ _ left, s, start | .operator _ _ left, s, start => Passed source start s [left]
  | .givens, s, start | .initializer _, s, start =>
    s.previous.Lies source ∧ start ≤ s.peek.span.offset
  | .expression _ _, s, start | .operand _, s, start | .arguments _, s, start | .items _, s, start
  | .assignments _, s, start => start ≤ s.peek.span.offset

/-- Whatever is read of a part stands in a row, from where the part starts to what was consumed last.
Each rule appends the rows of its parts, and the node over them is joined from the first of them, or
from the token in front, to the last. -/
theorem Reads.passed {source : String} {scope : Scope} {part : Part} {s t : Stream} {start : Nat}
    {result : part.Result} (reads : Reads scope part s result t) (placed : s.Placed source)
    (starts : part.Starts source s start) : Passed source start t (part.trees result) := by
  induction reads generalizing start with
  | expression first more firstPassed morePassed =>
    have left := firstPassed placed starts
    exact morePassed left.placed left
  | literal constant =>
    exact (leaf_passed placed (ne_end_of_plain (plain_of_constant constant)) rfl rfl).widen starts
  | cast opens target read built operand =>
    have first := placed.after (by simp [opens])
    have onward := castTarget_later target first.placed
    have passed := operand onward.placed (Nat.le_refl _)
    exact (passed.signed placed.lies (later_behind onward)
      castWritten_builds built).widen starts
  | group opens _ read closes inner =>
    have first := placed.after (by simp [opens])
    have passed := inner first.placed (later_begins first.placed.here)
    exact (passed.later (passed.placed.after (by simp [closes]))).widen starts
  | sign signed _ built operand =>
    have first := placed.after (ne_end_of_sign signed)
    have passed := operand first.placed (Nat.le_refl _)
    exact (passed.signed placed.lies (later_behind first.placed.here)
      applySign_builds built).widen starts
  | arrayItems new named opens read built given =>
    have first := placed.after (by simp [new])
    have named := type_later named first.placed
    have passed := given named.placed (later_begins named)
    have leads := (named.trans (read.later named.placed)).leads
    exact (passed.over placed.lies leads rfl (convertAll_enters built)).widen starts
  | arrayLength new named _ opens read _ given =>
    have first := placed.after (by simp [new])
    have named := type_later named first.placed
    have passed := given named.placed (later_begins named)
    have leads := (named.trans (read.later named.placed)).leads
    exact (passed.over placed.lies leads rfl (enters_all _)).widen starts
  | create new named _ given resolved filled givenPassed filledPassed =>
    have first := placed.after (by simp [new])
    have named := type_later named first.placed
    have lies := named.lies placed.lies
    have args := givenPassed named.placed ⟨lies, later_begins named⟩
    have values := filledPassed args.placed ⟨args.lies, Nat.le_refl _⟩
    have given := given.later named.placed
    have filled := filled.later args.placed
    have passed := args.append args.placed.here values filled (later_begins (named.trans given))
    have leads := ((named.trans given).trans filled).leads
    exact (passed.over placed.lies leads rfl (enters_all _)).widen starts
  | typeOf keyword opens named closes =>
    have first := placed.after (by simp [keyword])
    have onward := typeInParens_later opens named closes first.placed
    exact ((later_nothing onward placed).over placed.lies onward.leads rfl .nil).widen starts
  | sizeOf keyword opens named closes built =>
    have first := placed.after (by simp [keyword])
    have onward := typeInParens_later opens named closes first.placed
    exact ((later_nothing onward placed).built placed.lies onward.leads
      measure_builds built).widen starts
  | @parameter param _ _ name declared =>
    exact (leaf_passed (e := parameterNode param _) placed (by simp [name]) rfl rfl).widen starts
  | @defaultCall param _ _ _ _ args name _ _ _ read built given =>
    have first := placed.after (by simp [name])
    have args := given first.placed (Nat.le_refl _)
    have rest := read.later first.placed
    have receiver := leaf_passed (e := parameterNode param _) placed (by simp [name]) rfl rfl
    -- The default instance is not written: its node stands at the name of the method.
    obtain ofInstance | static := callDefault_builds
    · have passed := receiver.cons first.placed.here args rest
      exact (passed.built placed.lies rest.leads ofInstance built).widen starts
    · have passed := args.widen (later_begins first.placed.here)
      exact (passed.built placed.lies rest.leads static built).widen starts
  | @defaultMember param _ _ _ name _ _ _ built =>
    have receiver := leaf_passed (e := parameterNode param _) placed (by simp [name]) rfl rfl
    obtain ofInstance | static := memberDefault_made built
    · have spanned := ofInstance.spanned.trans (Span.join_self _).symm
      exact (receiver.over placed.lies (.refl _) spanned ofInstance.entered).widen starts
    · have childless := List.forall₂_nil_left_iff.mp static.entered
      exact (leaf_passed placed (by simp [name]) static.spanned childless).widen starts
  | staticCall begins named dot name _ read built given =>
    have named := typePath_onward named placed
    have second := named.placed.after (by simp [dot])
    have third := second.placed.after (by simp [name])
    have onward := (named.trans second).trans third
    have args := given third.placed (later_begins onward)
    have rest := onward.trans (read.later third.placed)
    exact (args.built placed.lies rest.leads callStatic_builds built).widen starts
  | staticMember begins named dot name _ built =>
    have named := typePath_onward named placed
    have second := named.placed.after (by simp [dot])
    have onward := (named.trans second).trans (second.placed.after (by simp [name]))
    exact ((later_nothing onward placed).built placed.lies onward.leads
      memberStatic_builds built).widen starts
  | done _ => exact starts
  | more _ first rest firstPassed restPassed =>
    have folded := firstPassed placed starts
    exact restPassed folded.placed folded
  | memberCall dot name opens read built given =>
    have first := placed.after (by simp [dot])
    have second := first.placed.after (by simp [name])
    have args := given second.placed (Nat.le_refl _)
    have rest := read.later second.placed
    have passed := starts.cons (first.trans second) args rest
    exact (passed.built starts.tree_lies (starts.leads (second.trans rest))
      callOn_builds built).widen starts.bounds.1
  | member dot name _ built =>
    have first := placed.after (by simp [dot])
    have second := first.placed.after (by simp [name])
    have passed := starts.tight.later (first.trans second)
    exact (passed.built starts.tree_lies (starts.leads second)
      memberOf_builds built).widen starts.bounds.1
  | index opens read built given =>
    have args := given placed (Nat.le_refl _)
    have passed := starts.cons placed.here args (read.later placed)
    exact (passed.built starts.tree_lies (starts.leads (arguments_onward read placed))
      indexInto_builds built).widen starts.bounds.1
  | conditional asks _ first colon second built yes no =>
    have next := placed.after (by simp [asks])
    have yes := yes next.placed (Nat.le_refl _)
    have passedColon := yes.placed.after (by simp [colon])
    have no := no passedColon.placed (Nat.le_refl _)
    have rest := second.later passedColon.placed
    have branches := (yes.cons passedColon no rest).widen yes.bounds.1
    have onward := ((first.later next.placed).trans passedColon).trans rest
    have passed := starts.cons next branches onward
    exact (Passed.joined [_] passed choose_builds built).widen starts.bounds.1
  | coalesce asks read built right =>
    have next := placed.after (by simp [asks])
    have passed := starts.cons next (right next.placed (Nat.le_refl _)) (read.later next.placed)
    exact (Passed.joined [] passed coalesceWith_builds built).widen starts.bounds.1
  | typeTest asks named built =>
    have first := placed.after (ne_end_of_plain (plain_of_test asks))
    have named := type_later named first.placed
    have passed := starts.tight.later (first.trans named)
    exact (passed.built starts.tree_lies (starts.leads named)
      testType_builds built).widen starts.bounds.1
  | binary sign read built right =>
    have next := placed.after (ne_end_of_operator sign)
    have passed := starts.cons next (right next.placed (Nat.le_refl _)) (read.later next.placed)
    exact (Passed.joined [] passed applyOperator_builds built).widen starts.bounds.1
  | noArguments opens closes =>
    have first := placed.after (ne_end_of_opener opens)
    exact later_nothing (first.placed.after (ne_end_of_closer closes)) placed
  | arguments opens _ read items =>
    have first := placed.after (ne_end_of_opener opens)
    exact items first.placed (starts.trans (later_begins first.placed.here))
  | lastItem read closes item =>
    have passed := item placed starts
    exact passed.later (passed.placed.after (ne_end_of_closer closes))
  | nextItem read comma others item rest =>
    have first := item placed starts
    have onward := first.placed.after (by simp [comma])
    have items := rest onward.placed (Nat.le_refl _)
    exact (first.cons onward items (others.later onward.placed)).widen first.bounds.1
  | noGivens _ => exact ⟨placed, starts.1, .nil⟩
  | givens _ _ items => exact items placed starts.2
  | noInitializer _ => exact ⟨placed, starts.1, .nil⟩
  | members opens _ _ read steps =>
    have first := placed.after (by simp [opens])
    exact steps first.placed (starts.2.trans (later_begins first.placed.here))
  | adds _ _ _ _ items => exact items placed starts.2
  | lastAssignment name equal _ read built closes value =>
    have first := placed.after (by simp [name])
    have second := first.placed.after (by simp [equal])
    have passed := value second.placed (starts.trans (later_begins second))
    have converted := passed.entered (.cons (convertImplicit_enters built) .nil)
    exact converted.later (passed.placed.after (by simp [closes]))
  | trailingComma name equal _ read built comma closes value =>
    have first := placed.after (by simp [name])
    have second := first.placed.after (by simp [equal])
    have passed := value second.placed (starts.trans (later_begins second))
    have converted := passed.entered (.cons (convertImplicit_enters built) .nil)
    have onward := passed.placed.after (by simp [comma])
    exact converted.later (onward.trans (onward.placed.after (by simp [closes])))
  | nextAssignment name equal _ read built comma _ others value rest =>
    have first := placed.after (by simp [name])
    have second := first.placed.after (by simp [equal])
    have passed := value second.placed (starts.trans (later_begins second))
    have converted := passed.entered (.cons (convertImplicit_enters built) .nil)
    have onward := passed.placed.after (by simp [comma])
    have steps := rest onward.placed (Nat.le_refl _)
    exact (converted.cons onward steps (others.later onward.placed)).widen converted.bounds.1

end Reader
end Formula
