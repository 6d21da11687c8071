import Formula.Library.Sample
import Mathlib.Data.List.Nodup
import Mathlib.Data.List.Perm.Subperm
import Mathlib.Data.Set.Function
import Mathlib.Logic.Relation

/-! What a registry knows of inheritance. Registrations that succeed and registrations that fail
leave three things in step: the entries, the digests of their names and the inheritance graph. A base
is registered before the types that derive from it, so every registered type has a finite chain of
declared bases, and all questions about the graph are answered by that chain. -/
namespace Formula

namespace Hierarchy

variable {graph : Hierarchy} {edges : List (String × String)} {met : List String}
  {a b x : String} {rounds : Nat}

/-- One type derives from another by a single edge. -/
def Edge (graph : Hierarchy) (derived base : String) : Prop := (derived, base) ∈ graph.edges

theorem contains_iff : graph.contains a = true ↔ a ∈ graph.nodes := by
  simp [contains]

theorem addType_known (known : a ∈ graph.nodes) : graph.addType a = graph := by
  simp [addType, contains, known]

theorem mem_addType : x ∈ (graph.addType a).nodes ↔ x ∈ graph.nodes ∨ x = a := by
  by_cases known : a ∈ graph.nodes
  · rw [addType_known known]
    constructor
    · exact Or.inl
    · rintro (member | rfl)
      · exact member
      · exact known
  · simp [addType, contains, known]

@[simp] theorem addType_edges : (graph.addType a).edges = graph.edges := by
  unfold addType
  split <;> rfl

theorem addType_nodup (once : graph.nodes.Nodup) : (graph.addType a).nodes.Nodup := by
  by_cases known : a ∈ graph.nodes
  · rwa [addType_known known]
  · have added : (graph.addType a).nodes = graph.nodes ++ [a] := by
      simp [addType, contains, known]
    rw [added]
    exact List.Nodup.append once (List.nodup_singleton a) (by simpa using known)

/-- Between two types that have been seen, the first of which had no base, an edge is all that is
added. -/
theorem setBase_known (derived : a ∈ graph.nodes) (base : b ∈ graph.nodes)
    (none : ∀ base, ¬ graph.Edge a base) :
    graph.setBase a b = ⟨graph.nodes, (a, b) :: graph.edges⟩ := by
  have new : (a, b) ∉ graph.edges := none b
  simp [setBase, addType_known derived, addType_known base, new]

section Spreading

/-- Nothing is lost in spreading, and nothing is met twice. -/
theorem spread_keeps (edges : List (String × String)) (met : List String) :
    met ⊆ spread edges met ∧ (met.Nodup → (spread edges met).Nodup) := by
  induction edges generalizing met with
  | nil => exact ⟨fun _ member => member, id⟩
  | cons edge edges ih =>
    rw [spread, List.foldl_cons]
    by_cases new : met.contains edge.1 && !met.contains edge.2
    · rw [if_pos new]
      obtain ⟨kept, once⟩ := ih (met ++ [edge.2])
      have fresh : edge.2 ∉ met := by simp_all
      constructor
      · exact fun _ member => kept (List.mem_append_left _ member)
      · intro nodup
        apply once
        exact List.Nodup.append nodup (List.nodup_singleton _) (by simpa using fresh)
    · rw [if_neg new]
      exact ih met

/-- The other end of an edge from what has been met is met in the next round. -/
theorem spread_follows (edge : (a, b) ∈ edges) (member : a ∈ met) : b ∈ spread edges met := by
  induction edges generalizing met with
  | nil => cases edge
  | cons first edges ih =>
    rw [spread, List.foldl_cons]
    rcases List.mem_cons.mp edge with rfl | edge
    · have reached : b ∈ (if met.contains a && !met.contains b then met ++ [b] else met) := by
        by_cases already : b ∈ met <;> simp [member, already]
      exact (spread_keeps edges _).1 reached
    · apply ih edge
      split
      · exact List.mem_append_left _ member
      · exact member

/-- What is met in a round is reached along edges from what had been met. -/
theorem spread_reached (reached : x ∈ spread edges met) :
    ∃ m ∈ met, Relation.ReflTransGen (fun a b => (a, b) ∈ edges) m x := by
  -- The set grows while the edges are gone through, so the set they start from is left open.
  suffices grown : ∀ (others : List (String × String)) (now : List String), others ⊆ edges →
      (∀ y ∈ now, ∃ m ∈ met, Relation.ReflTransGen (fun a b => (a, b) ∈ edges) m y) →
      ∀ y ∈ spread others now, ∃ m ∈ met, Relation.ReflTransGen (fun a b => (a, b) ∈ edges) m y from
    grown edges met (fun _ member => member) (fun y member => ⟨y, member, .refl⟩) x reached
  intro others
  induction others with
  | nil => exact fun _ _ start => start
  | cons edge others ih =>
    intro now among start
    rw [spread, List.foldl_cons]
    apply ih _ (fun _ member => among (List.mem_cons_of_mem _ member))
    intro y member
    split at member
    case isFalse => exact start y member
    case isTrue new =>
      rcases List.mem_append.mp member with member | member
      · exact start y member
      · obtain rfl := List.mem_singleton.mp member
        have source : edge.1 ∈ now := by simp_all
        obtain ⟨m, begins, path⟩ := start _ source
        exact ⟨m, begins, path.tail (among List.mem_cons_self)⟩

theorem spreads_succ : spreads edges (rounds + 1) met = spread edges (spreads edges rounds met) := by
  induction rounds generalizing met with
  | zero => rfl
  | succ rounds ih => rw [spreads, ih, ← spreads]

theorem spreads_mono {more : Nat} (fewer : rounds ≤ more) :
    spreads edges rounds met ⊆ spreads edges more met := by
  induction fewer with
  | refl => exact fun _ member => member
  | step _ ih =>
    rw [spreads_succ]
    exact fun _ member => (spread_keeps edges _).1 (ih member)

theorem spreads_nodup (once : met.Nodup) : (spreads edges rounds met).Nodup := by
  induction rounds generalizing met with
  | zero => exact once
  | succ rounds ih => exact ih ((spread_keeps edges met).2 once)

theorem spreads_reached (reached : x ∈ spreads edges rounds met) :
    ∃ m ∈ met, Relation.ReflTransGen (fun a b => (a, b) ∈ edges) m x := by
  induction rounds generalizing met with
  | zero => exact ⟨x, reached, .refl⟩
  | succ rounds ih =>
    obtain ⟨m, member, path⟩ := ih reached
    obtain ⟨start, begins, first⟩ := spread_reached member
    exact ⟨start, begins, first.trans path⟩

end Spreading

end Hierarchy

namespace Registry

/-- A registry after some registrations, of which any may have failed. -/
def registerAll (registry : Registry) (entries : List Entry) : Registry :=
  entries.foldl (fun registry entry => (registry.register entry).2) registry

/-- The chain of declared bases of a registered type, nearest first. -/
inductive BaseChain (registry : Registry) : String → List String → Prop where
  | root (found : registry.get? name = some entry) (noBase : entry.base = none) :
      BaseChain registry name []
  | derived (found : registry.get? name = some entry) (declared : entry.base = some base)
      (rest : BaseChain registry base chain) : BaseChain registry name (base :: chain)

/-- The entries and the inheritance graph are in step. -/
structure InStep (registry : Registry) : Prop where
  unique : (registry.entries.map (·.name)).Nodup
  once : registry.hierarchy.nodes.Nodup
  known : ∀ entry ∈ registry.entries, entry.name ∈ registry.hierarchy.nodes
  /-- An edge is a declared base. -/
  edge : ∀ derived base, registry.hierarchy.Edge derived base ↔
    ∃ entry ∈ registry.entries, entry.name = derived ∧ entry.base = some base
  single : (registry.hierarchy.edges.map (·.1)).Nodup
  chained : ∀ entry ∈ registry.entries,
    ∃ chain, registry.BaseChain entry.name chain ∧ (entry.name :: chain).Nodup

variable {registry : Registry} {name : String} {chain : List String} {entry : Entry}

section Entries

theorem get?_name (found : registry.get? name = some entry) : entry.name = name := by
  simpa using List.find?_some found

theorem mem_of_get? (found : registry.get? name = some entry) : entry ∈ registry.entries :=
  List.mem_of_find?_eq_some found

theorem get?_none_iff : registry.get? name = none ↔ ∀ entry ∈ registry.entries, entry.name ≠ name := by
  simp [get?]

theorem contains_iff : registry.contains name = true ↔ ∃ entry, registry.get? name = some entry := by
  simp [contains, Option.isSome_iff_exists]

/-- Where no name is taken twice, every entry is found by its name. -/
theorem get?_of_mem (unique : (registry.entries.map (·.name)).Nodup)
    (member : entry ∈ registry.entries) : registry.get? entry.name = some entry := by
  cases found : registry.get? entry.name with
  | none => exact absurd rfl (get?_none_iff.mp found entry member)
  | some other =>
    have same : other.name = entry.name := get?_name found
    rw [List.inj_on_of_nodup_map unique (mem_of_get? found) member same]

/-- What is found among the entries is found when more of them follow. -/
theorem get?_append {more : List Entry} {hierarchy : Hierarchy}
    (found : registry.get? name = some entry) :
    get? ⟨registry.entries ++ more, hierarchy⟩ name = some entry := by
  have first : registry.entries.find? (·.name == name) = some entry := found
  simp [get?, List.find?_append, first]

end Entries

theorem BaseChain.above {base : String} (bases : registry.BaseChain name chain)
    (found : registry.get? name = some entry) (declared : entry.base = some base) :
    ∃ rest, chain = base :: rest ∧ registry.BaseChain base rest := by
  cases bases with
  | root found' noBase =>
    rw [found] at found'
    cases found'
    rw [declared] at noBase
    cases noBase
  | derived found' declared' rest =>
    rw [found] at found'
    cases found'
    rw [declared] at declared'
    cases declared'
    exact ⟨_, rfl, rest⟩

/-- A type has one chain of bases. -/
theorem BaseChain.unique {other : List String} (first : registry.BaseChain name chain)
    (second : registry.BaseChain name other) : chain = other := by
  induction first generalizing other with
  | root found noBase =>
    cases second with
    | root => rfl
    | derived found' declared =>
      rw [found] at found'
      cases found'
      rw [noBase] at declared
      cases declared
  | derived found declared _ ih =>
    obtain ⟨rest, rfl, above⟩ := second.above found declared
    rw [ih above]

theorem BaseChain.registered (bases : registry.BaseChain name chain) :
    ∀ base ∈ name :: chain, ∃ entry, registry.get? base = some entry := by
  induction bases with
  | root found => simp [found]
  | derived found _ _ ih =>
    intro base member
    rcases List.mem_cons.mp member with rfl | member
    · exact ⟨_, found⟩
    · exact ih base member

theorem BaseChain.append {more : List Entry} {hierarchy : Hierarchy}
    (bases : registry.BaseChain name chain) :
    BaseChain ⟨registry.entries ++ more, hierarchy⟩ name chain := by
  induction bases with
  | root found noBase => exact .root (get?_append found) noBase
  | derived found declared _ ih => exact .derived (get?_append found) declared ih

section Registration

theorem inStep_empty : Registry.empty.InStep where
  unique := List.nodup_nil
  once := List.nodup_nil
  known := by simp [empty]
  edge := by simp [empty, Hierarchy.empty, Hierarchy.Edge]
  single := List.nodup_nil
  chained := by simp [empty]

/-- One more node, for a type that could not be registered or has no base, puts nothing out of step. -/
theorem InStep.seen (inStep : registry.InStep) (name : String) :
    InStep { registry with hierarchy := registry.hierarchy.addType name } where
  unique := inStep.unique
  once := Hierarchy.addType_nodup inStep.once
  known entry member := Hierarchy.mem_addType.mpr (.inl (inStep.known entry member))
  edge derived base := by simpa [Hierarchy.Edge] using inStep.edge derived base
  single := by simpa using inStep.single
  chained entry member := by
    obtain ⟨chain, bases, once⟩ := inStep.chained entry member
    have same : BaseChain ⟨registry.entries ++ [], registry.hierarchy.addType name⟩ entry.name chain :=
      bases.append
    rw [List.append_nil] at same
    exact ⟨chain, same, once⟩

/-- A new entry whose node is there and whose edge is added puts nothing out of step. -/
theorem InStep.entered {hierarchy : Hierarchy} (inStep : registry.InStep)
    (fresh : registry.get? entry.name = none) (known : entry.name ∈ registry.hierarchy.nodes)
    (nodes : hierarchy.nodes = registry.hierarchy.nodes)
    (added : entry.base = none ∧ hierarchy.edges = registry.hierarchy.edges ∨
      ∃ base, entry.base = some base ∧ registry.contains base ∧
        hierarchy.edges = (entry.name, base) :: registry.hierarchy.edges) :
    InStep ⟨registry.entries ++ [entry], hierarchy⟩ := by
  have free := get?_none_iff.mp fresh
  have noEdge : ∀ base, (entry.name, base) ∉ registry.hierarchy.edges := by
    intro base edge
    obtain ⟨other, member, same, -⟩ := (inStep.edge entry.name base).mp edge
    exact free other member same
  have found : get? ⟨registry.entries ++ [entry], hierarchy⟩ entry.name = some entry := by
    have missing : registry.entries.find? (·.name == entry.name) = none := fresh
    simp [get?, List.find?_append, missing]
  refine ⟨?unique, ?once, ?known, ?edge, ?single, ?chained⟩
  case unique =>
    rw [List.map_append]
    refine List.Nodup.append inStep.unique (List.nodup_singleton _) ?_
    simpa [List.disjoint_singleton] using free
  case once => rw [nodes]; exact inStep.once
  case known =>
    intro other member
    rw [nodes]
    rcases List.mem_append.mp member with member | member
    · exact inStep.known other member
    · obtain rfl := List.mem_singleton.mp member
      exact known
  case edge =>
    intro derived base
    have before := inStep.edge derived base
    unfold Hierarchy.Edge at before ⊢
    rcases added with ⟨noBase, edges⟩ | ⟨declared, isBase, -, edges⟩
    · simp only [edges, before, List.mem_append, List.mem_singleton]
      constructor
      · rintro ⟨other, member, same⟩
        exact ⟨other, .inl member, same⟩
      · rintro ⟨other, member | rfl, same, isBase⟩
        · exact ⟨other, member, same, isBase⟩
        · rw [noBase] at isBase
          cases isBase
    · simp only [edges, List.mem_cons, Prod.mk.injEq, before, List.mem_append, List.not_mem_nil,
        or_false]
      constructor
      · rintro (⟨rfl, rfl⟩ | ⟨other, member, same⟩)
        · exact ⟨entry, .inr rfl, rfl, isBase⟩
        · exact ⟨other, .inl member, same⟩
      · rintro ⟨other, member | rfl, rfl, same⟩
        · exact .inr ⟨other, member, rfl, same⟩
        · rw [isBase] at same
          cases same
          exact .inl ⟨rfl, rfl⟩
  case single =>
    rcases added with ⟨-, edges⟩ | ⟨base, -, -, edges⟩
    · rw [edges]
      exact inStep.single
    · rw [edges, List.map_cons, List.nodup_cons]
      refine ⟨fun member => ?_, inStep.single⟩
      obtain ⟨⟨derived, base⟩, edge, same⟩ := List.mem_map.mp member
      obtain rfl : derived = entry.name := same
      exact noEdge base edge
  case chained =>
    intro other member
    rcases List.mem_append.mp member with member | member
    · obtain ⟨chain, bases, once⟩ := inStep.chained other member
      exact ⟨chain, bases.append, once⟩
    · obtain rfl := List.mem_singleton.mp member
      rcases added with ⟨noBase, -⟩ | ⟨base, declared, registered, -⟩
      · exact ⟨[], .root found noBase, List.nodup_singleton _⟩
      · obtain ⟨above, isAbove⟩ := contains_iff.mp registered
        obtain ⟨chain, bases, once⟩ := inStep.chained above (mem_of_get? isAbove)
        rw [get?_name isAbove] at bases once
        refine ⟨base :: chain, .derived found declared bases.append, List.nodup_cons.mpr ⟨?_, once⟩⟩
        -- The bases are registered, and the name was free.
        intro member
        obtain ⟨taken, isTaken⟩ := bases.registered _ member
        rw [fresh] at isTaken
        cases isTaken

/-- A registration puts nothing out of step, whether it succeeds or fails. -/
theorem InStep.register (inStep : registry.InStep) (entry : Entry) :
    (registry.register entry).2.InStep := by
  unfold Registry.register
  split
  case isTrue => exact inStep
  case isFalse taken =>
    have fresh : registry.get? entry.name = none := by
      simpa [Registry.contains] using taken
    have seen := inStep.seen entry.name
    have known : entry.name ∈ (registry.hierarchy.addType entry.name).nodes :=
      Hierarchy.mem_addType.mpr (.inr rfl)
    simp only
    split
    case h_1 noBase => exact seen.entered fresh known rfl (.inl ⟨noBase, rfl⟩)
    case h_2 base declared =>
      split
      case isFalse => exact seen
      case isTrue registered =>
        obtain ⟨above, found⟩ := contains_iff.mp registered
        have baseKnown : base ∈ (registry.hierarchy.addType entry.name).nodes :=
          get?_name found ▸ seen.known above (mem_of_get? found)
        have noEdge : ∀ base, ¬ (registry.hierarchy.addType entry.name).Edge entry.name base := by
          intro base edge
          obtain ⟨other, member, same, -⟩ := (seen.edge entry.name base).mp edge
          exact get?_none_iff.mp fresh other member same
        rw [Hierarchy.setBase_known known baseKnown noEdge]
        exact seen.entered fresh known rfl (.inr ⟨base, declared, registered, rfl⟩)

theorem InStep.registerAll (inStep : registry.InStep) (entries : List Entry) :
    (registry.registerAll entries).InStep := by
  induction entries generalizing registry with
  | nil => exact inStep
  | cons entry entries ih => exact ih (inStep.register entry)

end Registration

section Graph

variable {a b x : String}

/-- The newest edge of a registered type leads to its declared base. -/
theorem InStep.base_eq (inStep : registry.InStep) (name : String) :
    registry.hierarchy.base? name = (registry.get? name).bind (·.base) := by
  unfold Hierarchy.base?
  cases found : registry.hierarchy.edges.find? (·.1 == name) with
  | none =>
    cases taken : registry.get? name with
    | none => rfl
    | some entry =>
      cases declared : entry.base with
      | none => simp [declared]
      | some base =>
        have edge := (inStep.edge name base).mpr
          ⟨entry, mem_of_get? taken, get?_name taken, declared⟩
        have absent := List.find?_eq_none.mp found (name, base) edge
        simp at absent
  | some pair =>
    obtain ⟨derived, base⟩ := pair
    obtain rfl : derived = name := by simpa using List.find?_some found
    have edge : registry.hierarchy.Edge derived base := List.mem_of_find?_eq_some found
    obtain ⟨entry, member, rfl, declared⟩ := (inStep.edge derived base).mp edge
    simp [get?_of_mem inStep.unique member, declared]

/-- Following the newest edges goes up the chain of declared bases. -/
theorem InStep.climb_chain {start current : String} {steps : Nat} {met : List String}
    (inStep : registry.InStep) (bases : registry.BaseChain current chain)
    (once : (start :: (met ++ chain)).Nodup) (enough : chain.length ≤ steps) :
    registry.hierarchy.climb start steps met current = met ++ chain := by
  induction bases generalizing steps met with
  | root found noBase =>
    cases steps with
    | zero => simp [Hierarchy.climb]
    | succ steps => simp [Hierarchy.climb, inStep.base_eq, found, noBase]
  | @derived current entry base chain found declared _ ih =>
    obtain ⟨steps, rfl⟩ := Nat.exists_eq_add_of_lt (Nat.lt_of_lt_of_le (Nat.succ_pos _) enough)
    rw [Nat.zero_add] at enough ⊢
    have next : registry.hierarchy.base? current = some base := by
      simp [inStep.base_eq, found, declared]
    have fresh : ¬ (base = start ∨ met.contains base) := by
      rw [List.nodup_cons, List.nodup_append] at once
      obtain ⟨notStart, -, -, apart⟩ := once
      rintro (rfl | member)
      · exact notStart (by simp)
      · exact apart base (by simpa using member) base List.mem_cons_self rfl
    rw [Hierarchy.climb]
    simp only [next, if_neg fresh]
    have whole : met ++ base :: chain = met ++ [base] ++ chain := by simp
    rw [whole] at once ⊢
    exact ih once (Nat.le_of_succ_le_succ enough)

theorem InStep.chain_known (inStep : registry.InStep) (bases : registry.BaseChain name chain) :
    name :: chain ⊆ registry.hierarchy.nodes := by
  intro base member
  obtain ⟨entry, found⟩ := bases.registered base member
  exact get?_name found ▸ inStep.known entry (mem_of_get? found)

/-- A chain of bases is shorter than the number of types that have been seen. -/
theorem InStep.chain_length (inStep : registry.InStep) (bases : registry.BaseChain name chain)
    (once : (name :: chain).Nodup) : chain.length < registry.hierarchy.nodes.length :=
  (List.subperm_of_subset once (inStep.chain_known bases)).length_le

/-- The ancestors of a registered type are its chain of declared bases, nearest first. -/
theorem InStep.ancestors_chain (inStep : registry.InStep) (member : entry ∈ registry.entries) :
    registry.BaseChain entry.name (registry.hierarchy.ancestors entry.name) ∧
      (entry.name :: registry.hierarchy.ancestors entry.name).Nodup := by
  obtain ⟨chain, bases, once⟩ := inStep.chained entry member
  have climbed : registry.hierarchy.ancestors entry.name = chain := by
    rw [Hierarchy.ancestors, if_pos (Hierarchy.contains_iff.mpr (inStep.known entry member))]
    exact inStep.climb_chain bases once (Nat.le_of_lt (inStep.chain_length bases once))
  rw [climbed]
  exact ⟨bases, once⟩

/-- A type that is not registered has no base, although it may have been seen. -/
theorem InStep.ancestors_unregistered (inStep : registry.InStep) (free : registry.get? name = none) :
    registry.hierarchy.ancestors name = [] := by
  unfold Hierarchy.ancestors
  split
  case isFalse => rfl
  case isTrue =>
    cases registry.hierarchy.nodes.length with
    | zero => rfl
    | succ steps => simp [Hierarchy.climb, inStep.base_eq, free]

theorem InStep.reaches_of_chain (inStep : registry.InStep) (bases : registry.BaseChain a chain)
    (path : Relation.ReflTransGen registry.hierarchy.Edge a x) : x ∈ a :: chain := by
  induction path using Relation.ReflTransGen.head_induction_on generalizing chain with
  | refl => exact List.mem_cons_self
  | head edge _ ih =>
    obtain ⟨entry, member, rfl, declared⟩ := (inStep.edge _ _).mp edge
    obtain ⟨rest, rfl, above⟩ := bases.above (get?_of_mem inStep.unique member) declared
    exact List.mem_cons_of_mem _ (ih above)

/-- Along the edges a type reaches itself and its ancestors, and nothing else. -/
theorem InStep.reaches (inStep : registry.InStep)
    (path : Relation.ReflTransGen registry.hierarchy.Edge a x) :
    a = x ∨ x ∈ registry.hierarchy.ancestors a := by
  cases found : registry.get? a with
  | none =>
    rcases Relation.ReflTransGen.cases_head path with same | ⟨base, edge, -⟩
    · exact .inl same
    · obtain ⟨entry, member, rfl, -⟩ := (inStep.edge a base).mp edge
      rw [get?_of_mem inStep.unique member] at found
      cases found
  | some entry =>
    obtain rfl := get?_name found
    have bases := (inStep.ancestors_chain (mem_of_get? found)).1
    rcases List.mem_cons.mp (inStep.reaches_of_chain bases path) with same | above
    · exact .inl same.symm
    · exact .inr above

/-- No type inherits from itself. -/
theorem InStep.acyclic (inStep : registry.InStep) (name : String) :
    ¬ Relation.TransGen registry.hierarchy.Edge name name := by
  intro cycle
  obtain ⟨base, edge, back⟩ := Relation.TransGen.head'_iff.mp cycle
  obtain ⟨entry, member, rfl, declared⟩ := (inStep.edge name base).mp edge
  obtain ⟨bases, once⟩ := inStep.ancestors_chain member
  obtain ⟨rest, whole, above⟩ := bases.above (get?_of_mem inStep.unique member) declared
  rw [whole] at once
  exact (List.nodup_cons.mp once).1 (inStep.reaches_of_chain above back)

end Graph

section Questions

variable {a b x : String}

theorem InStep.edge_of_chain {base : String} (inStep : registry.InStep)
    (found : registry.get? name = some entry) (declared : entry.base = some base) :
    (name, base) ∈ registry.hierarchy.edges :=
  (inStep.edge name base).mpr ⟨entry, mem_of_get? found, get?_name found, declared⟩

/-- Spreading along the edges comes to a base in as many rounds as there are bases up to it. -/
theorem InStep.spreads_up {met : List String} {rounds : Nat} (inStep : registry.InStep)
    (bases : registry.BaseChain a chain) (member : x ∈ a :: chain)
    (reached : a ∈ Hierarchy.spreads registry.hierarchy.edges rounds met) :
    x ∈ Hierarchy.spreads registry.hierarchy.edges (rounds + chain.length) met := by
  induction bases generalizing rounds with
  | root =>
    obtain rfl := List.mem_singleton.mp member
    exact reached
  | @derived a entry base chain found declared _ ih =>
    rcases List.mem_cons.mp member with rfl | member
    · exact Hierarchy.spreads_mono (Nat.le_add_right _ _) reached
    · have edge := inStep.edge_of_chain found declared
      have next : base ∈ Hierarchy.spreads registry.hierarchy.edges (rounds + 1) met := by
        rw [Hierarchy.spreads_succ]
        exact Hierarchy.spread_follows edge reached
      have above := ih member next
      rwa [Nat.add_right_comm, Nat.add_assoc] at above

/-- Spreading against the edges comes from a base down to a type. -/
theorem InStep.spreads_down (inStep : registry.InStep) (bases : registry.BaseChain a chain)
    (member : x ∈ a :: chain) :
    a ∈ Hierarchy.spreads (registry.hierarchy.edges.map fun edge => (edge.2, edge.1))
      chain.length [x] := by
  induction bases with
  | root =>
    obtain rfl := List.mem_singleton.mp member
    exact List.mem_singleton_self _
  | @derived a entry base chain found declared _ ih =>
    rcases List.mem_cons.mp member with rfl | member
    · exact Hierarchy.spreads_mono (Nat.zero_le _) (List.mem_singleton_self _)
    · have edge := inStep.edge_of_chain found declared
      rw [List.length_cons, Hierarchy.spreads_succ]
      exact Hierarchy.spread_follows (List.mem_map.mpr ⟨_, edge, rfl⟩) (ih member)

/-- A type and its ancestors are found from each other in as many rounds as there are types. -/
theorem InStep.found_in_rounds (inStep : registry.InStep)
    (above : a = b ∨ b ∈ registry.hierarchy.ancestors a) :
    b ∈ Hierarchy.spreads registry.hierarchy.edges registry.hierarchy.nodes.length [a] ∧
      a ∈ Hierarchy.spreads (registry.hierarchy.edges.map fun edge => (edge.2, edge.1))
        registry.hierarchy.nodes.length [b] := by
  cases found : registry.get? a with
  | none =>
    rw [inStep.ancestors_unregistered found] at above
    obtain rfl : a = b := by simpa using above
    have self := List.mem_singleton_self a
    exact ⟨Hierarchy.spreads_mono (Nat.zero_le _) self, Hierarchy.spreads_mono (Nat.zero_le _) self⟩
  | some entry =>
    obtain rfl := get?_name found
    obtain ⟨bases, once⟩ := inStep.ancestors_chain (mem_of_get? found)
    have member : b ∈ entry.name :: registry.hierarchy.ancestors entry.name := by
      rcases above with rfl | above
      · exact List.mem_cons_self
      · exact List.mem_cons_of_mem _ above
    have enough := Nat.le_of_lt (inStep.chain_length bases once)
    have up : b ∈ Hierarchy.spreads registry.hierarchy.edges
        (0 + (registry.hierarchy.ancestors entry.name).length) [entry.name] :=
      inStep.spreads_up bases member (List.mem_singleton_self _)
    rw [Nat.zero_add] at up
    exact ⟨Hierarchy.spreads_mono enough up,
      Hierarchy.spreads_mono enough (inStep.spreads_down bases member)⟩

/-- Of two types that have been seen, one derives from the other if it is the other or has it among
its ancestors. -/
theorem InStep.derivesFrom_iff (inStep : registry.InStep) (first : registry.hierarchy.contains a)
    (second : registry.hierarchy.contains b) :
    registry.hierarchy.derivesFrom a b = true ↔ a = b ∨ b ∈ registry.hierarchy.ancestors a := by
  rw [Hierarchy.derivesFrom, first, second, Bool.true_and, Bool.true_and, List.contains_iff_mem]
  constructor
  · intro reached
    obtain ⟨start, begins, path⟩ := Hierarchy.spreads_reached reached
    obtain rfl := List.mem_singleton.mp begins
    exact inStep.reaches path
  · intro above
    exact (inStep.found_in_rounds above).1

/-- What a type has among its ancestors has been seen, and so has the type. -/
theorem InStep.ancestors_known (inStep : registry.InStep)
    (above : b ∈ registry.hierarchy.ancestors a) :
    a ∈ registry.hierarchy.nodes ∧ b ∈ registry.hierarchy.nodes := by
  cases found : registry.get? a with
  | none =>
    rw [inStep.ancestors_unregistered found] at above
    cases above
  | some entry =>
    obtain rfl := get?_name found
    have known := inStep.chain_known (inStep.ancestors_chain (mem_of_get? found)).1
    exact ⟨known List.mem_cons_self, known (List.mem_cons_of_mem _ above)⟩

/-- A type derives from itself once it has been seen, and else from its ancestors. -/
theorem InStep.derivesFrom_cases (inStep : registry.InStep) :
    registry.hierarchy.derivesFrom a b = true ↔
      a = b ∧ a ∈ registry.hierarchy.nodes ∨ b ∈ registry.hierarchy.ancestors a := by
  constructor
  · intro derives
    have seen := derives
    simp only [Hierarchy.derivesFrom, Bool.and_eq_true] at seen
    rcases (inStep.derivesFrom_iff seen.1.1 seen.1.2).mp derives with same | above
    · exact .inl ⟨same, Hierarchy.contains_iff.mp seen.1.1⟩
    · exact .inr above
  · rintro (⟨rfl, known⟩ | above)
    · have seen := Hierarchy.contains_iff.mpr known
      exact (inStep.derivesFrom_iff seen seen).mpr (.inl rfl)
    · obtain ⟨first, second⟩ := inStep.ancestors_known above
      exact (inStep.derivesFrom_iff (Hierarchy.contains_iff.mpr first)
        (Hierarchy.contains_iff.mpr second)).mpr (.inr above)

theorem InStep.derivesFrom_trans (inStep : registry.InStep)
    (below : registry.hierarchy.derivesFrom a b) (above : registry.hierarchy.derivesFrom b x) :
    registry.hierarchy.derivesFrom a x := by
  have known : registry.hierarchy.contains a ∧ registry.hierarchy.contains x := by
    simp only [Hierarchy.derivesFrom, Bool.and_eq_true] at below above
    exact ⟨below.1.1, above.1.2⟩
  simp only [Hierarchy.derivesFrom, Bool.and_eq_true, List.contains_iff_mem] at below above
  obtain ⟨lower, start, first⟩ := Hierarchy.spreads_reached below.2
  obtain rfl := List.mem_singleton.mp start
  obtain ⟨middle, start, second⟩ := Hierarchy.spreads_reached above.2
  obtain rfl := List.mem_singleton.mp start
  exact (inStep.derivesFrom_iff known.1 known.2).mpr (inStep.reaches (first.trans second))

/-- What inherits from a type is what derives from it. -/
theorem InStep.mem_descendants_iff (inStep : registry.InStep) (a b : String) :
    a ∈ registry.hierarchy.descendants b ↔ registry.hierarchy.derivesFrom a b = true := by
  unfold Hierarchy.descendants
  split
  case isFalse unknown => simp [Hierarchy.derivesFrom, unknown]
  case isTrue second =>
    constructor
    · intro reached
      obtain ⟨start, begins, back⟩ := Hierarchy.spreads_reached reached
      obtain rfl := List.mem_singleton.mp begins
      have path : Relation.ReflTransGen registry.hierarchy.Edge a start := by
        apply Relation.reflTransGen_swap.mp
        apply Relation.ReflTransGen.mono _ _ _ back
        intro base derived edge
        obtain ⟨pair, member, same⟩ := List.mem_map.mp edge
        cases same
        exact member
      have first : registry.hierarchy.contains a := by
        rcases Relation.ReflTransGen.cases_head path with rfl | ⟨base, edge, -⟩
        · exact second
        · obtain ⟨entry, member, rfl, -⟩ := (inStep.edge a base).mp edge
          exact Hierarchy.contains_iff.mpr (inStep.known entry member)
      exact (inStep.derivesFrom_iff first second).mpr (inStep.reaches path)
    · intro derives
      have first : registry.hierarchy.contains a := by
        simp only [Hierarchy.derivesFrom, Bool.and_eq_true] at derives
        exact derives.1.1
      exact (inStep.found_in_rounds ((inStep.derivesFrom_iff first second).mp derives)).2

theorem descendants_nodup (graph : Hierarchy) (name : String) : (graph.descendants name).Nodup := by
  unfold Hierarchy.descendants
  split
  · exact Hierarchy.spreads_nodup (List.nodup_singleton _)
  · exact List.nodup_nil

end Questions

/-- The entries of a lineage: a type, its bases, nearest first, and the root of all classes behind
them if it is not among them. -/
structure IsLineage (registry : Registry) (entry : Entry) (bases lineage : List Entry) : Prop where
  above : bases.map (·.name) = registry.hierarchy.ancestors entry.name
  registered : ∀ base ∈ bases, base ∈ registry.entries
  parts : lineage = entry :: bases ∨
    ∃ root, registry.get? rootName = some root ∧ lineage = entry :: bases ++ [root]
  once : (lineage.map (·.name)).Nodup
  rooted : ∀ root, registry.get? rootName = some root → root ∈ lineage
  /-- The root is the last, unless the bases of the type go on past it. -/
  last : ∀ root, registry.get? rootName = some root → lineage.getLast? = some root ∨
    ∃ front next behind, entry :: bases = front ++ root :: next :: behind

section Lineages

variable {ty : Ty}

theorem names_of_registered {names : List String}
    (registered : ∀ name ∈ names, ∃ entry, registry.get? name = some entry) :
    (names.filterMap registry.get?).map (·.name) = names := by
  induction names with
  | nil => rfl
  | cons name names ih =>
    obtain ⟨⟨entry, found⟩, others⟩ := List.forall_mem_cons.mp registered
    rw [List.filterMap_cons, found]
    simp only [List.map_cons, get?_name found, ih others]

/-- The ancestors of a registered type are registered as well. -/
theorem InStep.bases_registered (inStep : registry.InStep) (member : entry ∈ registry.entries) :
    ∃ bases, (registry.hierarchy.ancestors entry.name).filterMap registry.get? = bases ∧
      bases.map (·.name) = registry.hierarchy.ancestors entry.name ∧
      ∀ base ∈ bases, base ∈ registry.entries := by
  have registered := (List.forall_mem_cons.mp (inStep.ancestors_chain member).1.registered).2
  refine ⟨_, rfl, names_of_registered registered, fun base listed => ?_⟩
  obtain ⟨name, -, isBase⟩ := List.mem_filterMap.mp listed
  exact mem_of_get? isBase

theorem InStep.isLineage (inStep : registry.InStep) (found : registry.entryFor? ty = some entry) :
    ∃ bases, registry.IsLineage entry bases (registry.lineage ty) := by
  have member : entry ∈ registry.entries := mem_of_get? found
  have once := (inStep.ancestors_chain member).2
  obtain ⟨bases, isBases, above, registered⟩ := inStep.bases_registered member
  have names : ((entry :: bases).map (·.name)).Nodup := by
    rw [List.map_cons, above]
    exact once
  have among : ∀ base ∈ entry :: bases, base ∈ registry.entries :=
    List.forall_mem_cons.mpr ⟨member, registered⟩
  refine ⟨bases, ?_⟩
  unfold Registry.lineage
  simp only [found, isBases]
  split
  case isTrue rooted =>
    have inChain : ∀ root, registry.get? rootName = some root → root ∈ entry :: bases := by
      intro root isRoot
      have named : ∃ base ∈ entry :: bases, base.name = rootName := by
        rcases rooted with same | listed
        · exact ⟨entry, List.mem_cons_self, same⟩
        · simpa using listed
      obtain ⟨base, listed, same⟩ := named
      have isBase := get?_of_mem inStep.unique (among base listed)
      rw [same, isRoot] at isBase
      cases isBase
      exact listed
    refine ⟨above, registered, .inl rfl, names, inChain, ?_⟩
    intro root isRoot
    obtain ⟨front, behind, parts⟩ := List.append_of_mem (inChain root isRoot)
    cases behind with
    | nil =>
      left
      rw [parts, List.getLast?_concat]
    | cons next behind => exact .inr ⟨front, next, behind, parts⟩
  case isFalse unrooted =>
    have absent : rootName ∉ (entry :: bases).map (·.name) := by
      intro listed
      obtain ⟨base, listed, same⟩ := List.mem_map.mp listed
      apply unrooted
      right
      simp only [List.any_eq_true, beq_iff_eq]
      exact ⟨base, listed, same⟩
    cases isRoot : registry.get? rootName with
    | none =>
      have whole : entry :: bases ++ (none : Option Entry).toList = entry :: bases := by simp
      rw [whole]
      exact ⟨above, registered, .inl rfl, names, by simp [isRoot], by simp [isRoot]⟩
    | some root =>
      refine ⟨above, registered, .inr ⟨root, isRoot, rfl⟩, ?_, ?_, ?_⟩
      · rw [Option.toList_some, List.map_append]
        refine List.Nodup.append names (List.nodup_singleton _) ?_
        rw [List.map_singleton, get?_name isRoot]
        simpa using absent
      · intro other isOther
        rw [isRoot] at isOther
        cases isOther
        simp
      · intro other isOther
        rw [isRoot] at isOther
        cases isOther
        left
        rw [Option.toList_some, List.getLast?_concat]

/-- The entries of a lineage are registered. -/
theorem lineage_registered : ∀ entry ∈ registry.lineage ty, entry ∈ registry.entries := by
  intro entry member
  unfold lineage at member
  cases found : registry.entryFor? ty with
  | none =>
    rw [found] at member
    cases member
  | some own =>
    have chain : ∀ base ∈ own :: (registry.hierarchy.ancestors own.name).filterMap registry.get?,
        base ∈ registry.entries := by
      intro base listed
      rcases List.mem_cons.mp listed with rfl | listed
      · exact mem_of_get? found
      · obtain ⟨name, -, isBase⟩ := List.mem_filterMap.mp listed
        exact mem_of_get? isBase
    rw [found] at member
    simp only at member
    split at member
    case isTrue => exact chain entry member
    case isFalse =>
      rcases List.mem_append.mp member with listed | isRoot
      · exact chain entry listed
      · exact mem_of_get? (Option.mem_toList.mp isRoot)

end Lineages

section Digests

variable {used : Set String}

theorem registerAll_among (entries : List Entry) :
    ∀ entry ∈ (registry.registerAll entries).entries, entry ∈ registry.entries ++ entries := by
  induction entries generalizing registry with
  | nil => simp [registerAll]
  | cons first entries ih =>
    intro entry member
    have step : ∀ entry ∈ (registry.register first).2.entries, entry ∈ registry.entries ++ [first] := by
      intro entry member
      unfold register at member
      split at member
      case isTrue => exact List.mem_append_left _ member
      case isFalse =>
        simp only at member
        split at member
        case h_1 => exact member
        case h_2 =>
          split at member
          case isTrue => exact member
          case isFalse => exact List.mem_append_left _ member
    rcases List.mem_append.mp (ih entry member) with before | later
    · have whole := List.mem_append_left entries (step entry before)
      simpa using whole
    · simp [later]

/-- Among names that have digests of their own, an entry is found by the digest of its name. -/
theorem InStep.byDigest_eq (inStep : registry.InStep)
    (named : ∀ entry ∈ registry.entries, entry.name ∈ used)
    (distinct : Set.InjOn Digest.ofType used) (isUsed : name ∈ used) :
    registry.byDigest? (Digest.ofType name) = registry.get? name := by
  have same : ∀ entry ∈ registry.entries, entry.digest = Digest.ofType name → entry.name = name :=
    fun entry member digest => distinct (named entry member) isUsed digest
  unfold byDigest?
  cases found : registry.entries.reverse.find? (·.digest == Digest.ofType name) with
  | none =>
    symm
    apply get?_none_iff.mpr
    rintro entry member rfl
    have absent := List.find?_eq_none.mp found entry (List.mem_reverse.mpr member)
    simp [Entry.digest] at absent
  | some entry =>
    have member := List.mem_reverse.mp (List.mem_of_find?_eq_some found)
    have digest : entry.digest = Digest.ofType name := by simpa using List.find?_some found
    rw [← same entry member digest, get?_of_mem inStep.unique member]

end Digests

/-- What holds of a registry at all times, where the names in use have digests of their own. -/
structure Coherent (registry : Registry) (used : Set String) : Prop where
  unique : (registry.entries.map (·.name)).Nodup
  digests : ∀ name ∈ used, registry.byDigest? (Digest.ofType name) = registry.get? name
  /-- No type has two edges to a base. -/
  single : (registry.hierarchy.edges.map (·.1)).Nodup
  acyclic : ∀ name, ¬ Relation.TransGen registry.hierarchy.Edge name name
  ancestors : ∀ entry ∈ registry.entries, ∀ chain,
    registry.BaseChain entry.name chain ↔ registry.hierarchy.ancestors entry.name = chain
  derives : ∀ a b, registry.hierarchy.contains a → registry.hierarchy.contains b →
    (registry.hierarchy.derivesFrom a b = true ↔ a = b ∨ b ∈ registry.hierarchy.ancestors a)
  descendants : ∀ a b, a ∈ registry.hierarchy.descendants b ↔
    registry.hierarchy.derivesFrom a b = true
  descendantsOnce : ∀ name, (registry.hierarchy.descendants name).Nodup
  lineage : ∀ ty entry, registry.entryFor? ty = some entry →
    ∃ bases, registry.IsLineage entry bases (registry.lineage ty)

/-- After any registrations, successful or failed and in any order, the entries, their digests and the
inheritance graph agree, and every question about inheritance is answered by the declared bases. -/
theorem registerAll_coherent {entries : List Entry} {used : Set String}
    (named : ∀ entry ∈ entries, entry.name ∈ used) (distinct : Set.InjOn Digest.ofType used) :
    (Registry.empty.registerAll entries).Coherent used := by
  have inStep : (Registry.empty.registerAll entries).InStep := inStep_empty.registerAll entries
  have inUse : ∀ entry ∈ (Registry.empty.registerAll entries).entries, entry.name ∈ used := by
    intro entry member
    exact named entry (by simpa [empty] using registerAll_among entries entry member)
  refine ⟨inStep.unique, ?digests, inStep.single, inStep.acyclic, ?ancestors, ?derives,
    inStep.mem_descendants_iff, descendants_nodup _, ?lineage⟩
  case digests =>
    intro name isUsed
    exact inStep.byDigest_eq inUse distinct isUsed
  case ancestors =>
    intro entry member chain
    have bases := (inStep.ancestors_chain member).1
    constructor
    · exact bases.unique
    · rintro rfl
      exact bases
  case derives =>
    intro a b first second
    exact inStep.derivesFrom_iff first second
  case lineage =>
    intro ty entry found
    exact inStep.isLineage found

/-- A class that comes before its base, which fails, then the root, two classes under it, and one of
them once more. -/
theorem registerAll_coherent_shapes :
    let shape := (Registry.empty.newClass "Shape").derivingFrom "System.Object"
    let circle := (Registry.empty.newClass "Circle").derivingFrom "Shape"
    let entries := [circle, Registry.empty.newBuiltin .object, shape, circle, shape]
    let used : Set String := { name | name ∈ ["System.Object", "Shape", "Circle", "Square"] }
    (∀ entry ∈ entries, entry.name ∈ used) ∧ Set.InjOn Digest.ofType used ∧
      (Registry.empty.registerAll entries).entries.map (·.name) =
        ["System.Object", "Shape", "Circle"] ∧
      (Registry.empty.registerAll entries).Coherent used := by
  intro shape circle entries used
  have named : ∀ entry ∈ entries, entry.name ∈ used := by
    have listed : ∀ entry ∈ entries,
        entry.name ∈ ["System.Object", "Shape", "Circle", "Square"] := by decide +kernel
    exact listed
  have distinct : Set.InjOn Digest.ofType used := by
    have apart : ∀ a ∈ ["System.Object", "Shape", "Circle", "Square"],
        ∀ b ∈ ["System.Object", "Shape", "Circle", "Square"],
          Digest.ofType a = Digest.ofType b → a = b := by decide +kernel
    exact fun a first b second same => apart a first b second same
  exact ⟨named, distinct, by decide +kernel, registerAll_coherent named distinct⟩

end Registry
end Formula
