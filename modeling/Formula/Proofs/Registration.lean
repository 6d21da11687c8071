import Formula.Proofs.Ancestry
import Formula.Registry.Universe

/-! What is left of a registration that failed. A name that is taken changes nothing at all. A base
that is not registered leaves the name of the type in the inheritance graph: entries and edges are
as before, and so are all answers, at once and after any further registrations, except that the name
now derives from itself. -/
namespace Formula

namespace Hierarchy

/-- Two graphs with the same edges, of which the second has seen one name besides. -/
structure SeenBesides (name : String) (graph more : Hierarchy) : Prop where
  edges : more.edges = graph.edges
  nodes : ∀ x, x ∈ more.nodes ↔ x ∈ graph.nodes ∨ x = name

variable {graph more : Hierarchy} {name a b x : String}

theorem setBase_nodes : (graph.setBase a b).nodes = ((graph.addType a).addType b).nodes := by
  simp only [setBase]
  split <;> rfl

theorem setBase_edges : (graph.setBase a b).edges =
    if graph.edges.contains (a, b) then graph.edges else (a, b) :: graph.edges := by
  simp only [setBase, addType_edges]
  split
  · rw [addType_edges, addType_edges]
  · rfl

theorem SeenBesides.addType (besides : SeenBesides name graph more) (a : String) :
    SeenBesides name (graph.addType a) (more.addType a) where
  edges := by rw [addType_edges, addType_edges, besides.edges]
  nodes x := by
    rw [mem_addType, mem_addType, besides.nodes]
    exact or_right_comm

theorem SeenBesides.setBase (besides : SeenBesides name graph more) (a b : String) :
    SeenBesides name (graph.setBase a b) (more.setBase a b) where
  edges := by rw [setBase_edges, setBase_edges, besides.edges]
  nodes x := by
    rw [setBase_nodes, setBase_nodes]
    exact ((besides.addType a).addType b).nodes x

end Hierarchy

namespace Registry

/-- Two registries with the same entries, of which the second has seen one name besides. -/
structure SeenBesides (name : String) (before after : Registry) : Prop where
  entries : after.entries = before.entries
  graph : Hierarchy.SeenBesides name before.hierarchy after.hierarchy

variable {registry before after : Registry} {entry : Entry} {error : RegistrationError}
  {name a b : String} {chain : List String}

theorem get?_congr (entries : after.entries = before.entries) : after.get? = before.get? := by
  funext name
  simp only [get?, entries]

section Steps

/-- A registration fails for a name that is taken or for a base that is not registered. -/
theorem register_failed_cases (failed : registry.register entry = (.error error, after)) :
    registry.contains entry.name ∧ error = .duplicateType entry.name ∧ after = registry ∨
      ∃ base, entry.base = some base ∧ error = .unknownBase entry.name base ∧
        after = { registry with hierarchy := registry.hierarchy.addType entry.name } := by
  unfold register at failed
  by_cases taken : registry.contains entry.name
  · rw [if_pos taken] at failed
    cases failed
    exact .inl ⟨taken, rfl, rfl⟩
  · rw [if_neg taken] at failed
    cases declared : entry.base with
    | none =>
      simp only [declared] at failed
      cases failed
    | some base =>
      simp only [declared] at failed
      by_cases known : registry.contains base
      · rw [if_pos known] at failed
        cases failed
      · rw [if_neg known] at failed
        cases failed
        exact .inr ⟨base, rfl, rfl, rfl⟩

/-- What has been seen by the graph includes the names that are taken. -/
theorem InStep.seen_of_contains (inStep : registry.InStep) (taken : registry.contains name) :
    name ∈ registry.hierarchy.nodes := by
  obtain ⟨entry, found⟩ := contains_iff.mp taken
  rw [← get?_name found]
  exact inStep.known entry (mem_of_get? found)

/-- A registration that fails leaves no more than a name that has been seen. -/
theorem InStep.seenBesides (inStep : registry.InStep)
    (failed : registry.register entry = (.error error, after)) :
    SeenBesides entry.name registry after := by
  obtain ⟨taken, -, rfl⟩ | ⟨base, -, -, rfl⟩ := register_failed_cases failed
  · refine ⟨rfl, rfl, fun x => ⟨.inl, ?_⟩⟩
    rintro (seen | rfl)
    · exact seen
    · exact inStep.seen_of_contains taken
  · exact ⟨rfl, Hierarchy.addType_edges, fun x => Hierarchy.mem_addType⟩

/-- Where the name had been seen before, a registration that fails leaves nothing. -/
theorem eq_of_register_failed (failed : registry.register entry = (.error error, after))
    (seen : entry.name ∈ registry.hierarchy.nodes) : after = registry := by
  obtain ⟨-, -, same⟩ | ⟨base, -, -, rfl⟩ := register_failed_cases failed
  · exact same
  · rw [Hierarchy.addType_known seen]

/-- One more name that has been seen changes neither how a registration ends nor what it adds. -/
theorem SeenBesides.register (besides : SeenBesides name before after) (entry : Entry) :
    (after.register entry).1 = (before.register entry).1 ∧
      SeenBesides name (before.register entry).2 (after.register entry).2 := by
  have sameNames : after.contains = before.contains := by
    funext name
    rw [contains, contains, get?_congr besides.entries]
  have graph := besides.graph.addType entry.name
  unfold Registry.register
  rw [sameNames]
  by_cases taken : before.contains entry.name
  · rw [if_pos taken, if_pos taken]
    exact ⟨rfl, besides⟩
  rw [if_neg taken, if_neg taken]
  cases entry.base with
  | none => exact ⟨rfl, congrArg (· ++ [entry]) besides.entries, graph⟩
  | some base =>
    simp only
    by_cases known : before.contains base
    · rw [if_pos known, if_pos known]
      exact ⟨rfl, congrArg (· ++ [entry]) besides.entries, graph.setBase entry.name base⟩
    · rw [if_neg known, if_neg known]
      exact ⟨rfl, besides.entries, graph⟩

theorem SeenBesides.registerAll (besides : SeenBesides name before after) (entries : List Entry) :
    SeenBesides name (before.registerAll entries) (after.registerAll entries) := by
  induction entries generalizing before after with
  | nil => exact besides
  | cons entry entries ih => exact ih (besides.register entry).2

end Steps

section Answers

theorem BaseChain.congr (entries : after.entries = before.entries)
    (bases : before.BaseChain name chain) : after.BaseChain name chain := by
  induction bases with
  | root found noBase =>
    rw [← get?_congr entries] at found
    exact .root found noBase
  | derived found declared _ ih =>
    rw [← get?_congr entries] at found
    exact .derived found declared ih

/-- Ancestors are a matter of the entries alone. -/
theorem InStep.ancestors_congr (first : before.InStep) (second : after.InStep)
    (entries : after.entries = before.entries) :
    after.hierarchy.ancestors = before.hierarchy.ancestors := by
  funext name
  cases found : before.get? name with
  | none =>
    rw [first.ancestors_unregistered found]
    rw [← get?_congr entries] at found
    rw [second.ancestors_unregistered found]
  | some entry =>
    obtain rfl := get?_name found
    have member := mem_of_get? found
    have bases := (first.ancestors_chain member).1
    rw [← entries] at member
    exact (second.ancestors_chain member).1.unique (bases.congr entries)

theorem lineage_congr (entries : after.entries = before.entries)
    (ancestors : after.hierarchy.ancestors = before.hierarchy.ancestors) :
    after.lineage = before.lineage := by
  funext ty
  simp only [lineage, entryFor?, get?_congr entries, ancestors]

/-- Between two classes a registry assigns by inheritance, a generic base only where it has the
arguments of the class that derives from it. -/
theorem assignable_cls {args args' : List Ty} : registry.assignable (.cls a args) (.cls b args') ↔
    a = b ∧ args = args' ∨
      (args' = [] ∨ args = args') ∧ registry.hierarchy.derivesFrom a b = true := by
  simp [assignable]

/-- Everywhere else the inheritance graph does not matter. -/
theorem assignable_congr {source target : Ty} (differ : ∀ name args name' args',
      ¬ (source = .cls name args ∧ target = .cls name' args')) :
    after.assignable source target = before.assignable source target := by
  unfold assignable
  by_cases same : source = target ∨ target = .object
  · rw [if_pos same, if_pos same]
  · rw [if_neg same, if_neg same]
    split
    case h_3 name args name' args' => exact absurd ⟨rfl, rfl⟩ (differ name args name' args')
    all_goals rfl

/-- What a registry is asked is a matter of its entries and lineages, but for what is assignable. -/
theorem toUniverse_congr (entries : after.entries = before.entries)
    (lineages : after.lineage = before.lineage) :
    { after.toUniverse with assignable := before.assignable } = before.toUniverse := by
  have found := get?_congr entries
  have declaring : after.entryFor? = before.entryFor? := by
    funext ty
    rw [entryFor?, entryFor?, found]
  simp only [toUniverse, Universe.mk.injEq, and_true]
  refine ⟨?_, ?_, ?_, ?_, ?_, ?_⟩
  · funext name
    rw [resolveName, resolveName, found]
  · funext definition args
    simp only [instantiate, found]
  · funext ty name wantStatic
    simp only [member, lineages]
  · funext ty name args wantStatic
    simp only [method, lineages]
  · funext ty args
    simp only [creator, declaring]
  · funext ty
    simp only [indexer, lineages]

/-- The name that has been seen besides derives from itself; all else derives from what it did. -/
theorem SeenBesides.derivesFrom_iff (besides : SeenBesides name before after) (first : before.InStep)
    (second : after.InStep) : after.hierarchy.derivesFrom a b = true ↔
      before.hierarchy.derivesFrom a b = true ∨ a = name ∧ b = name := by
  rw [first.derivesFrom_cases, second.derivesFrom_cases,
    first.ancestors_congr second besides.entries, besides.graph.nodes]
  constructor
  · rintro (⟨rfl, known | rfl⟩ | above)
    · exact .inl (.inl ⟨rfl, known⟩)
    · exact .inr ⟨rfl, rfl⟩
    · exact .inl (.inr above)
  · rintro ((⟨rfl, known⟩ | above) | ⟨rfl, rfl⟩)
    · exact .inl ⟨rfl, .inl known⟩
    · exact .inr above
    · exact .inl ⟨rfl, .inr rfl⟩

/-- Instantiations of the name that has been seen besides may stand for the name without arguments. -/
theorem SeenBesides.assignable_iff {source target : Ty} (besides : SeenBesides name before after)
    (first : before.InStep) (second : after.InStep) : after.assignable source target ↔
      before.assignable source target ∨ ∃ args, source = .cls name args ∧ target = .named name := by
  by_cases classes : ∃ a args b args', source = .cls a args ∧ target = .cls b args'
  · obtain ⟨a, args, b, args', rfl, rfl⟩ := classes
    rw [assignable_cls, assignable_cls, besides.derivesFrom_iff first second]
    constructor
    · rintro (same | ⟨given, derives | ⟨rfl, rfl⟩⟩)
      · exact .inl (.inl same)
      · exact .inl (.inr ⟨given, derives⟩)
      · rcases given with rfl | rfl
        · exact .inr ⟨args, rfl, rfl⟩
        · exact .inl (.inl ⟨rfl, rfl⟩)
    · rintro ((same | ⟨given, derives⟩) | ⟨given, isName, isNamed⟩)
      · exact .inl same
      · exact .inr ⟨given, .inl derives⟩
      · cases isName
        cases isNamed
        exact .inr ⟨.inl rfl, .inr ⟨rfl, rfl⟩⟩
  · have same : after.assignable source target = before.assignable source target := by
      apply assignable_congr
      rintro a args b args' ⟨isSource, isTarget⟩
      exact classes ⟨a, args, b, args', isSource, isTarget⟩
    rw [same]
    constructor
    · exact .inl
    · rintro (assigned | ⟨args, isName, isNamed⟩)
      · exact assigned
      · exact absurd ⟨_, _, _, _, isName, isNamed⟩ classes

end Answers

/-- Two registries that tell all the same, except that in the second one name derives from itself. -/
structure TellsSame (name : String) (before after : Registry) : Prop where
  entries : after.entries = before.entries
  digests : after.byDigest? = before.byDigest?
  edges : after.hierarchy.edges = before.hierarchy.edges
  /-- A registration ends in one as in the other. -/
  outcome : ∀ entry, (after.register entry).1 = (before.register entry).1
  ancestors : after.hierarchy.ancestors = before.hierarchy.ancestors
  lineage : after.lineage = before.lineage
  derives : ∀ a b, after.hierarchy.derivesFrom a b = true ↔
    before.hierarchy.derivesFrom a b = true ∨ a = name ∧ b = name
  descendants : ∀ a b, a ∈ after.hierarchy.descendants b ↔
    a ∈ before.hierarchy.descendants b ∨ a = name ∧ b = name
  world : { after.toUniverse with assignable := before.assignable } = before.toUniverse
  assignable : ∀ source target, after.assignable source target ↔
    before.assignable source target ∨ ∃ args, source = .cls name args ∧ target = .named name

theorem SeenBesides.tellsSame (besides : SeenBesides name before after) (first : before.InStep)
    (second : after.InStep) : TellsSame name before after := by
  have ancestors := first.ancestors_congr second besides.entries
  have lineages := lineage_congr besides.entries ancestors
  refine ⟨besides.entries, ?digests, besides.graph.edges, fun entry => (besides.register entry).1,
    ancestors, lineages, fun a b => besides.derivesFrom_iff first second, ?descendants,
    toUniverse_congr besides.entries lineages, fun _ _ => besides.assignable_iff first second⟩
  case digests =>
    funext digest
    rw [byDigest?, byDigest?, besides.entries]
  case descendants =>
    intro a b
    rw [first.mem_descendants_iff, second.mem_descendants_iff]
    exact besides.derivesFrom_iff first second

/-- A registration that fails for a name that is taken changes nothing. One that fails for its base
changes nothing if the name had been seen before; and if not, all that can be told from the registry
ever after is that the name derives from itself. -/
theorem register_failed {entries : List Entry} {entry : Entry} {error : RegistrationError}
    {after : Registry}
    (failed : (Registry.empty.registerAll entries).register entry = (.error error, after)) :
    let registry := Registry.empty.registerAll entries
    ((∃ taken, error = .duplicateType taken) → after = registry) ∧
      (after = registry ↔ registry.hierarchy.contains entry.name) ∧
      ∀ more, TellsSame entry.name (registry.registerAll more) (after.registerAll more) := by
  intro registry
  have inStep : registry.InStep := inStep_empty.registerAll entries
  have besides := inStep.seenBesides failed
  have still : after.InStep := by
    have step := inStep.register entry
    rwa [failed] at step
  refine ⟨?taken, ?same, fun more => ?later⟩
  case taken =>
    rintro ⟨taken, rfl⟩
    obtain ⟨-, -, same⟩ | ⟨base, -, different, -⟩ := register_failed_cases failed
    · exact same
    · cases different
  case same =>
    rw [Hierarchy.contains_iff]
    constructor
    · intro same
      have seen := (besides.graph.nodes entry.name).mpr (.inr rfl)
      rwa [same] at seen
    · exact eq_of_register_failed failed
  case later =>
    exact (besides.registerAll more).tellsSame (inStep.registerAll more) (still.registerAll more)

/-- A class over a base that is not registered, which is registered afterwards together with it. -/
theorem register_failed_shapes :
    let circle := (Registry.empty.newClass "Circle").derivingFrom "Shape"
    let square := (Registry.empty.newClass "Square").derivingFrom "Shape"
    let registry := Registry.empty.registerAll [circle]
    let after := (registry.register square).2
    let more := [Registry.empty.newClass "Shape", square]
    registry.register square = (.error (.unknownBase "Square" "Shape"), after) ∧
      TellsSame "Square" (registry.registerAll more) (after.registerAll more) := by
  intro circle square registry after more
  have failed : registry.register square = (.error (.unknownBase "Square" "Shape"), after) := rfl
  exact ⟨failed, (register_failed failed).2.2 more⟩

/-- A generic class over a base that is not registered stays in the graph, where its instantiations
now derive from it. -/
theorem register_failed_leaves :
    let ring := (Registry.empty.newClass "Ring`1").derivingFrom "Shape"
    let after := (Registry.empty.register ring).2
    Registry.empty.register ring = (.error (.unknownBase "Ring`1" "Shape"), after) ∧
      after.hierarchy ≠ Registry.empty.hierarchy ∧
      Registry.empty.assignable (.cls "Ring`1" [.int]) (.named "Ring`1") = false ∧
      after.assignable (.cls "Ring`1" [.int]) (.named "Ring`1") = true := by
  intro ring after
  refine ⟨rfl, ?_, ?_, ?_⟩
  · intro same
    cases congrArg Hierarchy.nodes same
  · decide +kernel
  · decide +kernel

end Registry
end Formula
