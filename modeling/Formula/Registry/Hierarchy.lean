/-! The inheritance graph between types. Nodes are types by name, in the order in which they were
first seen; an edge goes from a type to one it derives from, newest edge first. -/
namespace Formula

/-- An inheritance graph. A node stands for a type by its name. Where types are told apart by the 64-bit
digests of their names (`Digest.ofType`), this is the graph of them as long as no two of the names
have one digest: the digest is taken to be injective on the names in use, and nothing is said of
types whose digests collide. -/
structure Hierarchy where
  nodes : List String
  edges : List (String × String)
  deriving DecidableEq

namespace Hierarchy

/-- The graph of no types. -/
def empty : Hierarchy := ⟨[], []⟩

/-- Whether a type has been seen. -/
def contains (graph : Hierarchy) (name : String) : Bool := graph.nodes.contains name

/-- Adds a type. -/
def addType (graph : Hierarchy) (name : String) : Hierarchy :=
  if graph.contains name then graph else { graph with nodes := graph.nodes ++ [name] }

/-- The number of a type: how many were seen before it. -/
def indexOf (graph : Hierarchy) (name : String) : Nat := graph.nodes.idxOf name

/-- Makes one type derive from another; an edge that is there already is not added again. -/
def setBase (graph : Hierarchy) (derived base : String) : Hierarchy :=
  let graph := (graph.addType derived).addType base
  if graph.edges.contains (derived, base) then graph
  else { graph with edges := (derived, base) :: graph.edges }

/-- The type that a type derives from by its newest edge. -/
def base? (graph : Hierarchy) (name : String) : Option String :=
  (graph.edges.find? (·.1 == name)).map (·.2)

/-- Follows the newest edges from a type, as long as they lead to types not met before; `steps`
bounds the walk. -/
def climb (graph : Hierarchy) (start : String) : Nat → List String → String → List String
  | 0, met, _ => met
  | steps + 1, met, current =>
    match graph.base? current with
    | none => met
    | some next =>
      if next = start ∨ met.contains next then met
      else climb graph start steps (met ++ [next]) next

/-- The strict ancestors of a type, nearest first. -/
def ancestors (graph : Hierarchy) (name : String) : List String :=
  if graph.contains name then climb graph name graph.nodes.length [] name else []

/-- A set of types together with what the edges `edges` lead to from it. -/
def spread (edges : List (String × String)) (met : List String) : List String :=
  edges.foldl (fun met edge =>
    if met.contains edge.1 && !met.contains edge.2 then met ++ [edge.2] else met) met

/-- Spreads a set of types a number of times. -/
def spreads (edges : List (String × String)) : Nat → List String → List String
  | 0, met => met
  | rounds + 1, met => spreads edges rounds (spread edges met)

/-- Whether one type is another or inherits from it along some path. -/
def derivesFrom (graph : Hierarchy) (derived base : String) : Bool :=
  graph.contains derived && graph.contains base
    && (spreads graph.edges graph.nodes.length [derived]).contains base

/-- A type and all that inherit from it. -/
def descendants (graph : Hierarchy) (name : String) : List String :=
  if graph.contains name then
    spreads (graph.edges.map fun edge => (edge.2, edge.1)) graph.nodes.length [name]
  else []

end Hierarchy
end Formula
