import Formula.Registry.Entry
import Formula.Registry.Hierarchy

/-! The registry of types: entries by name in the order of registration, and the inheritance graph
between them. A base must be registered before the types that derive from it. -/
namespace Formula

/-- Why a type could not be registered. -/
inductive RegistrationError where
  | duplicateType (name : String)
  | unknownBase (name base : String)
  deriving DecidableEq

/-- The name of a registration error. -/
def RegistrationError.name : RegistrationError → String
  | duplicateType _ => "DuplicateType"
  | unknownBase _ _ => "UnknownBase"

/-- How a registration error reads. -/
def RegistrationError.message : RegistrationError → String
  | duplicateType name => s!"type '{name}' is already registered"
  | unknownBase name base => s!"type '{name}' derives from unregistered type '{base}'"

/-- The types that are known. -/
structure Registry where
  entries : List Entry
  hierarchy : Hierarchy

namespace Registry

/-- The registry of no types. -/
def empty : Registry := ⟨[], Hierarchy.empty⟩

/-- The entry with a name. -/
def get? (registry : Registry) (name : String) : Option Entry :=
  registry.entries.find? (·.name == name)

/-- Whether a name is registered. -/
def contains (registry : Registry) (name : String) : Bool := (registry.get? name).isSome

/-- The number of registered types. -/
def size (registry : Registry) : Nat := registry.entries.length

/-- The entry whose name has a digest. -/
def byDigest? (registry : Registry) (digest : Digest) : Option Entry :=
  registry.entries.reverse.find? (·.digest == digest)

/-- Registers an entry. A name that is taken changes nothing; an unknown base leaves the type in the
inheritance graph only. -/
def register (registry : Registry) (entry : Entry) : Except RegistrationError Unit × Registry :=
  if registry.contains entry.name then (.error (.duplicateType entry.name), registry)
  else
    let seen := { registry with hierarchy := registry.hierarchy.addType entry.name }
    match entry.base with
    | none => (.ok (), { seen with entries := seen.entries ++ [entry] })
    | some base =>
      if registry.contains base then
        (.ok (), ⟨seen.entries ++ [entry], seen.hierarchy.setBase entry.name base⟩)
      else (.error (.unknownBase entry.name base), seen)

/-- Registers an entry or stops with the error. -/
def add (registry : Registry) (entry : Entry) : Except RegistrationError Registry :=
  match registry.register entry with
  | (.ok (), after) => .ok after
  | (.error e, _) => .error e

/-- The base of a new class: the root, once that is registered. -/
def defaultBase (registry : Registry) (name : String) : Option String :=
  if name ≠ rootName ∧ registry.contains rootName then some rootName else none

/-- A new class without members. -/
def newClass (registry : Registry) (name : String) : Entry :=
  Entry.new name (.named name) .instantiable (registry.defaultBase name)

/-- A new class that is backed by a class of the host and derives from the nearest of its bases. -/
def newHostClass (registry : Registry) (host : HostClass) : Entry :=
  match host.bases with
  | [] => registry.newClass host.name
  | base :: _ => (registry.newClass host.name).derivingFrom base

/-- A new entry for a type that is built into the language. -/
def newBuiltin (registry : Registry) (ty : Ty) : Entry :=
  Entry.new ty.entryName ty .builtin (registry.defaultBase ty.entryName)

/-- The entry that declares the members of a type. -/
def entryFor? (registry : Registry) (ty : Ty) : Option Entry := registry.get? ty.entryName

/-- The entry of a type followed by the entries of its ancestors, nearest first, and by the root if
that is not among them. -/
def lineage (registry : Registry) (ty : Ty) : List Entry :=
  match registry.entryFor? ty with
  | none => []
  | some entry =>
    let chain := entry :: (registry.hierarchy.ancestors entry.name).filterMap registry.get?
    if entry.name = rootName ∨ chain.any (·.name == rootName) then chain
    else chain ++ (registry.get? rootName).toList

end Registry
end Formula
