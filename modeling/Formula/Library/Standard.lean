import Formula.Library.Collection
import Formula.Library.Math
import Formula.Library.Random
import Formula.Library.Root
import Formula.Library.Strings

/-! The standard library: the root first, so that every later class derives from it. -/
namespace Formula.Library

/-- Registers the standard library. -/
def addStandard (registry : Registry) : Except RegistrationError Registry := do
  let registry ← addRoot registry
  let registry ← addPrimitives registry
  let registry ← addStrings registry
  let registry ← addMath registry
  let registry ← addRandom registry
  addCollections registry

/-- The registry that holds the standard library and nothing else. -/
def standard : Except RegistrationError Registry := addStandard Registry.empty

end Formula.Library
