import Formula.Registry.Basic

/-! Sample classes of a host: particles with a mass, a speed and tags, shapes of which one derives
from the other, and two gauges of one name in different namespaces. -/
namespace Formula.Library

/-- The class of particles. -/
def particleHost : HostClass := ⟨"Physics.Particle", []⟩

/-- The class of shapes. -/
def shapeHost : HostClass := ⟨"Demo.Shape", []⟩

/-- The class of circles, which are shapes. -/
def circleHost : HostClass := ⟨"Demo.Circle", ["Demo.Shape"]⟩

/-- The class of metric gauges. -/
def metricHost : HostClass := ⟨"Metric.Gauge", []⟩

/-- The class of imperial gauges. -/
def imperialHost : HostClass := ⟨"Imperial.Gauge", []⟩

/-- A particle without tags. -/
def particle (mass speed : Float) : Payload :=
  .record [("mass", .double mass), ("speed", .double speed)] []

/-- A circle. -/
def circle (radius : Float) : Payload := .record [("radius", .double radius)] []

/-- An object without contents. -/
def plain : Payload := .record [] []

/-- A field that holds a number. -/
def numberField (name : String) (cell : Nat) : Action NativeError Float := do
  match ← Action.look (·.field cell name) with
  | .double x => return x
  | _ => return 0

/-- Sets a field that holds a number. -/
def setNumber (name : String) (cell : Nat) (x : Float) : Action NativeError Unit :=
  Action.putField cell name (.double x)

/-- The energy of a particle. -/
def particleEnergy (cell : Nat) : Action NativeError Float := do
  let mass ← numberField "mass" cell
  let speed ← numberField "speed" cell
  return 0.5 * mass * speed * speed

/-- The number of tags of a particle. -/
def tagCount (cell : Nat) : Action NativeError (Word .int) := do
  return Word.ofInt .int (← Action.look (·.row cell)).length

/-- Adds a tag to a particle. -/
def addTag (cell : Nat) (tag : String) : Action NativeError Unit := Action.append cell (.string tag)

/-- The tag of a particle at a place, if there is one. -/
def tagAt (cell : Nat) (index : Word .int) : Action NativeError (Option String) := do
  let tags ← Action.look (·.row cell)
  match if index.val < 0 then none else tags[index.val.toNat]? with
  | some (.string tag) => return some tag
  | _ => return none

/-- A new particle with a multiple of the mass. -/
def scaledParticle (cell : Nat) (factor : Float) : Action NativeError Nat := do
  Action.allocate (particle ((← numberField "mass" cell) * factor) 0)

/-- The mass of a particle plus one of two numbers. -/
def mixParticle (cell : Nat) (a : Word .int) (b : Float) (first : Bool) :
    Action NativeError Float := do
  return (← numberField "mass" cell) + if first then Floating.doubleOfInt a.val else b

/-- A property of a particle that can be read and written. -/
def withNumber (entry : Entry) (name field : String) : Entry :=
  entry.withProperty name .double MemberFlags.instanceMember
    (Native.method particleHost [] .double (numberField field))
    (some (Native.method particleHost [.double] .unit (setNumber field)))

/-- Particles. -/
def particleClass (registry : Registry) : Entry :=
  withNumber (withNumber
    (registry.newHostClass particleHost
      |>.withConstructor [] (Native.create particleHost [] (particle 0 0))
      |>.withConstructor [.double]
        (Native.create particleHost [.double] fun (mass : Float) => particle mass 0))
    "Mass" "mass") "Speed" "speed"
    |>.withReadOnly "Energy" .double (Native.method particleHost [] .double particleEnergy)
    |>.withReadOnly "TagCount" .int (Native.method particleHost [] .int tagCount)
    |>.withMethod "Add" [.string] .void (Native.method particleHost [.string] .unit addTag)
    |>.withMethod "Scaled" [.double] (.named particleHost.name)
      (Native.method particleHost [.double] (.handle particleHost) scaledParticle)
    |>.withMethod "Mix" [.int, .double, .bool] .double
      (Native.method particleHost [.int, .double, .bool] .double mixParticle)
    |>.withFunction "Origin" [] .string "lab"
    |>.withProperty "Limit" .long MemberFlags.staticMember
      (Native.constant .long (Word.ofInt .long 99)) none
    |>.withIndexer "Item" [.int] .string
      (Native.method particleHost [.int] (.optional .string) tagAt)

/-- The name of the kind of a shape. -/
def shapeKind (_ : Nat) : Action NativeError String := return "shape"

/-- The sum of four numbers of sides. -/
def sumSides (a b c d : Word .int) : Word .int := ((a.add b).add c).add d

/-- Shapes. -/
def shapeClass (registry : Registry) : Entry :=
  registry.newHostClass shapeHost
    |>.withConstructor [] (Native.create shapeHost [] plain)
    |>.withMethod "Kind" [] .string (Native.method shapeHost [] .string shapeKind)
    |>.withFunction "Sides" [.int, .int, .int, .int] .int sumSides

/-- Circles. -/
def circleClass (registry : Registry) : Entry :=
  registry.newHostClass circleHost
    |>.withConstructor [.double]
      (Native.create circleHost [.double] fun (radius : Float) => circle radius)
    |>.withReadOnly "Radius" .double
      (Native.method circleHost [] .double (numberField "radius"))

/-- Gauges that measure in a unit. -/
def gaugeClass (host : HostClass) (unit : String) (registry : Registry) : Entry :=
  registry.newHostClass host
    |>.withConstructor [] (Native.create host [] plain)
    |>.withMethod "Unit" [] .string
      (Native.method host [] .string fun _ => (return unit : Action NativeError String))

/-- Registers the sample classes. -/
def addSamples (registry : Registry) : Except RegistrationError Registry := do
  let registry ← registry.add (particleClass registry)
  let registry ← registry.add (shapeClass registry)
  let registry ← registry.add (circleClass registry)
  let registry ← registry.add (gaugeClass metricHost "mm" registry)
  registry.add (gaugeClass imperialHost "in" registry)

end Formula.Library
