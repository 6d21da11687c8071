import Formula.Registry.Basic

/-! Random numbers. An object of this class is a generator with a state that every draw advances;
equal seeds give equal sequences, and a seed and its negative are the same. -/
namespace Formula.Library

/-- The class of generators. -/
def randomHost : HostClass := ⟨"System.Random", []⟩

/-- One draw: the next state, and 64 bits mixed from it. -/
def draw (state : UInt64) : UInt64 × UInt64 :=
  let state := state + 0x9E3779B97F4A7C15
  let z := (state ^^^ (state >>> 30)) * 0xBF58476D1CE4E5B9
  let z := (z ^^^ (z >>> 27)) * 0x94D049BB133111EB
  (state, z ^^^ (z >>> 31))

/-- The state that a seed starts from. -/
def seedState (seed : Int) : UInt64 := seed.natAbs.toUInt64

/-- Draws from the generator in a cell. -/
def drawFrom (cell : Nat) : Action NativeError UInt64 := do
  let (state, bits) := draw (← Action.look (·.generator cell))
  Action.put cell (.generator state)
  return bits

/-- An integer from `low` up to but not including `high`; an empty range gives `low` and draws
nothing. -/
def drawBetween (cell : Nat) (low high : Int) : Action NativeError Int := do
  if high ≤ low then return low
  else return low + ((← drawFrom cell).toNat : Int) % (high - low)

/-- A number from zero up to but not including one. -/
def drawUnit (cell : Nat) : Action NativeError Float := do
  return Floating.doubleOfRatio false ((← drawFrom cell) >>> 11).toNat (pow2 53)

/-- A non-negative integer. -/
def drawAny (cell : Nat) : Action NativeError (Word .int) := do
  return Word.ofInt .int (← drawBetween cell 0 IntKind.int.greatest)

/-- An integer of a range whose ends are in order. -/
def nextBounded (call : Call) (low high : Int) : Action NativeError Value := do
  if high < low then throw (.other s!"minValue {low} is greater than maxValue {high}")
  else return .int (← drawBetween (← call.receiverOf randomHost) low high)

/-- Generators of random numbers. -/
def randomClass (registry : Registry) : Entry :=
  registry.newHostClass randomHost
    |>.withConstructor [] (fun call => do
      Action.newObject call.declaring randomHost (.generator (← Action.look (·.next)).toUInt64))
    |>.withConstructor [.int] (Native.create randomHost [.int] fun (seed : Word .int) =>
      .generator (seedState seed.val))
    |>.withMethod "Next" [] .int (Native.method randomHost [] .int drawAny)
    |>.withMethod "Next" [.int] .int (fun call => do
      let high ← call.arg .int 0
      nextBounded call 0 high.val)
    |>.withMethod "Next" [.int, .int] .int (fun call => do
      let low ← call.arg .int 0
      let high ← call.arg .int 1
      nextBounded call low.val high.val)
    |>.withMethod "NextDouble" [] .double (Native.method randomHost [] .double drawUnit)

/-- Registers the generators. -/
def addRandom (registry : Registry) : Except RegistrationError Registry :=
  registry.add (randomClass registry)

end Formula.Library
