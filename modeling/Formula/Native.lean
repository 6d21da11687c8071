import Formula.Host

/-! Callables behind members. A callable is given the receiver, if there is one, the arguments and
the type on which the member was found, and computes a value against the store. -/
namespace Formula

/-- What a callable is given. -/
structure Call where
  this : Option Value
  args : List Value
  declaring : Ty

/-- A callable of the host. -/
abbrev Native : Type := Call → Action NativeError Value

namespace Call

/-- The argument at an index. -/
def argument (call : Call) (index : Nat) : Action NativeError Value :=
  match call.args[index]? with
  | some value => pure value
  | none => throw (.argumentIndex index call.args.length)

/-- The argument at an index as a host value. -/
def arg (call : Call) (shape : HostType) (index : Nat) : Action NativeError shape.Carrier := do
  match shape.ofValue (← call.argument index) with
  | .ok x => pure x
  | .error mismatch => throw (.argumentType index mismatch)

/-- The receiver. -/
def receiver (call : Call) : Action NativeError Value :=
  match call.this with
  | some value => pure value
  | none => throw .missingReceiver

/-- The cell of the receiver, which is an object of a class of the host. -/
def receiverOf (call : Call) (host : HostClass) : Action NativeError Nat := do
  match (HostType.handle host).ofValue (← call.receiver) with
  | .ok cell => pure cell
  | .error mismatch => throw (.receiver mismatch)

/-- The receiver as a text. -/
def receiverText (call : Call) : Action NativeError String := do
  match HostType.string.ofValue (← call.receiver) with
  | .ok s => pure s
  | .error mismatch => throw (.receiver mismatch)

end Call

namespace Native

/-- A callable that ignores its call. -/
def constant (shape : HostType) (x : shape.Carrier) : Native := fun _ => shape.toValue x

/-- Host functions of the given shapes. -/
abbrev Function : List HostType → Type → Type
  | [], result => result
  | shape :: rest, result => shape.Carrier → Function rest result

/-- Applies a host function to the arguments from an index on, in order. -/
def applyFrom {α : Type} (call : Call) : (shapes : List HostType) → Nat → Function shapes α →
    Action NativeError α
  | [], _, result => pure result
  | shape :: rest, index, f => do
    let x ← call.arg shape index
    applyFrom call rest (index + 1) (f x)

/-- A host function of its arguments alone. -/
def static (params : List HostType) (result : HostType) (f : Function params result.Carrier) :
    Native := fun call => do
  let x ← applyFrom call params 0 f
  result.toValue x

/-- A host computation on the receiver's cell and the arguments. -/
def method (host : HostClass) (params : List HostType) (result : HostType)
    (f : Nat → Function params (Action NativeError result.Carrier)) : Native := fun call => do
  let cell ← call.receiverOf host
  let x ← (← applyFrom call params 0 (f cell))
  result.toValue x

/-- Creates an object of a class of the host, stamped with the type that is being created. -/
def create (host : HostClass) (params : List HostType) (f : Function params Payload) : Native :=
  fun call => do
    let payload ← applyFrom call params 0 f
    Action.newObject call.declaring host payload

end Native
end Formula
