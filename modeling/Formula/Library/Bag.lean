import Formula.Registry.Basic

/-! Bags: objects with named fields and a row of values, for classes that are declared by data and
have no code of their own. A declaration chooses what its members do from a short list. -/
namespace Formula.Library

/-- The class of bags. -/
def bagHost : HostClass := ⟨"Test.Bag", []⟩

/-- A new bag with nothing in it. -/
def emptyBag : Payload := .record [] []

/-- What a declared member does. -/
inductive Behaviour where
  /-- Gives the receiver. -/
  | this
  /-- Gives the receiver, which is a text. -/
  | thisText
  /-- Gives the type on which the member was found. -/
  | declaring
  /-- Counts the arguments. -/
  | argumentCount
  /-- Creates a bag. -/
  | create
  /-- Appends the first argument to the row of the receiver. -/
  | append
  | constant (value : Value)
  | argument (index : Nat)
  | fail (message : String)
  /-- Reads a field of the receiver. -/
  | read (field : String)
  /-- Writes the first argument to a field of the receiver. -/
  | write (field : String)

/-- The callable of a behaviour. -/
def Behaviour.native : Behaviour → Native
  | this => fun call => call.receiver
  | thisText => fun call => do return .string (← call.receiverText)
  | declaring => fun call => return .type call.declaring
  | argumentCount => fun call => return .int call.args.length
  | create => fun call => Action.newObject call.declaring bagHost emptyBag
  | append => fun call => do
    let value ← call.argument 0
    let cell ← call.receiverOf bagHost
    Action.append cell value
    return .null
  | constant value => fun _ => return value
  | argument index => fun call => call.argument index
  | fail message => fun _ => throw (.other message)
  | read field => fun call => do
    let cell ← call.receiverOf bagHost
    Action.look (·.field cell field)
  | write field => fun call => do
    let value ← call.argument 0
    let cell ← call.receiverOf bagHost
    Action.putField cell field value
    return .null

end Formula.Library
