import Formula.Failure
import Formula.Key

/-! The store: what lies behind the handles of objects. A running formula reads and changes the store
through the callables of its members, and what was changed before a failure stays changed. -/
namespace Formula

/-- What an object holds. -/
inductive Payload where
  /-- A list of values. -/
  | list (items : List Value)
  /-- A dictionary, in the order in which its entries were added. -/
  | dictionary (entries : List (Key × Value))
  /-- A generator of random numbers. -/
  | generator (state : UInt64)
  /-- An object of the host: named fields and a row of values. -/
  | record (fields : List (String × Value)) (items : List Value)

/-- The cells in use, the first number that neither a cell nor an array has, and where objects lie. A
cell is never used for another object, but an address is. -/
structure Store where
  next : Nat
  cells : List (Nat × Payload)
  /-- The address of the object of a cell. Objects that exist at the same time lie apart; where one is
  gone, another may come to lie. -/
  address : Nat → Nat

namespace Store

/-- The store in which nothing has been created, and no address is used twice. -/
def empty : Store := ⟨0, [], id⟩

/-- What a cell holds. -/
def payload? (store : Store) (cell : Nat) : Option Payload :=
  (store.cells.find? (·.1 == cell)).map (·.2)

/-- The items of a list cell. -/
def items (store : Store) (cell : Nat) : List Value :=
  match store.payload? cell with
  | some (.list items) => items
  | _ => []

/-- The entries of a dictionary cell. -/
def entries (store : Store) (cell : Nat) : List (Key × Value) :=
  match store.payload? cell with
  | some (.dictionary entries) => entries
  | _ => []

/-- The state of a generator cell. -/
def generator (store : Store) (cell : Nat) : UInt64 :=
  match store.payload? cell with
  | some (.generator state) => state
  | _ => 0

/-- The fields of a host object. -/
def fields (store : Store) (cell : Nat) : List (String × Value) :=
  match store.payload? cell with
  | some (.record fields _) => fields
  | _ => []

/-- A field of a host object, or `null`. -/
def field (store : Store) (cell : Nat) (name : String) : Value :=
  (((store.fields cell).find? (·.1 == name)).map (·.2)).getD .null

/-- The row of values of a host object. -/
def row (store : Store) (cell : Nat) : List Value :=
  match store.payload? cell with
  | some (.record _ items) => items
  | _ => []

/-- Puts a payload into a cell. -/
def put (store : Store) (cell : Nat) (payload : Payload) : Store :=
  { store with cells := (cell, payload) :: store.cells.filter (·.1 != cell) }

/-- Sets a field of a host object. -/
def putField (store : Store) (cell : Nat) (name : String) (value : Value) : Store :=
  store.put cell (.record ((store.fields cell).filter (·.1 != name) ++ [(name, value)])
    (store.row cell))

/-- Appends to the row of values of a host object. -/
def append (store : Store) (cell : Nat) (value : Value) : Store :=
  store.put cell (.record (store.fields cell) (store.row cell ++ [value]))

/-- A number that nothing else has. -/
def fresh (store : Store) : Nat × Store := (store.next, { store with next := store.next + 1 })

/-- A new cell with a payload. -/
def allocate (store : Store) (payload : Payload) : Nat × Store :=
  (store.next, { store with next := store.next + 1, cells := (store.next, payload) :: store.cells })

end Store

/-- A computation that changes the store and may fail. -/
abbrev Action (ε : Type) (α : Type) : Type := ExceptT ε (StateM Store) α

namespace Action

/-- A number that nothing else has. -/
def fresh {ε : Type} : Action ε Nat := modifyGet Store.fresh

/-- A new cell with a payload. -/
def allocate {ε : Type} (payload : Payload) : Action ε Nat :=
  modifyGet fun store => store.allocate payload

/-- Puts a payload into a cell. -/
def put {ε : Type} (cell : Nat) (payload : Payload) : Action ε Unit :=
  modify fun store => store.put cell payload

/-- Sets a field of a host object. -/
def putField {ε : Type} (cell : Nat) (name : String) (value : Value) : Action ε Unit :=
  modify fun store => store.putField cell name value

/-- Appends to the row of values of a host object. -/
def append {ε : Type} (cell : Nat) (value : Value) : Action ε Unit :=
  modify fun store => store.append cell value

/-- Reads from the store. -/
def look {ε α : Type} (read : Store → α) : Action ε α := do return read (← get)

/-- A computation whose outcome is already known. -/
def ofExcept {ε α : Type} : Except ε α → Action ε α
  | .ok a => pure a
  | .error e => throw e

/-- The same computation with its failures seen as others. -/
def mapError {ε ε' α : Type} (f : ε → ε') (action : Action ε α) : Action ε' α :=
  fun store => match action store with
    | (.ok a, after) => (.ok a, after)
    | (.error e, after) => (.error (f e), after)

/-- A new array. -/
def newArray {ε : Type} (element : Ty) (items : List Value) : Action ε Value := do
  return .array (← fresh) element items

/-- A new object of a class. -/
def newObject {ε : Type} (ty : Ty) (host : HostClass) (payload : Payload) : Action ε Value := do
  return .object ⟨ty, host, ← allocate payload⟩

end Action
end Formula
