import Formula.Registry.Basic

/-! Lists and dictionaries. Both are generic definitions, whose members refer to the parameters of
the definition. -/
namespace Formula.Library

/-- The class of lists. -/
def listHost : HostClass := ⟨"System.Collections.Generic.List`1", []⟩

/-- The class of dictionaries. -/
def dictionaryHost : HostClass := ⟨"System.Collections.Generic.Dictionary`2", []⟩

/-- The items of the receiver, which is a list. -/
def listItems (call : Call) : Action NativeError (List Value) := do
  let cell ← call.receiverOf listHost
  Action.look (·.items cell)

/-- The place of a value in a list, or minus one. -/
def placeOf (items : List Value) (value : Value) : Int :=
  match items.findIdx? (·.equals value) with
  | some index => index
  | none => -1

/-- Appends the first argument to the receiver. -/
def listAdd : Native := fun call => do
  let cell ← call.receiverOf listHost
  let value ← call.argument 0
  let items ← Action.look (·.items cell)
  Action.put cell (.list (items ++ [value]))
  return .null

/-- The item of the receiver at a place. -/
def listItem : Native := fun call => do
  let index ← call.arg .int 0
  let items ← listItems call
  match if index.val < 0 then none else items[index.val.toNat]? with
  | some value => return value
  | none =>
    throw (.other s!"index {index.val} is out of range for a list of {items.length} items")

/-- Lists. -/
def listClass (registry : Registry) : Entry :=
  registry.newHostClass listHost
    |>.withConstructor [] (Native.create listHost [] (.list []))
    |>.withMethod "Add" [.param 0] .void listAdd
    |>.withMethod "Contains" [.param 0] .bool (fun call => do
      let items ← listItems call
      return .bool (items.any (·.equals (← call.argument 0))))
    |>.withMethod "IndexOf" [.param 0] .int (fun call => do
      let items ← listItems call
      return .int (placeOf items (← call.argument 0)))
    |>.withReadOnly "Count" .int (fun call => do return .int (← listItems call).length)
    |>.withIndexer "Item" [.int] (.param 0) listItem
    |>.withMethod "ToArray" [] (.array (.param 0)) (fun call => do
      let items ← listItems call
      Action.newArray (call.declaring.args.headD .object) items)

/-- The value under a key. -/
def entryAt? (entries : List (Key × Value)) (key : Key) : Option Value :=
  (entries.find? (·.1.same key)).map (·.2)

/-- The value under the key that another value takes. -/
def valueUnder? (address : Nat → Nat) (entries : List (Key × Value)) (key : Value) : Option Value :=
  (Key.of? address key).bind (entryAt? entries)

/-- The entries with one more, unless its key is taken or has no standing as a key. -/
def insertEntry (address : Nat → Nat) (entries : List (Key × Value)) (key value : Value) :
    Except NativeError (List (Key × Value)) :=
  match Key.of? address key with
  | none => .error (.other s!"{key.ty.text} cannot be used as a key")
  | some projected =>
    if (entryAt? entries projected).isSome then
      .error (.other s!"an item with the key {projected.listing} has already been added")
    else .ok (entries ++ [(projected, value)])

/-- The entries of the receiver, which is a dictionary. -/
def dictionaryEntries (call : Call) : Action NativeError (List (Key × Value)) := do
  let cell ← call.receiverOf dictionaryHost
  Action.look (·.entries cell)

/-- Adds an entry to the receiver. -/
def dictionaryAdd : Native := fun call => do
  let cell ← call.receiverOf dictionaryHost
  let key ← call.argument 0
  let value ← call.argument 1
  let entries ← Action.look (·.entries cell)
  let address ← Action.look (·.address)
  Action.put cell (.dictionary (← Action.ofExcept (insertEntry address entries key value)))
  return .null

/-- The value of the receiver under a key. -/
def dictionaryItem : Native := fun call => do
  let key ← call.argument 0
  let entries ← dictionaryEntries call
  match valueUnder? (← Action.look (·.address)) entries key with
  | some value => return value
  | none => throw (.other s!"the key '{key.text}' was not present")

/-- Dictionaries. -/
def dictionaryClass (registry : Registry) : Entry :=
  registry.newHostClass dictionaryHost
    |>.withConstructor [] (Native.create dictionaryHost [] (.dictionary []))
    |>.withMethod "Add" [.param 0, .param 1] .void dictionaryAdd
    |>.withMethod "ContainsKey" [.param 0] .bool (fun call => do
      let entries ← dictionaryEntries call
      let key ← call.argument 0
      return .bool (valueUnder? (← Action.look (·.address)) entries key).isSome)
    |>.withReadOnly "Count" .int (fun call => do return .int (← dictionaryEntries call).length)
    |>.withIndexer "Item" [.param 0] (.param 1) dictionaryItem

/-- Registers lists and dictionaries. -/
def addCollections (registry : Registry) : Except RegistrationError Registry := do
  let registry ← registry.add (listClass registry)
  registry.add (dictionaryClass registry)

end Formula.Library
