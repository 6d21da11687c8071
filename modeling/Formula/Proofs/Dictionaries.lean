import Formula.Library.Collection
import Formula.Proofs.Floats
import Formula.Proofs.HostValues
import Formula.Proofs.Indexers

/-! Dictionaries. Keys are the same where what they are told apart by is the same, so that keys fall
into classes; values share a key where they are equal, and where they are of kinds that keys do not
tell apart. The key of an object is its address, which tells objects apart only while they exist: what
is said of objects is said under the condition that those that were added as keys still do. Whatever
is called on a dictionary, under each key it holds what the first call gave it that added such a key,
and the answer of every call follows from that. -/
namespace Formula

namespace Key

/-- What a key is told apart by: the number of a floating key, the units of a decimal, and otherwise
the key itself. -/
def identity : Key → Key ⊕ Option Float.Model.UnpackedFloat ⊕ Int
  | floating x => .inr (.inl (Floating.number? x))
  | decimal d => .inr (.inr d.units)
  | other => .inl other

/-- Keys are the same where what they are told apart by is. -/
theorem same_iff {a b : Key} : a.same b ↔ a.identity = b.identity := by
  cases a with
  | floating x =>
    cases b with
    | floating y =>
      simp only [same, identity, Bool.or_eq_true, Bool.and_eq_true, Floating.double_beq_iff_number,
        ← Floating.number_none_iff, Sum.inr.injEq, Sum.inl.injEq]
      by_cases none : Floating.number? x = none
      · simp [none, eq_comm]
      · simp [none]
    | _ => simp [same, identity]
  | decimal d => cases b <;> simp [same, identity, Decimal.equals]
  | _ => cases b <;> simp [same, identity]

end Key

namespace Value

/-- A value that is a key and equals itself: neither an array nor a floating value that is not a
number. -/
def isProperKey : Value → Bool
  | array .. => false
  | float x => !x.isNaN
  | double x => !x.isNaN
  | _ => true

/-- Whether values take the same key, where objects lie at these addresses. -/
def sharesKey (address : Nat → Nat) (a b : Value) : Bool :=
  match Key.of? address a, Key.of? address b with
  | some key, some other => key.same other
  | _, _ => false

/-- Two objects that are not the same lie at different addresses, as they do while both exist. -/
def Apart (address : Nat → Nat) : Value → Value → Prop
  | object a, object b => address a.cell = address b.cell → a.cell = b.cell
  | _, _ => True

/-- Values that keys do not tell apart though they are of different kinds, or different types: equal
integers of kinds other than `ulong`, a single and a double of the same value, and types of the same
full name. -/
def confused : Value → Value → Bool
  | integer kind a, integer kind' b => kind != .ulong && kind' != .ulong && a.val == b.val
  | float x, double y => Floating.widen x == y
  | double x, float y => x == Floating.widen y
  | type a, type b => a.fullName == b.fullName
  | _, _ => false

/-- Two floating values that are both not a number. They are not equal, and yet have one key. -/
def bothUnordered : Value → Value → Bool
  | float x, float y => x.isNaN && y.isNaN
  | float x, double y => x.isNaN && y.isNaN
  | double x, float y => x.isNaN && y.isNaN
  | double x, double y => x.isNaN && y.isNaN
  | _, _ => false

/-- Whether one of two values is taken for the other as a key, as long as objects exist. -/
def collides : Value → Value → Bool
  | array .., _ => false
  | a, b => bothUnordered a b || (a.equals b || a.confused b)

variable {address : Nat → Nat} {a b c : Value} {h h' : Handle}

/-- All integers but those of `ulong` are keys of one kind. -/
theorem key_integer {kind : IntKind} (n : Word kind) : Key.of? address (integer kind n)
    = some (if kind = .ulong then .unsignedLong n.val else .integer n.val) := by
  cases kind <;> rfl

/-- Objects share a key just if they lie at the same address, one after the other or both now. -/
theorem sharesKey_object : (object h).sharesKey address (object h')
    = (address h.cell == address h'.cell) := rfl

/-- Integers share a key just if they are the same number, and both of `ulong` or both not. -/
theorem sharesKey_integer {kind kind' : IntKind} (m : Word kind) (n : Word kind') :
    (integer kind m).sharesKey address (integer kind' n)
      = ((integer kind m).equals (integer kind' n) || (integer kind m).confused (integer kind' n)) := by
  rw [sharesKey, key_integer, key_integer, equals, confused]
  by_cases wide : kind = .ulong <;> by_cases wide' : kind' = .ulong
  · simp [wide, wide', Key.same]
  · simp [wide, wide', Key.same, Ne.symm wide']
  · simp [wide, wide', Key.same]
  · simp only [wide, wide', ↓reduceIte, Key.same, bne, beq_eq_false_iff_ne.mpr wide,
      beq_eq_false_iff_ne.mpr wide']
    cases kind == kind' <;> simp

/-- Floating values share a key just if both are no numbers or both are the same. -/
private theorem same_floating (x y : Float) :
    (Key.floating x).same (.floating y) = (x.isNaN && y.isNaN || x == y) := rfl

/-- Values share a key just if they collide. -/
theorem sharesKey_eq (apart : Apart address a b) : a.sharesKey address b = a.collides b := by
  cases a with
  | array => rfl
  | integer kind m =>
    cases b with
    | integer kind' n => exact sharesKey_integer m n
    | _ => cases kind <;> rfl
  | float x =>
    cases b with
    | integer kind => cases kind <;> rfl
    | float y =>
      simp only [sharesKey, Key.of?, same_floating, Floating.widen_isNaN, Floating.widen_beq,
        collides, bothUnordered, equals, confused, Bool.or_false]
    | double y =>
      simp only [sharesKey, Key.of?, same_floating, Floating.widen_isNaN, collides, bothUnordered,
        equals, confused, Bool.false_or]
    | _ => rfl
  | double x =>
    cases b with
    | integer kind => cases kind <;> rfl
    | float y =>
      simp only [sharesKey, Key.of?, same_floating, Floating.widen_isNaN, collides, bothUnordered,
        equals, confused, Bool.false_or]
    | double y =>
      simp only [sharesKey, Key.of?, same_floating, collides, bothUnordered, equals, confused,
        Bool.or_false]
    | _ => rfl
  | type ty =>
    cases b with
    | integer kind => cases kind <;> rfl
    | type ty' =>
      have named : ty = ty' → ty.fullName = ty'.fullName := congrArg Ty.fullName
      rw [Bool.eq_iff_iff]
      simpa [sharesKey, Key.of?, Key.same, collides, bothUnordered, equals, confused] using named
    | _ => rfl
  | object h =>
    cases b with
    | integer kind => cases kind <;> rfl
    | object h' =>
      have same : address h.cell = address h'.cell ↔ h.cell = h'.cell :=
        ⟨apart, congrArg address⟩
      rw [sharesKey_object, Bool.eq_iff_iff]
      simp [collides, bothUnordered, equals, confused, same]
    | _ => rfl
  | _ =>
    cases b with
    | integer kind => cases kind <;> rfl
    | _ => simp [sharesKey, Key.of?, Key.same, collides, bothUnordered, equals, confused]

/-- Proper keys are shared by values that are equal and by those that keys do not tell apart, and by
no others. -/
theorem sharesKey_iff (proper : a.isProperKey) (proper' : b.isProperKey)
    (apart : Apart address a b) : a.sharesKey address b ↔ a.equals b ∨ a.confused b := by
  have ordered : a.bothUnordered b = false := by
    unfold bothUnordered
    split <;> first | rfl | simp_all [isProperKey]
  have kept : a.collides b = (a.bothUnordered b || (a.equals b || a.confused b)) := by
    cases a <;> first | rfl | cases proper
  rw [sharesKey_eq apart, kept, ordered, Bool.false_or, Bool.or_eq_true]

theorem sharesKey_iff_keys : a.sharesKey address b ↔ ∃ key other,
    Key.of? address a = some key ∧ Key.of? address b = some other ∧ key.same other := by
  unfold sharesKey
  cases Key.of? address a <;> cases Key.of? address b <;> simp

end Value

section Entries

open Library

variable {entries : List (Key × Value)} {a b key value found : Value} {projected other : Key}

/-- Under the same key there is the same value. -/
theorem entryAt_congr (same : projected.same other) :
    entryAt? entries projected = entryAt? entries other := by
  have alike : ∀ entry : Key × Value, entry.1.same projected = entry.1.same other := by
    intro entry
    rw [Bool.eq_iff_iff, Key.same_iff, Key.same_iff, Key.same_iff.mp same]
  simp only [entryAt?, alike]

theorem entryAt_append {more : List (Key × Value)} :
    entryAt? (entries ++ more) projected
      = (entryAt? entries projected).or (entryAt? more projected) := by
  simp [entryAt?, List.find?_append, Option.map_or]

theorem entryAt_one : entryAt? [(projected, value)] other
    = if projected.same other then some value else none := by
  by_cases same : projected.same other <;> simp [entryAt?, same]

end Entries

/-- A call of a member of a dictionary. -/
inductive DictionaryCall where
  | add (key value : Value)
  | containsKey (key : Value)
  | item (key : Value)

namespace DictionaryCall

open Library

/-- The method that is called; indexing goes to the method that reads the item. -/
def method : DictionaryCall → String
  | add .. => "Add"
  | containsKey _ => "ContainsKey"
  | item _ => getterName "Item"

/-- The arguments of a call. -/
def args : DictionaryCall → List Value
  | add key value => [key, value]
  | containsKey key | item key => [key]

/-- The static types of the arguments, in a dictionary from keys of one type to values of another. -/
def types (keyTy valueTy : Ty) : DictionaryCall → List Ty
  | add .. => [keyTy, valueTy]
  | containsKey _ | item _ => [keyTy]

/-- Calls the overload that a universe has for a call, on a dictionary. -/
def run (world : Universe) (keyTy valueTy : Ty) (object : Handle) (call : DictionaryCall) :
    Action NativeError Value :=
  match world.method (.cls dictionaryHost.name [keyTy, valueTy]) call.method
      (call.types keyTy valueTy) false with
  | some ref => ref.native ⟨some (.object object), call.args, ref.owner⟩
  | none => throw (.other "no overload matches")

/-- The key that a call is about. -/
def key : DictionaryCall → Value
  | add key _ | containsKey key | item key => key

/-- The keys that some calls are to add. -/
def addedKeys (calls : List DictionaryCall) : List Value :=
  calls.filterMap fun
    | add key _ => some key
    | containsKey _ | item _ => none

/-- The objects that were added as keys exist all the time, and still when another call is made: none of
them has given up its address to another that was added, or to the one that the call is about. -/
def KeysLast (address : Nat → Nat) (calls : List DictionaryCall) (call : DictionaryCall) : Prop :=
  ∀ added ∈ addedKeys calls, ∀ key ∈ call.key :: addedKeys calls, Value.Apart address added key

/-- What a call adds under keys like this one. -/
def adds? (key : Value) : DictionaryCall → Option Value
  | add own value => if own.collides key then some value else none
  | containsKey _ | item _ => none

/-- What the first of some calls to add a key like this one adds under it. -/
def firstAdded? (calls : List DictionaryCall) (key : Value) : Option Value :=
  calls.findSome? (adds? key)

/-- The store after some calls, whatever each of them answers. -/
def after (world : Universe) (keyTy valueTy : Ty) (object : Handle) (calls : List DictionaryCall)
    (store : Store) : Store :=
  calls.foldl (fun store call => (call.run world keyTy valueTy object store).2) store

section Runs

variable {registry base : Registry} {keyTy valueTy : Ty} {object : Handle} {store : Store}
  {call : DictionaryCall} {key value : Value}

/-- A call runs the callable that the class of dictionaries declares for it. -/
theorem run_native (registered : registry.get? dictionaryHost.name = some (dictionaryClass base)) :
    ∃ overload, (dictionaryClass base).overloads call.method = [overload] ∧
      call.run registry.toUniverse keyTy valueTy object = overload.native
        ⟨some (.object object), call.args, .cls dictionaryHost.name [keyTy, valueTy]⟩ := by
  obtain ⟨overload, declared, isStatic, params⟩ : ∃ overload,
      (dictionaryClass base).overloads call.method = [overload] ∧ overload.flags.isStatic = false ∧
        overload.params.map (Ty.substitute [keyTy, valueTy]) = call.types keyTy valueTy := by
    cases call with
    | add | containsKey | item => exact ⟨_, rfl, rfl, rfl⟩
  refine ⟨overload, declared, ?_⟩
  have entry : registry.entryFor? (.cls dictionaryHost.name [keyTy, valueTy])
      = some (dictionaryClass base) := registered
  obtain ⟨rest, lineage⟩ := Registry.lineage_begins entry
  have accepts : paramsMatch (Registry.methodRef (.cls dictionaryHost.name [keyTy, valueTy])
      overload).params (call.types keyTy valueTy) := by
    rw [← params]
    exact paramsMatch_self _
  have found : registry.method (.cls dictionaryHost.name [keyTy, valueTy]) call.method
      (call.types keyTy valueTy) false
        = some (Registry.methodRef (.cls dictionaryHost.name [keyTy, valueTy]) overload) := by
    simp [Registry.method, lineage, declared, isStatic, accepts]
  simp only [run, Registry.toUniverse, found]
  rfl

/-- The value that the store has for a dictionary under a key. -/
def held? (store : Store) (object : Handle) (key : Value) : Option Value :=
  valueUnder? store.address (store.entries object.cell) key

/-- What was added under an object that is gone is found under another that has come to lie at its
address. -/
theorem held_reused {gone other : Handle} (reused : store.address other.cell = store.address gone.cell) :
    held? store object (.object other) = held? store object (.object gone) := by
  simp [held?, valueUnder?, Key.of?, reused]

section Natives

variable {args : List Value} {ty : Ty}

theorem receiver_cell (isDictionary : object.host = dictionaryHost) :
    Call.receiverOf ⟨some (.object object), args, ty⟩ dictionaryHost store
      = (.ok object.cell, store) := by
  have given : Call.receiver ⟨some (.object object), args, ty⟩ store = (.ok (.object object), store) :=
    rfl
  rw [Call.receiverOf, Action.run_ok given]
  simp only [HostType.ofValue, isDictionary, ↓reduceIte]
  rfl

theorem dictionaryEntries_run (isDictionary : object.host = dictionaryHost) :
    dictionaryEntries ⟨some (.object object), args, ty⟩ store
      = (.ok (store.entries object.cell), store) := by
  rw [dictionaryEntries, Action.run_ok (receiver_cell isDictionary)]
  rfl

theorem dictionaryAdd_run (isDictionary : object.host = dictionaryHost) :
    dictionaryAdd ⟨some (.object object), [key, value], ty⟩ store =
      match insertEntry store.address (store.entries object.cell) key value with
      | .ok entries => (.ok .null, store.put object.cell (.dictionary entries))
      | .error e => (.error e, store) := by
  let call : Call := ⟨some (.object object), [key, value], ty⟩
  have first : call.argument 0 store = (.ok key, store) := rfl
  have second : call.argument 1 store = (.ok value, store) := rfl
  have entries : (Action.look (·.entries object.cell) : Action NativeError _) store
      = (.ok (store.entries object.cell), store) := rfl
  have address : (Action.look (·.address) : Action NativeError _) store
      = (.ok store.address, store) := rfl
  rw [dictionaryAdd, Action.run_ok (receiver_cell isDictionary), Action.run_ok first,
    Action.run_ok second, Action.run_ok entries, Action.run_ok address]
  cases insertEntry store.address (store.entries object.cell) key value with
  | ok entries =>
    have inserted : (Action.ofExcept (.ok entries) : Action NativeError _) store
        = (.ok entries, store) := rfl
    exact Action.run_ok inserted
  | error e =>
    have refused : (Action.ofExcept (.error e) : Action NativeError (List (Key × Value))) store
        = (.error e, store) := rfl
    exact Action.run_error refused

theorem dictionaryItem_run (isDictionary : object.host = dictionaryHost) :
    dictionaryItem ⟨some (.object object), [key], ty⟩ store =
      match held? store object key with
      | some value => (.ok value, store)
      | none => (.error (.other s!"the key '{key.text}' was not present"), store) := by
  have given : Call.argument ⟨some (.object object), [key], ty⟩ 0 store = (.ok key, store) := rfl
  have address : (Action.look (·.address) : Action NativeError _) store
      = (.ok store.address, store) := rfl
  rw [dictionaryItem, Action.run_ok given, Action.run_ok (dictionaryEntries_run isDictionary),
    Action.run_ok address, held?]
  cases valueUnder? store.address (store.entries object.cell) key <;> rfl

end Natives

variable (registered : registry.get? dictionaryHost.name = some (dictionaryClass base))
  (isDictionary : object.host = dictionaryHost)

include registered isDictionary

theorem add_run : (add key value).run registry.toUniverse keyTy valueTy object store =
    match insertEntry store.address (store.entries object.cell) key value with
    | .ok entries => (.ok .null, store.put object.cell (.dictionary entries))
    | .error e => (.error e, store) := by
  obtain ⟨overload, declared, runs⟩ :=
    @run_native registry base keyTy valueTy object (add key value) registered
  cases declared
  rw [runs]
  exact dictionaryAdd_run isDictionary

theorem containsKey_run : (containsKey key).run registry.toUniverse keyTy valueTy object store
    = (.ok (.bool (held? store object key).isSome), store) := by
  obtain ⟨overload, declared, runs⟩ :=
    @run_native registry base keyTy valueTy object (containsKey key) registered
  cases declared
  rw [runs]
  exact Action.run_ok (dictionaryEntries_run isDictionary)

theorem item_run : (item key).run registry.toUniverse keyTy valueTy object store =
    match held? store object key with
    | some value => (.ok value, store)
    | none => (.error (.other s!"the key '{key.text}' was not present"), store) := by
  obtain ⟨overload, declared, runs⟩ :=
    @run_native registry base keyTy valueTy object (item key) registered
  cases declared
  rw [runs]
  exact dictionaryItem_run isDictionary

omit registered isDictionary

variable {calls : List DictionaryCall}

/-- How a call on a dictionary comes out after other calls on it. A failure leaves the store as it
is. -/
def Answers (calls : List DictionaryCall) (store : Store) (outcome : Except NativeError Value × Store) :
    DictionaryCall → Prop
  | add key _ =>
    match Key.of? store.address key, firstAdded? calls key with
    | none, _ => outcome = (.error (.other s!"{key.ty.text} cannot be used as a key"), store)
    | some projected, some _ => outcome =
        (.error (.other s!"an item with the key {projected.listing} has already been added"), store)
    | some _, none => outcome.1 = .ok .null
  | containsKey key => outcome = (.ok (.bool (firstAdded? calls key).isSome), store)
  | item key =>
    match firstAdded? calls key with
    | some value => outcome = (.ok value, store)
    | none => outcome = (.error (.other s!"the key '{key.text}' was not present"), store)

/-- The keys that some calls add have objects that none of these does away with. -/
def Known (address : Nat → Nat) (calls : List DictionaryCall) (key : Value) : Prop :=
  ∀ added ∈ addedKeys calls, Value.Apart address added key

/-- A dictionary holds under each key what the first of some calls added under it. -/
def Holds (calls : List DictionaryCall) (object : Handle) (store : Store) : Prop :=
  ∀ key, Known store.address calls key → held? store object key = firstAdded? calls key

theorem addedKeys_append (calls more : List DictionaryCall) :
    addedKeys (calls ++ more) = addedKeys calls ++ addedKeys more := List.filterMap_append

theorem Known.before {address : Nat → Nat} {more : List DictionaryCall}
    (known : Known address (calls ++ more) key) : Known address calls key := by
  intro added member
  exact known added (by rw [addedKeys_append]; exact List.mem_append_left _ member)

theorem Known.last {address : Nat → Nat} (known : Known address (calls ++ [call]) key)
    (adds : addedKeys [call] = [call.key]) : Value.Apart address call.key key :=
  known call.key (by rw [addedKeys_append, adds]; exact List.mem_append_right _ List.mem_cons_self)

theorem firstAdded_append (calls : List DictionaryCall) (call : DictionaryCall) (key : Value) :
    firstAdded? (calls ++ [call]) key = (firstAdded? calls key).or (call.adds? key) := by
  simp [firstAdded?, List.findSome?_append]

theorem held_put (entries : List (Key × Value)) :
    held? (store.put object.cell (.dictionary entries)) object key
      = valueUnder? store.address entries key := by
  simp [held?, Store.entries, Store.put, Store.payload?]

/-- Adding what is no key adds nothing. -/
theorem adds_none {address : Nat → Nat} {other : Value} (apart : Value.Apart address key other)
    (noKey : Key.of? address key = none) : (add key value).adds? other = none := by
  have alone : key.sharesKey address other = false := by simp [Value.sharesKey, noKey]
  simp [adds?, ← Value.sharesKey_eq apart, alone]

/-- Adding under a key that is taken adds nothing. -/
theorem Holds.taken {projected : Key} {other found : Value} (holds : Holds calls object store)
    (known : Known store.address calls key) (known' : Known store.address calls other)
    (apart : Value.Apart store.address key other)
    (projects : Key.of? store.address key = some projected)
    (taken : firstAdded? calls key = some found) :
    (firstAdded? calls other).or ((add key value).adds? other) = firstAdded? calls other := by
  by_cases collides : key.collides other
  · rw [← Value.sharesKey_eq apart] at collides
    obtain ⟨own, projected', projects', its, same⟩ := Value.sharesKey_iff_keys.mp collides
    obtain rfl : projected = own := Option.some.inj (projects.symm.trans projects')
    have alike : firstAdded? calls other = some found := by
      rw [← taken, ← holds other known', ← holds key known]
      simp [held?, valueUnder?, projects, its, entryAt_congr same]
    rw [alike, Option.some_or]
  · simp [adds?, collides]

/-- What is held under a key once an entry has been put behind the others. -/
theorem Holds.put {projected : Key} (holds : Holds calls object store)
    (projects : Key.of? store.address key = some projected) :
    Holds (calls ++ [add key value]) object
      (store.put object.cell (.dictionary (store.entries object.cell ++ [(projected, value)]))) := by
  intro other known
  have before : held? store object other = firstAdded? calls other := holds other known.before
  have apart : Value.Apart store.address key other := known.last rfl
  rw [firstAdded_append, held_put, ← before, held?]
  cases its : Key.of? store.address other with
  | none =>
    have alone : key.sharesKey store.address other = false := by simp [Value.sharesKey, its]
    simp [valueUnder?, its, adds?, ← Value.sharesKey_eq apart, alone]
  | some projected' =>
    have shares : key.sharesKey store.address other = projected.same projected' := by
      simp [Value.sharesKey, projects, its]
    simp only [valueUnder?, its, Option.bind_some, entryAt_append, entryAt_one, adds?,
      ← Value.sharesKey_eq apart, shares]

/-- A call is answered by what a dictionary holds. -/
theorem Holds.answers (holds : Holds calls object store)
    (registered : registry.get? dictionaryHost.name = some (dictionaryClass base))
    (isDictionary : object.host = dictionaryHost) (known : Known store.address calls call.key) :
    Answers calls store (call.run registry.toUniverse keyTy valueTy object store) call := by
  cases call with
  | containsKey key =>
    have held : held? store object key = firstAdded? calls key := holds key known
    rw [containsKey_run registered isDictionary, held]
    rfl
  | item key =>
    have held : held? store object key = firstAdded? calls key := holds key known
    rw [item_run registered isDictionary, held, Answers]
    cases firstAdded? calls key <;> rfl
  | add key value =>
    have held : held? store object key = firstAdded? calls key := holds key known
    rw [add_run registered isDictionary, insertEntry, Answers]
    cases projects : Key.of? store.address key with
    | none => rfl
    | some projected =>
      have entry : entryAt? (store.entries object.cell) projected = firstAdded? calls key := by
        rw [← held, held?, valueUnder?, projects, Option.bind_some]
      simp only [entry]
      cases firstAdded? calls key <;> rfl

/-- One call keeps what a dictionary holds in step with the calls, and no object moves. -/
theorem Holds.step (holds : Holds calls object store)
    (registered : registry.get? dictionaryHost.name = some (dictionaryClass base))
    (isDictionary : object.host = dictionaryHost)
    (known : ∀ key ∈ addedKeys [call], Known store.address calls key) :
    let after := (call.run registry.toUniverse keyTy valueTy object store).2
    Holds (calls ++ [call]) object after ∧ after.address = store.address := by
  have keeps (nothing : ∀ key, Known store.address (calls ++ [call]) key → call.adds? key = none) :
      Holds (calls ++ [call]) object store := by
    intro key known
    rw [firstAdded_append, nothing key known, Option.or_none]
    exact holds key known.before
  cases call with
  | containsKey key =>
    rw [containsKey_run registered isDictionary]
    exact ⟨keeps fun _ _ => rfl, rfl⟩
  | item key =>
    rw [item_run registered isDictionary]
    cases held? store object key <;> exact ⟨keeps fun _ _ => rfl, rfl⟩
  | add key value =>
    have known : Known store.address calls key := known key List.mem_cons_self
    rw [add_run registered isDictionary, insertEntry]
    cases projects : Key.of? store.address key with
    | none => exact ⟨keeps fun _ known => adds_none (known.last rfl) projects, rfl⟩
    | some projected =>
      have entry : entryAt? (store.entries object.cell) projected = firstAdded? calls key := by
        rw [← holds key known, held?, valueUnder?, projects, Option.bind_some]
      simp only [entry]
      cases taken : firstAdded? calls key with
      | none => exact ⟨holds.put projects, rfl⟩
      | some found =>
        refine ⟨fun other known' => ?_, rfl⟩
        rw [firstAdded_append, holds.taken known known'.before (known'.last rfl) projects taken]
        exact holds other known'.before

/-- Whatever is called on a new dictionary, the calls that have been made decide what it holds. -/
theorem holds_after (registered : registry.get? dictionaryHost.name = some (dictionaryClass base))
    (isDictionary : object.host = dictionaryHost) (new : store.entries object.cell = [])
    (calls : List DictionaryCall) (lasting : ∀ key ∈ addedKeys calls, Known store.address calls key) :
    let after := after registry.toUniverse keyTy valueTy object calls store
    Holds calls object after ∧ after.address = store.address := by
  induction calls using List.reverseRecOn with
  | nil =>
    refine ⟨fun key _ => ?_, rfl⟩
    simp [held?, valueUnder?, after, new, firstAdded?, entryAt?]
  | append_singleton calls call ih =>
    rw [addedKeys_append, List.forall_mem_append] at lasting
    obtain ⟨holds, kept⟩ := ih fun key member => (lasting.1 key member).before
    rw [after, List.foldl_append]
    have known : ∀ key ∈ addedKeys [call], Known
        (after registry.toUniverse keyTy valueTy object calls store).address calls key := by
      rw [kept]
      exact fun key member => (lasting.2 key member).before
    obtain ⟨holds, same⟩ := holds.step registered isDictionary known
    exact ⟨holds, same.trans kept⟩

/-- What dictionaries do. Proper keys of objects that exist are the same where the values are equal or
not told apart by keys; and whatever has been called on a new dictionary, while the objects that were
added as keys exist, adding fails just if a key that collides was added before, and what is answered
for a key is what the first value added under it decides. -/
theorem dictionary_answers
    (registered : registry.get? dictionaryHost.name = some (dictionaryClass base))
    (isDictionary : object.host = dictionaryHost) (new : store.entries object.cell = []) :
    (∀ a b : Value, a.isProperKey → b.isProperKey → Value.Apart store.address a b →
        (a.sharesKey store.address b ↔ a.equals b ∨ a.confused b)) ∧
      ∀ (keyTy valueTy : Ty) (calls : List DictionaryCall) (call : DictionaryCall),
        KeysLast store.address calls call →
        let world := registry.toUniverse
        let store := after world keyTy valueTy object calls store
        Answers calls store (call.run world keyTy valueTy object store) call := by
  refine ⟨fun a b => Value.sharesKey_iff, ?_⟩
  intro keyTy valueTy calls call lasting world store'
  have among : ∀ key ∈ addedKeys calls, Known store.address calls key :=
    fun key member added inside => lasting added inside key (List.mem_cons_of_mem _ member)
  obtain ⟨holds, kept⟩ : Holds calls object store' ∧ store'.address = store.address :=
    holds_after registered isDictionary new calls among
  refine holds.answers registered isDictionary ?_
  rw [kept]
  exact fun added inside => lasting added inside call.key List.mem_cons_self

/-- A dictionary from objects to texts in which a `long` finds what was added under an `int`, beside
two objects that are told apart. -/
theorem dictionary_answers_mixed :
    let registry := (Registry.empty.register (dictionaryClass Registry.empty)).2
    let object : Handle := ⟨.cls dictionaryHost.name [.object, .string], dictionaryHost, 0⟩
    let store := (Store.empty.allocate (.dictionary [])).2
    let lamp : Value := .object ⟨.named "Lamp", ⟨"Lamp", []⟩, 1⟩
    let other : Value := .object ⟨.named "Lamp", ⟨"Lamp", []⟩, 2⟩
    let calls := [add (.int 1) (.string "one"), add lamp (.string "lamp"),
      add (.integer .long (Word.ofInt .long 1)) (.string "other"), add other (.string "other")]
    let later := after registry.toUniverse .object .string object calls store
    registry.get? dictionaryHost.name = some (dictionaryClass Registry.empty) ∧
      object.host = dictionaryHost ∧ store.entries object.cell = [] ∧
      KeysLast store.address calls (item lamp) ∧
      (item lamp).run registry.toUniverse .object .string object later
        = (.ok (.string "lamp"), later) ∧
      (item (.integer .long (Word.ofInt .long 1))).run registry.toUniverse .object .string object later
        = (.ok (.string "one"), later) := by
  intro registry object store lamp other calls later
  have registered : registry.get? dictionaryHost.name = some (dictionaryClass Registry.empty) := rfl
  have lasting : ∀ key, key = lamp ∨ key = .integer .long (Word.ofInt .long 1) →
      KeysLast store.address calls (item key) := by
    rintro key (rfl | rfl) <;> intro added _ key _ <;> cases added <;> cases key <;>
      first | trivial | exact id
  have answers :=
    (@dictionary_answers registry _ object store registered rfl rfl).2 .object .string calls
  exact ⟨registered, rfl, rfl, lasting _ (.inl rfl), answers (item lamp) (lasting _ (.inl rfl)),
    answers (item (.integer .long (Word.ofInt .long 1))) (lasting _ (.inr rfl))⟩

/-- Values that are not equal take the same key: an `int` and a `long`, a single and a double, and two
types of the same full name. After the `int` was added, adding the `long` fails. -/
theorem sharesKey_unequal :
    let long : Value := .integer .long (Word.ofInt .long 1)
    let ty : Ty := .cls "Box`1" [.int]
    let other : Ty := .named "Box`1[System.Int32]"
    ((Value.int 1).sharesKey id long ∧ ¬ (Value.int 1).equals long) ∧
      ((Value.float 1.5).sharesKey id (.double 1.5) ∧ ¬ (Value.float 1.5).equals (.double 1.5)) ∧
      ((Value.type ty).sharesKey id (.type other) ∧ ¬ (Value.type ty).equals (.type other)) ∧
      insertEntry id [(.integer 1, .string "one")] long (.string "other")
        = .error (.other "an item with the key Int(1) has already been added") :=
  ⟨by decide +kernel, by decide +kernel, by decide +kernel, rfl⟩

end Runs

end DictionaryCall

end Formula
