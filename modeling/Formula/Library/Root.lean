import Formula.Registry.Basic

/-! The root class and the classes that stand for the language's own constructions: types as values,
arrays and nullables. -/
namespace Formula.Library

/-- The receiver as a type. -/
def receiverType (call : Call) : Action NativeError Ty := do
  match ← call.receiver with
  | .type ty => pure ty
  | other => throw (.receiver ⟨"System.Type", other.ty⟩)

/-- The name of a type without its namespace. -/
def shortName : Ty → String
  | .cls name [] => Ty.simpleName name
  | ty => Ty.afterDot ty.fullName

/-- The members that every value has. -/
def rootClass (registry : Registry) : Entry :=
  registry.newBuiltin .object
    |>.withMethod "ToString" [] .string (fun call => do
      return .string (← call.receiver).text)
    |>.withMethod "GetType" [] (.named "System.Type") (fun call => do
      return .type (← call.receiver).ty)
    |>.withMethod "Equals" [.object] .bool (fun call => do
      let this ← call.receiver
      let other ← call.argument 0
      return .bool (this.equals other))
    |>.withStatic "ReferenceEquals" [.object, .object] .bool (fun call => do
      let a ← call.argument 0
      let b ← call.argument 1
      return .bool (a.equals b))

/-- Types as values. -/
def typeClass (registry : Registry) : Entry :=
  registry.newClass "System.Type"
    |>.withReadOnly "Name" .string (fun call => do
      return .string (shortName (← receiverType call)))
    |>.withReadOnly "FullName" .string (fun call => do
      return .string (← receiverType call).fullName)
    |>.withReadOnly "IsValueType" .bool (fun call => do
      return .bool (← receiverType call).isValueType)

/-- Arrays. -/
def arrayClass (registry : Registry) : Entry :=
  registry.newClass "System.Array"
    |>.withReadOnly "Length" .int (fun call => do
      match ← call.receiver with
      | .array _ _ items => return .int items.length
      | other => throw (.receiver ⟨"array", other.ty⟩))

/-- Nullables. The receiver is the wrapped value or `null`. -/
def nullableClass (registry : Registry) : Entry :=
  registry.newClass nullableName
    |>.withReadOnly "HasValue" .bool (fun call => do
      return .bool !(← call.receiver).isNull)
    |>.withReadOnly "Value" (.param 0) (fun call => do
      let this ← call.receiver
      if this.isNull then throw (.other "nullable object must have a value") else return this)
    |>.withMethod "GetValueOrDefault" [] (.param 0) (fun call => do
      let this ← call.receiver
      if this.isNull then return (call.declaring.args.head?.map Value.defaultOf).getD .null
      else return this)

/-- Registers the root and the classes of the language's own constructions. -/
def addRoot (registry : Registry) : Except RegistrationError Registry := do
  let registry ← registry.add (rootClass registry)
  let registry ← registry.add (typeClass registry)
  let registry ← registry.add (arrayClass registry)
  registry.add (nullableClass registry)

end Formula.Library
