import Formula.Reader.Basic

/-! Reading the names of types: dotted paths, type arguments, and the marks for nullable types and
arrays behind them. The shortest dotted path that names a type is taken, and an angle bracket opens
arguments only where what follows closes a generic type. -/
namespace Formula.Reader

/-- Reads type arguments after the first angle bracket, at most `fuel` of them. -/
def argsFrom (readTy : Attempt Ty) : Nat → Attempt (List Ty)
  | 0 => failure
  | fuel + 1 => fun stream =>
    (readTy stream).bind fun (first, after) =>
      match after.eat? .comma with
      | some next => (argsFrom readTy fuel next).map fun (others, last) => (first :: others, last)
      | none =>
        ((after.eat? .greater).or after.splitShift?).map fun last => ([first], last)

/-- Reads type arguments with the brackets around them. -/
def typeArgs (readTy : Attempt Ty) : Attempt (List Ty) := fun stream =>
  (stream.eat? .less).bind fun after => argsFrom readTy after.rest.length after

/-- The generic type with a name, if arguments for it follow. -/
def generic? (scope : Scope) (readTy : Attempt Ty) (name : String) : Attempt Ty := fun stream =>
  (typeArgs readTy stream).bind fun (args, after) =>
    (scope.resolveGeneric name args).map fun ty => (ty, after)

/-- Goes on with a path of which `name` has been read, by at most `fuel` parts. -/
def pathFrom (scope : Scope) (readTy : Attempt Ty) : Nat → String → Attempt Ty
  | 0, _ => failure
  | fuel + 1, name => fun stream =>
    match generic? scope readTy name stream with
    | some found => some found
    | none =>
      match scope.resolveName name with
      | some ty => some (ty, stream)
      | none =>
        if stream.kind = .dot ∧ stream.kindAt 1 = .identifier then
          let part := stream.next.peek.lexeme
          pathFrom scope readTy fuel (name ++ "." ++ part) stream.next.next
        else none

/-- Reads a path that names a type. -/
def path (scope : Scope) (readTy : Attempt Ty) : Attempt Ty := fun stream =>
  if stream.kind = .identifier then
    pathFrom scope readTy (stream.rest.length + 1) stream.peek.lexeme stream.next
  else none

/-- Whether the question mark that is next marks a nullable type and does not ask a question. -/
def marksNullable (stream : Stream) : Bool :=
  match stream.kindAt 1 with
  | .rightParen | .rightBracket | .rightBrace | .greater | .greaterGreater | .comma
  | .leftBracket | .endOfInput | .equalEqual | .bangEqual | .ampAmp | .pipePipe
  | .questionQuestion => true
  | .identifier => stream.kindAt 2 == .comma || stream.kindAt 2 == .rightParen
  | _ => false

/-- A type with the mark that makes it nullable, if one follows. -/
def withNullable (ty : Ty) (stream : Stream) : Ty × Stream :=
  if stream.kind = .question ∧ marksNullable stream then
    (if ty.acceptsNull then ty else ty.toNullable, stream.next)
  else (ty, stream)

/-- A type with the brackets of arrays, as many as follow. -/
def withArrays : Nat → Ty → Stream → Ty × Stream
  | 0, ty, stream => (ty, stream)
  | fuel + 1, ty, stream =>
    if stream.kind = .leftBracket ∧ stream.kindAt 1 = .rightBracket then
      withArrays fuel (.array ty) stream.next.next
    else (ty, stream)

/-- Reads a type whose arguments are nested at most `fuel` deep. -/
def typeWithin (scope : Scope) : Nat → Attempt Ty
  | 0 => failure
  | fuel + 1 => fun stream =>
    (path scope (typeWithin scope fuel) stream).map fun (ty, after) =>
      let (ty, after) := withNullable ty after
      withArrays after.rest.length ty after

/-- Reads a type. -/
def type? (scope : Scope) : Attempt Ty := fun stream =>
  typeWithin scope (stream.rest.length + 1) stream

/-- Reads a path that names a type, without marks behind it. -/
def typePath? (scope : Scope) : Attempt Ty := fun stream =>
  path scope (typeWithin scope (stream.rest.length + 1)) stream

/-- Goes on with a dotted name of which `name` has been read. -/
def dottedFrom : Nat → String → Stream → String × Stream
  | 0, name, stream => (name, stream)
  | fuel + 1, name, stream =>
    if stream.kind = .dot ∧ stream.kindAt 1 = .identifier then
      dottedFrom fuel (name ++ "." ++ stream.next.peek.lexeme) stream.next.next
    else (name, stream)

/-- Fails at the dotted name that is next, which names no type. -/
def unknownType {α : Type} : Reader α := fun stream =>
  let start := stream.peek
  let (name, after) := dottedFrom stream.rest.length start.lexeme stream.next
  .error ⟨.typeNotFound name, after.spanFrom start.span⟩

/-- Reads a type, which has to be next. -/
def expectType (scope : Scope) : Reader Ty := do
  let start ← peek
  match ← attempt (type? scope) with
  | some ty => return ty
  | none =>
    if start.kind = .identifier then unknownType
    else fail (.grammar (.expectedType start.description)) start.span

end Formula.Reader
