import Formula.CompileError
import Formula.Parameters
import Formula.Registry.Universe
import Formula.Token.Stream

/-! Reading a stream of tokens. A reader consumes tokens or fails at a place; an attempt may come to
nothing, and then nothing has been consumed. -/
namespace Formula

/-- A computation that consumes tokens and may fail. -/
abbrev Reader (α : Type) : Type := StateT Stream (Except CompileError) α

/-- A computation that consumes tokens and may come to nothing. -/
abbrev Attempt (α : Type) : Type := StateT Stream Option α

/-- What a formula is read against. -/
structure Scope where
  world : Universe
  namespaces : List String
  params : Parameters

namespace Scope

/-- The type with a name: a keyword, a qualified name, or a name in one of the namespaces, the first
that has it. -/
def resolveName (scope : Scope) (name : String) : Option Ty :=
  (Ty.ofKeyword? name).or <| (scope.world.resolveName name).or <|
    scope.namespaces.findSome? fun space => scope.world.resolveName (space ++ "." ++ name)

/-- The generic type with a name and as many parameters as there are arguments, closed over them. -/
def resolveGeneric (scope : Scope) (name : String) (args : List Ty) : Option Ty :=
  (scope.resolveName (name ++ "`" ++ toString args.length)).bind fun definition =>
    scope.world.instantiate definition args

end Scope

namespace Reader

/-- Fails at a place. -/
def fail {α : Type} (fault : CompileFault) (span : Span) : Reader α := throw ⟨fault, span⟩

/-- A result that is already known. -/
def ofExcept {α : Type} (result : Except CompileError α) : Reader α := fun stream =>
  match result with
  | .ok a => .ok (a, stream)
  | .error error => .error error

/-- The next token. -/
def peek : Reader Token := fun stream => .ok (stream.peek, stream)

/-- The kind of the token some places ahead. -/
def kindAt (places : Nat) : Reader TokenKind := fun stream => .ok (stream.kindAt places, stream)

/-- Consumes the next token. -/
def advance : Reader Token := fun stream => .ok (stream.peek, stream.next)

/-- Whether the next token is of a kind. -/
def check (kind : TokenKind) : Reader Bool := fun stream => .ok (stream.kind == kind, stream)

/-- Consumes the next token if it is of a kind, and tells whether it was. -/
def eat (kind : TokenKind) : Reader Bool := fun stream =>
  match stream.eat? kind with
  | some after => .ok (true, after)
  | none => .ok (false, stream)

/-- Consumes a token of a kind, which has to be next. -/
def expect (kind : TokenKind) : Reader Unit := fun stream =>
  match stream.eat? kind with
  | some after => .ok ((), after)
  | none =>
    let found := stream.peek
    .error ⟨.grammar (.expected kind.text found.description), found.span⟩

/-- The span from a start to the end of what was consumed last. -/
def spanFrom (start : Span) : Reader Span := fun stream => .ok (stream.spanFrom start, stream)

/-- Makes an attempt. -/
def attempt {α : Type} (read : Attempt α) : Reader (Option α) := fun stream =>
  match read stream with
  | some (a, after) => .ok (some a, after)
  | none => .ok (none, stream)

/-- A number that no reading from here takes more steps than. -/
def fuel : Reader Nat := fun stream => .ok (stream.rest.length + 1, stream)

/-- Where the steps have run out. -/
def exhausted {α : Type} : Reader α := do
  let token ← peek
  fail (.grammar .tooDeep) token.span

end Reader
end Formula
