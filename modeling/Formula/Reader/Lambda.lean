import Formula.Reader.Expression
import Formula.Token.Counted

/-! Whole formulas: an optional header that names parameters, then one expression up to the end. -/
namespace Formula

/-- A formula that was read: the parameters in force and the body. -/
structure Lambda where
  params : Parameters
  body : Expr

/-- A parameter as a header writes it. -/
structure HeaderParam where
  name : String
  ty : Option Ty
  span : Span

namespace Reader

/-- Reads the parameters of a header after its first parenthesis, at most `fuel` of them. -/
def headerFrom (scope : Scope) : Nat → Attempt (List HeaderParam)
  | 0 => failure
  | fuel + 1 => do
    let stream ← get
    let start := stream.peek
    let isBare := start.kind = .identifier ∧
      (stream.kindAt 1 = .comma ∨ stream.kindAt 1 = .rightParen)
    let ty ← if isBare then pure none else some <$> type? scope
    let stream ← get
    let name := stream.peek
    if name.kind ≠ .identifier then failure
    else
      let param : HeaderParam := ⟨name.lexeme, ty, start.span.join name.span⟩
      match stream.next.eat? .comma with
      | some after =>
        set after
        let others ← headerFrom scope fuel
        return param :: others
      | none =>
        match stream.next.eat? .rightParen with
        | some after =>
          set after
          return [param]
        | none => failure

/-- Reads a header in parentheses. -/
def headerInParens (scope : Scope) : Attempt (List HeaderParam) := do
  let stream := (← get).next
  let params ← match stream.eat? .rightParen with
    | some after =>
      set after
      pure []
    | none =>
      set stream
      headerFrom scope stream.rest.length
  match (← get).eat? .fatArrow with
  | some after =>
    set after
    return params
  | none => failure

/-- Reads a header: a name or a list in parentheses, and an arrow. -/
def header? (scope : Scope) : Attempt (List HeaderParam) := do
  let stream ← get
  let first := stream.peek
  if first.kind = .identifier ∧ stream.kindAt 1 = .fatArrow then
    set stream.next.next
    return [⟨first.lexeme, none, first.span⟩]
  else if first.kind = .leftParen then headerInParens scope
  else failure

/-- Binds the parameters of a header to those that are declared, one by one; `earlier` are the names
that the header has used. -/
def bindFrom (params : Parameters) (earlier : List String) :
    List HeaderParam → List ParamSpec → Except CompileError Parameters
  | [], _ => .ok params
  | param :: rest, specs =>
    if earlier.contains param.name then
      .error ⟨.grammar (.duplicateParameter param.name), param.span⟩
    else
      let next (ty : Ty) := bindFrom (params.push param.name ty) (param.name :: earlier) rest specs.tail
      match param.ty, specs.head?.bind (·.ty) with
      | some written, some declared =>
        if written = declared then next written
        else .error ⟨.signature (.parameterType param.name written declared), param.span⟩
      | some ty, none | none, some ty => next ty
      | none, none => next .object

/-- Binds a header, which has as many parameters as are declared. -/
def bindHeader (params : Parameters) (header : List HeaderParam)
    (declared : Option (List ParamSpec)) (span : Span) : Except CompileError Parameters :=
  match declared with
  | none => bindFrom params [] header []
  | some specs =>
    if header.length = specs.length then bindFrom params [] header specs
    else .error ⟨.signature (.parameterCount header.length specs.length), span⟩

/-- The name of a parameter that was declared without one. -/
def unnamed (index : Nat) : String := "arg" ++ toString index

/-- The parameters in force for a body without a header. -/
def bindDeclared (params : Parameters) (declared : Option (List ParamSpec)) : Parameters :=
  (declared.getD []).zipIdx.foldl (fun params (spec, index) =>
    params.push (spec.name.getD (unnamed index)) (spec.ty.getD .object)) params

/-- Reads the header, if there is one, and settles the parameters in force. -/
def parameters (scope : Scope) (declared : Option (List ParamSpec)) : Reader Parameters := do
  let start ← peek
  match ← attempt (header? scope) with
  | some header =>
    ofExcept (bindHeader scope.params header declared (← spanFrom start.span))
  | none => return bindDeclared scope.params declared

/-- Reads a whole formula against what `scope` has in force. -/
def lambda (scope : Scope) (declared : Option (List ParamSpec)) : Reader Lambda := do
  let params ← parameters scope declared
  let body ← expression { scope with params } 0 none
  let extra ← peek
  if extra.kind = .endOfInput then return ⟨params, body⟩
  else fail (.grammar (.trailing extra.description)) extra.span

end Reader

/-- What reading the tokens came to, as a part of reading a formula. -/
def CompileError.ofTokens : Except LexError (List Token) → Except CompileError (List Token)
  | .ok tokens => .ok tokens
  | .error error => .error (.ofLexError error)

/-- The tokens of a source. -/
def tokensOf (source : String) : Except CompileError (List Token) :=
  CompileError.ofTokens (Token.tokenize source)

/-- Reads a formula from its tokens. -/
def Lambda.ofTokens (world : Universe) (namespaces : List String)
    (declared : Option (List ParamSpec)) (receiver : Option Ty) (tokens : List Token) :
    Except CompileError Lambda := do
  let scope : Scope := ⟨world, namespaces, Parameters.ofInstance receiver⟩
  let (parsed, _) ← (Reader.lambda scope declared).run (Stream.ofTokens tokens)
  return parsed

/-- Reads a formula. `declared` are the parameters of the signature, or nothing where the header is
to settle them; `receiver` is the type of the default instance. -/
def Lambda.parse (world : Universe) (namespaces : List String)
    (declared : Option (List ParamSpec)) (receiver : Option Ty) (source : String) :
    Except CompileError Lambda := do
  let tokens ← tokensOf source
  Lambda.ofTokens world namespaces declared receiver tokens

/-- Reads a formula with counters of 32 bits, one of which may stop the program. -/
def Lambda.parse? (world : Universe) (namespaces : List String)
    (declared : Option (List ParamSpec)) (receiver : Option Ty) (source : String) :
    Option (Except CompileError Lambda) :=
  (Token.tokenize? source).map fun read => do
    let tokens ← CompileError.ofTokens read
    Lambda.ofTokens world namespaces declared receiver tokens

/-- Reads an expression without parameters from tokens, inside a bracket or none; tokens may be left
over. -/
def Expr.ofTokens (world : Universe) (namespaces : List String) (least : Nat)
    (inside : Option Bracket) (tokens : List Token) : Except CompileError Expr := do
  let scope : Scope := ⟨world, namespaces, Parameters.ofInstance none⟩
  let (expr, _) ← (Reader.expression scope least inside).run (Stream.ofTokens tokens)
  return expr

/-- Reads an expression without parameters. -/
def Expr.parse? (world : Universe) (namespaces : List String) (least : Nat)
    (inside : Option Bracket) (source : String) : Option (Except CompileError Expr) :=
  (Token.tokenize? source).map fun read => do
    let tokens ← CompileError.ofTokens read
    Expr.ofTokens world namespaces least inside tokens

end Formula
