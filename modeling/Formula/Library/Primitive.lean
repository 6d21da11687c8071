import Formula.Decimal.Read
import Formula.Registry.Basic
import Formula.Unicode.Blank
import Formula.Unicode.Case
import Formula.Unicode.Letter

/-! The members of the primitive kinds: limits, reading from text, and the classes of characters. -/
namespace Formula.Library

/-- How a text that does not read as a number fails. -/
def badFormat (text : String) : NativeError :=
  .other s!"input string '{text}' was not in a correct format"

/-- Reads the text in the first argument, without the blanks around it. -/
def parsing (shape : HostType) (read : List Char → Option shape.Carrier) : Native := fun call => do
  let text ← call.arg .string 0
  match read (Unicode.trimBlanks text.toList) with
  | some x => shape.toValue x
  | none => throw (badFormat text)

/-- Reads a truth value in any letter case. -/
def parseBool : Native := fun call => do
  let text ← call.arg .string 0
  let word := String.ofList ((Unicode.trimBlanks text.toList).map Char.toLower)
  if word = "true" then return .bool true
  else if word = "false" then return .bool false
  else throw (.other s!"string '{text}' was not recognized as a valid Boolean")

/-- The members of an integer kind. -/
def integerClass (registry : Registry) (kind : IntKind) : Entry :=
  let shape : HostType := .primitive (.integer kind)
  registry.newBuiltin (.primitive (.integer kind))
    |>.withConstant "MaxValue" shape (Word.ofInt kind kind.greatest)
    |>.withConstant "MinValue" shape (Word.ofInt kind kind.least)
    |>.withStatic "Parse" [.string] (.primitive (.integer kind)) (parsing shape (Word.read? kind))

/-- The members of decimals. -/
def decimalClass (registry : Registry) : Entry :=
  registry.newBuiltin .decimal
    |>.withConstant "MaxValue" .decimal Decimal.greatest
    |>.withConstant "MinValue" .decimal Decimal.least
    |>.withStatic "Parse" [.string] .decimal (parsing .decimal Decimal.readEither?)

/-- The greatest double. -/
def greatestDouble : Float := Float.ofBits 0x7FEFFFFFFFFFFFFF

/-- The greatest single. -/
def greatestSingle : Float32 := Float32.ofBits 0x7F7FFFFF

/-- The members of doubles. -/
def doubleClass (registry : Registry) : Entry :=
  registry.newBuiltin .double
    |>.withConstant "MaxValue" .double greatestDouble
    |>.withConstant "MinValue" .double (-greatestDouble)
    |>.withConstant "Epsilon" .double (Float.ofBits 1)
    |>.withConstant "NaN" .double (0.0 / 0.0 : Float)
    |>.withConstant "PositiveInfinity" .double (1.0 / 0.0 : Float)
    |>.withConstant "NegativeInfinity" .double (-1.0 / 0.0 : Float)
    |>.withFunction "IsNaN" [.double] .bool (fun (x : Float) => x.isNaN)
    |>.withFunction "IsInfinity" [.double] .bool (fun (x : Float) => x.isInf)
    |>.withStatic "Parse" [.string] .double (parsing .double Floating.readDouble?)

/-- The members of singles. -/
def singleClass (registry : Registry) : Entry :=
  registry.newBuiltin .float
    |>.withConstant "MaxValue" .float greatestSingle
    |>.withConstant "MinValue" .float (-greatestSingle)
    |>.withConstant "NaN" .float (0.0 / 0.0 : Float32)
    |>.withFunction "IsNaN" [.float] .bool (fun (x : Float32) => x.isNaN)
    |>.withStatic "Parse" [.string] .float (parsing .float Floating.readSingle?)

/-- The members of truth values. -/
def boolClass (registry : Registry) : Entry :=
  (registry.newBuiltin .bool).withStatic "Parse" [.string] .bool parseBool

/-- The members of characters; of a case form with several characters the first is taken. -/
def charClass (registry : Registry) : Entry :=
  registry.newBuiltin .char
    |>.withConstant "MaxValue" .char (Char.ofNat 0xFFFF)
    |>.withConstant "MinValue" .char (Char.ofNat 0)
    |>.withFunction "IsDigit" [.char] .bool (fun (c : Char) => c.isDigit)
    |>.withFunction "IsLetter" [.char] .bool (fun (c : Char) => Unicode.isLetter c)
    |>.withFunction "IsWhiteSpace" [.char] .bool (fun (c : Char) => Unicode.isBlank c)
    |>.withFunction "IsUpper" [.char] .bool (fun (c : Char) => Unicode.isUpper c)
    |>.withFunction "IsLower" [.char] .bool (fun (c : Char) => Unicode.isLower c)
    |>.withFunction "ToUpper" [.char] .char (fun (c : Char) => (Unicode.toUpper c).headD c)
    |>.withFunction "ToLower" [.char] .char (fun (c : Char) => (Unicode.toLower c).headD c)

/-- Registers the members of the primitive kinds. -/
def addPrimitives (registry : Registry) : Except RegistrationError Registry := do
  let kinds : List IntKind := [.byte, .sbyte, .short, .ushort, .int, .uint, .long, .ulong]
  let registry ← kinds.foldlM (fun registry kind => registry.add (integerClass registry kind)) registry
  let registry ← registry.add (decimalClass registry)
  let registry ← registry.add (doubleClass registry)
  let registry ← registry.add (singleClass registry)
  let registry ← registry.add (boolClass registry)
  registry.add (charClass registry)

end Formula.Library
