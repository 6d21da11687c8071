import Formula.Registry.Basic
import Formula.Unicode.Blank
import Formula.Unicode.Case

/-! The members of texts. Positions and lengths count characters. -/
namespace Formula.Library

/-- How a position outside a text fails. -/
def outOfRange (what : String) : NativeError := .other s!"{what} was out of range"

/-- The argument at an index as a position, which is not negative. -/
def position (call : Call) (index : Nat) : Action NativeError Nat := do
  let n ← call.arg .int index
  if n.val < 0 then throw (outOfRange "index") else return n.val.toNat

/-- The text from a position on, or a number of its characters. -/
def substring : Native := fun call => do
  let chars := (← call.receiverText).toList
  let start ← position call 0
  let count ←
    if 1 < call.args.length then position call 1
    else if chars.length < start then throw (outOfRange "startIndex")
    else pure (chars.length - start)
  if chars.length < start + count then throw (outOfRange "length")
  else return .string (String.ofList ((chars.drop start).take count))

/-- The character at a position. -/
def charAt : Native := fun call => do
  let index ← position call 0
  match (← call.receiverText).toList[index]? with
  | some c => return .char c
  | none => throw (outOfRange "index")

/-- The first position at which a list occurs in another. -/
def positionOf? {α : Type} [BEq α] (needle : List α) : List α → Option Nat
  | [] => if needle.isEmpty then some 0 else none
  | c :: rest =>
    if needle.isPrefixOf (c :: rest) then some 0 else (positionOf? needle rest).map (· + 1)

/-- The bytes of a text. -/
def bytesOf (text : List Char) : List UInt8 := text.flatMap String.utf8EncodeChar

/-- The number of characters that begin in some bytes. -/
def charsIn (bytes : List UInt8) : Nat := bytes.countP fun b => decide b.IsUTF8FirstByte

/-- The first position at which a text occurs in another. It is searched for among the bytes of both,
and what is found is a number of bytes, whose characters are counted. -/
def search? (needle text : List Char) : Option Nat :=
  (positionOf? (bytesOf needle) (bytesOf text)).map fun place => charsIn ((bytesOf text).take place)

/-- A text with every occurrence of another replaced, from the left and without overlaps; the next
`skip` characters belong to the last occurrence. -/
def replaceAll (old new : List Char) : Nat → List Char → List Char
  | _, [] => []
  | skip + 1, _ :: rest => replaceAll old new skip rest
  | 0, c :: rest =>
    if old.isPrefixOf (c :: rest) then new ++ replaceAll old new (old.length - 1) rest
    else c :: replaceAll old new 0 rest

/-- A text made from the receiver. -/
def transforming (f : List Char → List Char) : Native := fun call => do
  return .string (String.ofList (f (← call.receiverText).toList))

/-- A test of the receiver against the first argument. -/
def testing (f : List Char → List Char → Bool) : Native := fun call => do
  let other ← call.arg .string 0
  return .bool (f (← call.receiverText).toList other.toList)

/-- The first position of the argument in the receiver, or minus one. -/
def indexOf : Native := fun call => do
  let text ← call.receiverText
  let needle ← call.arg .string 0
  match search? needle.toList text.toList with
  | some index => return .int index
  | none => return .int (-1)

/-- The receiver with every occurrence of the first argument replaced by the second. -/
def replace : Native := fun call => do
  let old ← call.arg .string 0
  let new ← call.arg .string 1
  if old.isEmpty then throw (.other "string cannot be of zero length")
  else return .string (String.ofList (replaceAll old.toList new.toList 0 (← call.receiverText).toList))

/-- The texts of the two arguments, one after the other. -/
def concat : Native := fun call => do
  let a ← call.argument 0
  let b ← call.argument 1
  return .string (a.text ++ b.text)

/-- Whether the argument is `null` or the empty text. -/
def isNullOrEmpty : Native := fun call => do
  match ← call.argument 0 with
  | .null => return .bool true
  | .string s => return .bool s.isEmpty
  | _ => return .bool false

/-- The members of texts. -/
def stringClass (registry : Registry) : Entry :=
  registry.newBuiltin .string
    |>.withReadOnly "Length" .int (fun call => do
      return .int (← call.receiverText).toList.length)
    |>.withIndexer "Chars" [.int] .char charAt
    |>.withMethod "Substring" [.int] .string substring
    |>.withMethod "Substring" [.int, .int] .string substring
    |>.withMethod "ToUpper" [] .string (transforming Unicode.upperText)
    |>.withMethod "ToLower" [] .string (transforming Unicode.lowerText)
    |>.withMethod "Trim" [] .string (transforming Unicode.trimBlanks)
    |>.withMethod "Contains" [.string] .bool
      (testing fun text other => (search? other text).isSome)
    |>.withMethod "StartsWith" [.string] .bool (testing fun text other => other.isPrefixOf text)
    |>.withMethod "EndsWith" [.string] .bool (testing fun text other => other.isSuffixOf text)
    |>.withMethod "IndexOf" [.string] .int indexOf
    |>.withMethod "Replace" [.string, .string] .string replace
    |>.withStatic "Concat" [.object, .object] .string concat
    |>.withStatic "IsNullOrEmpty" [.string] .bool isNullOrEmpty
    |>.withConstant "Empty" .string ""

/-- Registers the members of texts. -/
def addStrings (registry : Registry) : Except RegistrationError Registry :=
  registry.add (stringClass registry)

end Formula.Library
