import Formula.Value.Basic

/-! Why a running formula fails. A failure is given by its cause; how it reads is settled here, in
one place, for every cause. -/
namespace Formula

/-- A value was not of the shape that the host asked for. -/
structure Mismatch where
  expected : String
  found : Ty
  deriving DecidableEq

/-- How a mismatch reads. -/
def Mismatch.message (mismatch : Mismatch) : String :=
  s!"expected {mismatch.expected}, found {mismatch.found.text}"

/-- Failures of the callables behind members. -/
inductive NativeError where
  | argumentIndex (index count : Nat)
  | argumentType (index : Nat) (mismatch : Mismatch)
  | receiver (mismatch : Mismatch)
  | missingReceiver
  | other (message : String)
  deriving DecidableEq

/-- The name of a failure of a callable. -/
def NativeError.name : NativeError → String
  | argumentIndex _ _ => "ArgumentIndex"
  | argumentType _ _ => "ArgumentType"
  | receiver _ => "Receiver"
  | missingReceiver => "MissingReceiver"
  | other _ => "Other"

/-- How a failure of a callable reads. -/
def NativeError.message : NativeError → String
  | argumentIndex index count => s!"argument {index} requested but only {count} supplied"
  | argumentType index mismatch => s!"argument {index}: {mismatch.message}"
  | receiver mismatch => s!"receiver: {mismatch.message}"
  | missingReceiver => "member requires an instance receiver"
  | other message => message

/-- What a receiver is needed for. -/
inductive Use where
  | calling (method : String)
  | reading (member : String)
  | indexing
  deriving DecidableEq

/-- How the use of a receiver reads. -/
def Use.text : Use → String
  | calling method => s!"calling '{method}'"
  | reading member => s!"reading '{member}'"
  | indexing => "indexing an array"

/-- Operations that name themselves in failures. -/
inductive Operation where
  | addition | subtraction | multiplication | division | remainder
  | leftShift | rightShift | comparison
  | bitwiseAnd | bitwiseOr | bitwiseXor
  | negation | logicalNot | complement
  | conversion | arrayCreation
  deriving DecidableEq

/-- The name of an operation. -/
def Operation.text : Operation → String
  | addition => "addition"
  | subtraction => "subtraction"
  | multiplication => "multiplication"
  | division => "division"
  | remainder => "remainder"
  | leftShift => "left shift"
  | rightShift => "right shift"
  | comparison => "comparison"
  | bitwiseAnd => "bitwise and"
  | bitwiseOr => "bitwise or"
  | bitwiseXor => "bitwise xor"
  | negation => "negation"
  | logicalNot => "logical not"
  | complement => "bitwise complement"
  | conversion => "conversion"
  | arrayCreation => "array creation"

/-- Failures of a running formula. -/
inductive RuntimeError where
  | divisionByZero
  | overflow (operation : Operation)
  /-- A receiver was `null`. -/
  | nullReceiver (use : Use)
  /-- `null` has no counterpart in the target type. -/
  | nullConversion (target : Ty)
  /-- A nullable without a value was asked for it. -/
  | nullValue
  | invalidCast (source target : Ty)
  /-- A code point that no character has. -/
  | invalidCharacter (code : Nat)
  /-- Operands that the operation does not take. -/
  | operands (operation : Operation) (left : Ty) (right : Option Ty)
  /-- A condition that is no truth value. -/
  | notCondition (found : Ty)
  /-- An indexed value that is no array. -/
  | notArray (found : Ty)
  /-- A type that has no predefined size. -/
  | unsized (ty : Ty)
  | indexOutOfRange (index : Int) (length : Nat)
  | argumentCount (expected actual : Nat)
  /-- A parameter was read to which no argument was given. -/
  | missingArgument (ordinal actual : Nat)
  | argumentType (index : Nat) (mismatch : Mismatch)
  | resultType (mismatch : Mismatch)
  | native (error : NativeError)
  deriving DecidableEq

namespace RuntimeError

/-- The name of the family of a failure. -/
def name : RuntimeError → String
  | divisionByZero => "DivisionByZero"
  | overflow _ => "Overflow"
  | nullReceiver _ | nullConversion _ => "NullReference"
  | nullValue => "NullValue"
  | invalidCast _ _ | invalidCharacter _ | operands _ _ _ | notCondition _ | notArray _
  | unsized _ => "InvalidCast"
  | indexOutOfRange _ _ => "IndexOutOfRange"
  | argumentCount _ _ | missingArgument _ _ => "ArgumentCount"
  | argumentType _ _ => "ArgumentType"
  | resultType _ => "ResultType"
  | native _ => "Native"

/-- How operands read in a failure. -/
def operandsText (left : Ty) : Option Ty → String
  | some right => s!"{left.text} and {right.text}"
  | none => left.text

/-- How an impossible cast reads. -/
def castText (source target : String) : String := s!"unable to cast {source} to {target}"

/-- How the use of a null reference reads. -/
def nullText (context : String) : String := s!"object reference not set to an instance: {context}"

/-- How a failure reads. -/
def message : RuntimeError → String
  | divisionByZero => "attempted to divide by zero"
  | overflow operation => s!"arithmetic overflow in {operation.text}"
  | nullReceiver use => nullText use.text
  | nullConversion target => nullText s!"conversion to '{target.text}'"
  | nullValue => "nullable object must have a value"
  | invalidCast source target => castText source.text target.text
  | invalidCharacter code => castText ("0x" ++ Digest.hex 1 code) "char"
  | operands operation left right =>
    castText (operandsText left right) s!"an operand of {operation.text}"
  | notCondition found => castText found.text Ty.bool.text
  | notArray found => castText found.text "an array"
  | unsized ty => castText ty.text "a primitive type"
  | indexOutOfRange index length =>
    s!"index {index} is outside the bounds of an array of length {length}"
  | argumentCount expected actual => s!"expected {expected} arguments, got {actual}"
  | missingArgument ordinal actual => s!"expected {ordinal + 1} arguments, got {actual}"
  | argumentType index mismatch => s!"argument {index} has the wrong type: {mismatch.message}"
  | resultType mismatch => s!"result: {mismatch.message}"
  | native error => error.message

end RuntimeError
end Formula
