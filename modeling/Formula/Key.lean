import Formula.Value.Basic

/-! Keys of dictionaries. A value is projected to a key under which all the integer kinds but `ulong`
agree, and so do the two floating kinds; an object goes by its address, a type by its full name, and
an array has no key. -/
namespace Formula

/-- The key of a value. -/
inductive Key where
  | integer (n : Int)
  | unsignedLong (n : Int)
  | floating (x : Float)
  | decimal (d : Decimal)
  | bool (b : Bool)
  | char (c : Char)
  | string (s : String)
  | type (name : String)
  /-- An object that lies at an address. -/
  | object (address : Nat)
  | null

namespace Key

/-- The key of a value, if it has one. A key does not keep an object alive: once it is gone, another
may lie at its address and have its key. -/
def of? (address : Nat → Nat) : Value → Option Key
  | .null => some null
  | .bool b => some (bool b)
  | .char c => some (char c)
  | .integer .ulong n => some (unsignedLong n.val)
  | .integer _ n => some (integer n.val)
  | .float x => some (floating (Floating.widen x))
  | .double x => some (floating x)
  | .decimal d => some (decimal d)
  | .string s => some (string s)
  | .type ty => some (type ty.fullName)
  | .object handle => some (object (address handle.cell))
  | .array .. => none

/-- Whether two keys are the same. Numbers compare by value, and what is not a number equals itself. -/
def same : Key → Key → Bool
  | integer a, integer b => a == b
  | unsignedLong a, unsignedLong b => a == b
  | floating a, floating b => (a.isNaN && b.isNaN) || a == b
  | decimal a, decimal b => a.equals b
  | bool a, bool b => a == b
  | char a, char b => a == b
  | string a, string b => a == b
  | type a, type b => a == b
  | object a, object b => a == b
  | null, null => true
  | _, _ => false

/-- A key as it reads in a listing. -/
def listing : Key → String
  | integer n => s!"Int({n})"
  | unsignedLong n => s!"ULong({n})"
  | floating x => s!"Float({Floating.listing x})"
  | decimal d => s!"Decimal({d.text})"
  | bool b => s!"Bool({b})"
  | char c => s!"Char({Text.quotedChar c})"
  | string s => s!"String({Text.quoted s})"
  | type name => s!"Type({Text.quoted name})"
  | object address => s!"Object({address})"
  | null => "Null"

end Key
end Formula
