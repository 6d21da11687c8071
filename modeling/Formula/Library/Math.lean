import Formula.Library.Primitive

/-! Mathematical functions and conversions between primitive kinds by name. -/
namespace Formula.Library

/-- A number rounded to decimal places, half to even. -/
def roundPlaces (x : Float) (places : Word .int) : Float :=
  let scale := Floating.power 10.0 places.val
  Floating.roundHalfToEven (x * scale) / scale

/-- Mathematical functions. -/
def mathClass (registry : Registry) : Entry :=
  (registry.newClass "System.Math").asStatic
    |>.withConstant "PI" .double (Float.ofBits 0x400921FB54442D18)
    |>.withConstant "E" .double (Float.ofBits 0x4005BF0A8B145769)
    |>.withFunction "Sin" [.double] .double (fun (x : Float) => x.sin)
    |>.withFunction "Cos" [.double] .double (fun (x : Float) => x.cos)
    |>.withFunction "Tan" [.double] .double (fun (x : Float) => x.tan)
    |>.withFunction "Asin" [.double] .double (fun (x : Float) => x.asin)
    |>.withFunction "Acos" [.double] .double (fun (x : Float) => x.acos)
    |>.withFunction "Atan" [.double] .double (fun (x : Float) => x.atan)
    |>.withFunction "Atan2" [.double, .double] .double (fun (y x : Float) => Float.atan2 y x)
    |>.withFunction "Sinh" [.double] .double (fun (x : Float) => x.sinh)
    |>.withFunction "Cosh" [.double] .double (fun (x : Float) => x.cosh)
    |>.withFunction "Tanh" [.double] .double (fun (x : Float) => x.tanh)
    |>.withFunction "Sqrt" [.double] .double (fun (x : Float) => x.sqrt)
    |>.withFunction "Pow" [.double, .double] .double (fun (x y : Float) => x.pow y)
    |>.withFunction "Exp" [.double] .double (fun (x : Float) => x.exp)
    |>.withFunction "Log" [.double] .double (fun (x : Float) => x.log)
    |>.withFunction "Log" [.double, .double] .double (fun (x base : Float) => x.log / base.log)
    |>.withFunction "Log10" [.double] .double (fun (x : Float) => x.log10)
    |>.withFunction "Floor" [.double] .double (fun (x : Float) => x.floor)
    |>.withFunction "Ceiling" [.double] .double (fun (x : Float) => x.ceil)
    |>.withFunction "Truncate" [.double] .double (fun (x : Float) => Floating.truncate x)
    |>.withFunction "Round" [.double] .double (fun (x : Float) => Floating.roundHalfToEven x)
    |>.withFunction "Round" [.double, .int] .double (fun (x : Float) (n : Word .int) => roundPlaces x n)
    |>.withFunction "Round" [.decimal] .decimal (fun (d : Decimal) => d.round)
    |>.withFunction "Abs" [.double] .double (fun (x : Float) => x.abs)
    |>.withFunction "Abs" [.float] .float (fun (x : Float32) => x.abs)
    |>.withFunction "Abs" [.int] .int (fun (n : Word .int) => n.abs)
    |>.withFunction "Abs" [.long] .long (fun (n : Word .long) => n.abs)
    |>.withFunction "Abs" [.decimal] .decimal (fun (d : Decimal) => d.abs)
    |>.withFunction "Sign" [.double] .int (fun (x : Float) => Word.ofInt .int (Floating.sign x))
    |>.withFunction "Sign" [.int] .int (fun (n : Word .int) => Word.ofInt .int n.val.sign)
    |>.withFunction "Min" [.double, .double] .double (fun (x y : Float) => Floating.least x y)
    |>.withFunction "Min" [.int, .int] .int (fun (a b : Word .int) => if b.val < a.val then b else a)
    |>.withFunction "Min" [.long, .long] .long
      (fun (a b : Word .long) => if b.val < a.val then b else a)
    |>.withFunction "Max" [.double, .double] .double (fun (x y : Float) => Floating.greatest x y)
    |>.withFunction "Max" [.int, .int] .int (fun (a b : Word .int) => if a.val < b.val then b else a)
    |>.withFunction "Max" [.long, .long] .long
      (fun (a b : Word .long) => if a.val < b.val then b else a)

/-- Conversions by name. A double is rounded to the nearest integer, half to even, and held at the
ends of the range. -/
def convertClass (registry : Registry) : Entry :=
  (registry.newClass "System.Convert").asStatic
    |>.withFunction "ToInt32" [.double] .int
      (fun (x : Float) => Floating.toWord .int (Floating.roundHalfToEven x))
    |>.withFunction "ToInt32" [.long] .int (fun (n : Word .long) => Word.ofInt .int n.val)
    |>.withFunction "ToInt32" [.bool] .int (fun (b : Bool) => Word.ofInt .int b.toInt)
    |>.withStatic "ToInt32" [.string] .int (parsing .int (Word.read? .int))
    |>.withFunction "ToInt64" [.double] .long
      (fun (x : Float) => Floating.toWord .long (Floating.roundHalfToEven x))
    |>.withFunction "ToInt64" [.int] .long (fun (n : Word .int) => Word.ofInt .long n.val)
    |>.withFunction "ToDouble" [.int] .double (fun (n : Word .int) => Floating.doubleOfInt n.val)
    |>.withFunction "ToDouble" [.long] .double (fun (n : Word .long) => Floating.doubleOfInt n.val)
    |>.withFunction "ToDouble" [.float] .double Floating.widen
    |>.withStatic "ToDouble" [.string] .double (parsing .double Floating.readDouble?)
    |>.withFunction "ToBoolean" [.int] .bool (fun (n : Word .int) => n.val != 0)
    |>.withStatic "ToString" [.object] .string (fun call => do
      return .string (← call.argument 0).text)

/-- Registers the mathematical functions and the conversions. -/
def addMath (registry : Registry) : Except RegistrationError Registry := do
  let registry ← registry.add (mathClass registry)
  registry.add (convertClass registry)

end Formula.Library
