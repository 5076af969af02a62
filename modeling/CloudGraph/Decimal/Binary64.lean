/-!
# Doubles and decimals

A finite double is `± mantissa · 2 ^ exponent`. `parts` reads the three off a double, and
`ofDecimal` gives the double nearest to `digits · 10 ^ exponent`, a tie going to the even
mantissa. Both work on the bits of the double in exact arithmetic.
-/

namespace CloudGraph.Decimal

/-- The quotient `n / d`, rounded to the nearest integer and on a tie to the even one. -/
def roundDiv (n d : Nat) : Nat :=
  let q := n / d
  let r := 2 * (n % d)
  if r < d then q
  else if d < r then q + 1
  else if q % 2 = 0 then q else q + 1

/-- Sign, mantissa and exponent of a finite double. -/
structure Parts where
  negative : Bool
  mantissa : Nat
  exponent : Int
deriving DecidableEq, Repr

/-- The bit of a mantissa that the bits of a double leave out. -/
def hiddenBit : Nat := 0x10000000000000

/-- The bit of the sign. -/
def signBit : Nat := 0x8000000000000000

/-- The bits of an infinite double, without its sign. -/
def infiniteMagnitude : Nat := 0x7FF0000000000000

/-- The least exponent of a double. -/
def minExponent : Int := -1074

def parts (x : Float) : Parts :=
  let bits := x.toBits.toNat
  let magnitude := bits % signBit
  let field := magnitude / hiddenBit
  let low := magnitude % hiddenBit
  { negative := signBit ≤ bits
    mantissa := if field = 0 then low else hiddenBit + low
    exponent := if field = 0 then minExponent else minExponent + (field - 1 : Nat) }

/-- The double with the given sign and magnitude bits; too large a magnitude is infinite. -/
def ofMagnitude (negative : Bool) (magnitude : Nat) : Float :=
  let bits := min magnitude infiniteMagnitude
  Float.ofBits (UInt64.ofNat (if negative then bits + signBit else bits))

/-- `n · 2 ^ (-shift) / d` rounded to an integer. -/
def scaledQuotient (n d : Nat) (shift : Int) : Nat :=
  if 0 ≤ shift then roundDiv n (d * Nat.pow 2 shift.toNat)
  else roundDiv (n * Nat.pow 2 (-shift).toNat) d

/-- The magnitude bits of the double nearest to `n / d`, for positive `n` and `d`.

The exponent is chosen so that the quotient has 53 binary digits, or is the least one. A
mantissa that rounds up to `2 ^ 53` carries into the exponent field, which is then right. -/
def nearestMagnitude (n d : Nat) : Nat :=
  let guess : Int := (n.log2 : Int) - (d.log2 : Int) - 52
  let below : Bool :=
    if 0 ≤ guess then n < d * hiddenBit * Nat.pow 2 guess.toNat
    else n * Nat.pow 2 (-guess).toNat < d * hiddenBit
  let exponent := max minExponent (if below then guess - 1 else guess)
  (exponent - minExponent).toNat * hiddenBit + scaledQuotient n d exponent

/-- The double nearest to `digits · 10 ^ exponent`, with the given sign. -/
def ofDecimal (negative : Bool) (digits : Nat) (exponent : Int) : Float :=
  if digits = 0 then ofMagnitude negative 0
  else
    let top := ((Nat.toDigits 10 digits).length : Int) + exponent
    if 400 < top then ofMagnitude negative infiniteMagnitude
    else if top < -400 then ofMagnitude negative 0
    else if 0 ≤ exponent then
      ofMagnitude negative (nearestMagnitude (digits * Nat.pow 10 exponent.toNat) 1)
    else ofMagnitude negative (nearestMagnitude digits (Nat.pow 10 (-exponent).toNat))

/-! ## Reading digits -/

/-- The value of a run of decimal digits. -/
def digitsValue (ds : List Char) : Nat :=
  ds.foldl (fun n d => 10 * n + (d.toNat - '0'.toNat)) 0

def digitText (n : Nat) : List Char :=
  Nat.toDigits 10 n

theorem digitText_injective {m n : Nat} (h : digitText m = digitText n) : m = n := by
  have hvalue := congrArg (fun ds => Nat.ofDigitChars 10 ds 0) h
  simpa [digitText] using hvalue

end CloudGraph.Decimal
