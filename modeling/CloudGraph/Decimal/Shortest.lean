import CloudGraph.Decimal.Binary64

/-!
# The shortest decimal of a double

`shortest x` is the decimal with the fewest digits that is read back as `x`; among those it is
the nearest to `x`. Every real between the two midpoints around `x` is read back as `x`, and a
midpoint is when the mantissa is even. If the decimal grid with `n` digits has a point there,
one of the two grid neighbours of `x` is such a point, so only these are tried.

`Style` says how the digits are laid out.
-/

namespace CloudGraph.Decimal

/-- The reals that are read back as one double, in quarters of a unit `2 ^ exponent`. -/
structure ReadBack where
  low : Nat
  value : Nat
  high : Nat
  exponent : Int
  closed : Bool

def Parts.readBack (p : Parts) : ReadBack where
  low := if p.mantissa = hiddenBit ∧ minExponent < p.exponent then 4 * p.mantissa - 1
    else 4 * p.mantissa - 2
  value := 4 * p.mantissa
  high := 4 * p.mantissa + 2
  exponent := p.exponent - 2
  closed := p.mantissa % 2 = 0

/-- Numerator and denominator of `n · 2 ^ twos · 10 ^ tens`. -/
def fraction (n : Nat) (twos tens : Int) : Nat × Nat :=
  (n * Nat.pow 2 twos.toNat * Nat.pow 10 tens.toNat,
    Nat.pow 2 (-twos).toNat * Nat.pow 10 (-tens).toNat)

/-- A decimal `digits · 10 ^ exponent`. -/
structure Digits where
  digits : Nat
  exponent : Int
deriving DecidableEq, Repr

/-- Whether `c` steps of `10 ^ step` lie between the midpoints. -/
def ReadBack.holds (r : ReadBack) (step : Int) (c : Nat) : Bool :=
  -- All three numbers on one scale: units of `2 ^ exponent`, or of `10 ^ step` over a power of two.
  let (n, d) := fraction c (-r.exponent) step
  if r.closed then r.low * d ≤ n && n ≤ r.high * d else r.low * d < n && n < r.high * d

/-- The grid point with the step `10 ^ step` that is read back, the nearer one of two. -/
def ReadBack.onGrid? (r : ReadBack) (step : Int) : Option Digits :=
  let (n, d) := fraction r.value r.exponent (-step)
  let c := n / d
  let nearerBelow : Bool := 2 * (n % d) < d || (2 * (n % d) == d && c % 2 == 0)
  match r.holds step c && c != 0, r.holds step (c + 1) with
  | true, true => some ⟨if nearerBelow then c else c + 1, step⟩
  | true, false => some ⟨c, step⟩
  | false, true => some ⟨c + 1, step⟩
  | false, false => none

/-- The number of decimal digits before the point, counted from the first digit that is not zero. -/
def ReadBack.magnitude (r : ReadBack) : Int :=
  let (n, d) := fraction r.value r.exponent 0
  if d ≤ n then (digitText (n / d)).length
  else -((digitText ((d - 1) / n)).length : Int) + 1

def stripZeros : Nat → Nat → Int → Digits
  | 0, n, e => ⟨n, e⟩
  | fuel + 1, n, e => if n % 10 = 0 ∧ n ≠ 0 then stripZeros fuel (n / 10) (e + 1) else ⟨n, e⟩

/-- The shortest decimal of a finite double's magnitude. -/
def shortest (x : Float) : Digits :=
  let p := parts x
  if p.mantissa = 0 then ⟨0, 0⟩
  else
    let r := p.readBack
    let top := r.magnitude
    match (List.range 18).findSome? fun n => r.onGrid? (top - (n + 1 : Nat)) with
    | some d => stripZeros 20 d.digits d.exponent
    | none => ⟨p.mantissa, p.exponent⟩

/-! ## Layout -/

/-- How a double is written: which exponents of the first digit are written with a plain point,
the sign of a positive exponent, whether a whole number keeps `.0`, and the names of the rest. -/
structure Style where
  positional : Option (Int × Int)
  plus : String
  keepFraction : Bool
  notANumber : String
  infinite : String

def zeros (n : Nat) : List Char :=
  List.replicate n '0'

/-- The digits with a plain decimal point. -/
def positionalText (keepFraction : Bool) (d : Digits) : List Char :=
  let ds := digitText d.digits
  let whole := (ds.length : Int) + d.exponent
  if 0 ≤ d.exponent then
    ds ++ zeros d.exponent.toNat ++ (if keepFraction then ['.', '0'] else [])
  else if 0 < whole then ds.take whole.toNat ++ '.' :: ds.drop whole.toNat
  else '0' :: '.' :: zeros (-whole).toNat ++ ds

/-- The digits with an exponent: one digit, the others after a point, and the power of ten. -/
def exponentText (plus : String) (d : Digits) : List Char :=
  let ds := digitText d.digits
  let e := (ds.length : Int) + d.exponent - 1
  let mantissa := match ds with
    | c :: (c' :: cs) => c :: '.' :: c' :: cs
    | _ => ds
  let sign := if e < 0 then ['-'] else plus.toList
  mantissa ++ 'e' :: sign ++ digitText e.natAbs

/-- Write a double in a style. -/
def Style.render (style : Style) (x : Float) : String :=
  let p := parts x
  let sign := if p.negative then ['-'] else []
  if x.isNaN then style.notANumber
  else if x.isInf then String.ofList (sign ++ style.infinite.toList)
  else
    let d := shortest x
    let e := ((digitText d.digits).length : Int) + d.exponent - 1
    let plain := match style.positional with
      | some (least, greatest) => least ≤ e && e ≤ greatest
      | none => true
    String.ofList (sign ++
      if plain || d.digits == 0 then positionalText style.keepFraction d
      else exponentText style.plus d)

/-- The plain number of a message: no exponent, and no fraction on a whole number. -/
def plainStyle : Style where
  positional := none
  plus := ""
  keepFraction := false
  notANumber := "NaN"
  infinite := "inf"

end CloudGraph.Decimal
