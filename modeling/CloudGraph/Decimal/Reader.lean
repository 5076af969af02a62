import CloudGraph.Decimal.Binary64
import CloudGraph.Text.Casing

/-!
# Reading doubles

A double is read from decimal digits, with a point among them or at either end and with a power
of ten or without. `ofText?` also takes a sign and the names of the values that are not finite.
-/

namespace CloudGraph.Decimal

/-- The value of one or more digits. -/
def natural? (ds : List Char) : Option Nat :=
  if ds.isEmpty || !ds.all Char.isDigit then none else some (digitsValue ds)

/-- The value of one or more digits behind a sign or none. -/
def power? : List Char → Option Int
  | '+' :: ds => (natural? ds).map Int.ofNat
  | '-' :: ds => (natural? ds).map fun n => -(n : Int)
  | ds => (natural? ds).map Int.ofNat

/-- A decimal with digits before or after its point, and perhaps a power of ten. -/
def unsigned? (negative : Bool) (cs : List Char) : Option Float := do
  let (whole, rest) := cs.span Char.isDigit
  let (fraction, rest) := match rest with
    | '.' :: rest => rest.span Char.isDigit
    | _ => ([], rest)
  if whole.isEmpty && fraction.isEmpty then none
  else
    let power ← match rest with
      | [] => some 0
      | e :: rest => if e == 'e' || e == 'E' then power? rest else none
    return ofDecimal negative (digitsValue (whole ++ fraction)) (power - fraction.length)

/-- Infinity or no number at all, by name in any case of letters. -/
def named? (negative : Bool) (cs : List Char) : Option Float :=
  let name := Text.lowerAscii (String.ofList cs)
  if name = "inf" || name = "infinity" then
    some (if negative then -1.0 / 0.0 else 1.0 / 0.0)
  else if name = "nan" then some (0.0 / 0.0)
  else none

/-- The sign of a number and its magnitude. -/
def splitSign : List Char → Bool × List Char
  | '-' :: rest => (true, rest)
  | '+' :: rest => (false, rest)
  | cs => (false, cs)

/-- The double that a text names. -/
def ofText? (text : String) : Option Float :=
  let (negative, rest) := splitSign text.toList
  named? negative rest <|> unsigned? negative rest

end CloudGraph.Decimal
