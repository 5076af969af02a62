import CloudGraph.Decimal.Shortest

/-!
# Fixed places

`fixed places x` writes a double with a set number of decimal places. It rounds the exact value
of the double; a tie goes to the even last digit. `toByte` rounds to no places at all and counts
up to 255; there a tie goes up.
-/

namespace CloudGraph.Decimal

/-- Write `n` units of `10 ^ (-places)`. -/
def placesText (places n : Nat) : List Char :=
  let ds := digitText n
  let ds := zeros (places + 1 - ds.length) ++ ds
  let whole := ds.length - places
  if places = 0 then ds else ds.take whole ++ '.' :: ds.drop whole

def fixed (places : Nat) (x : Float) : String :=
  let p := parts x
  let sign := if p.negative then ['-'] else []
  if x.isNaN then plainStyle.notANumber
  else if x.isInf then String.ofList (sign ++ plainStyle.infinite.toList)
  else
    let (n, d) := fraction p.mantissa p.exponent places
    String.ofList (sign ++ placesText places (roundDiv n d))

/-- The integer nearest to a double, a half upwards. What is below 0 or not a number becomes 0,
and what is above 255 becomes 255. -/
def toByte (x : Float) : Nat :=
  let p := parts x
  if x.isNaN || p.negative then 0
  else
    let (n, d) := fraction p.mantissa p.exponent 0
    min ((2 * n + d) / (2 * d)) 255

end CloudGraph.Decimal
