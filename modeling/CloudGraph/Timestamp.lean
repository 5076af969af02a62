import CloudGraph.Decimal.Binary64

/-!
# Points in time

A timestamp counts seconds and nanoseconds since the start of 1970, in UTC. `Timestamp.text`
writes it by its date and its time of day, with as many groups of three fraction digits as the
nanoseconds need. Nanoseconds beyond a second belong to a leap second: they are written in second
60 behind second 59. The calendar is the Gregorian one, extended to all years.
-/

namespace CloudGraph

structure Timestamp where
  seconds : Int
  nanos : Nat := 0
deriving DecidableEq, Repr

namespace Timestamp

/-- Year, month and day of a day counted from the start of 1970.

The count is moved to 1 March of the year 0, so that a leap day ends its year, its century and
its era of 400 years. -/
def civil (day : Int) : Int × Nat × Nat :=
  let z := day + 719468
  let era := Int.fdiv z 146097
  let inEra := (Int.fmod z 146097).toNat
  let yearInEra := (inEra - inEra / 1460 + inEra / 36524 - inEra / 146096) / 365
  let dayInYear := inEra - (365 * yearInEra + yearInEra / 4 - yearInEra / 100)
  let monthFromMarch := (5 * dayInYear + 2) / 153
  let dayInMonth := dayInYear - (153 * monthFromMarch + 2) / 5 + 1
  let month := if monthFromMarch < 10 then monthFromMarch + 3 else monthFromMarch - 9
  let year : Int := yearInEra + era * 400
  (if month ≤ 2 then year + 1 else year, month, dayInMonth)

/-- The digits of a number, with zeros in front up to a width. -/
def padded (width n : Nat) : List Char :=
  let ds := Decimal.digitText n
  List.replicate (width - ds.length) '0' ++ ds

/-- Four digits, and outside these a sign and at least five. -/
def yearText (year : Int) : List Char :=
  if 0 ≤ year ∧ year ≤ 9999 then padded 4 year.toNat
  else (if year < 0 then '-' else '+') :: padded (if year < 0 then 4 else 5) year.natAbs

def fractionText (nanos : Nat) : List Char :=
  if nanos = 0 then []
  else if nanos % 1000000 = 0 then '.' :: padded 3 (nanos / 1000000)
  else if nanos % 1000 = 0 then '.' :: padded 6 (nanos / 1000)
  else '.' :: padded 9 nanos

/-- How many nanoseconds a second has. -/
def nanosPerSecond : Nat := 1000000000

def text (t : Timestamp) : String :=
  let day := Int.fdiv t.seconds 86400
  let second := (Int.fmod t.seconds 86400).toNat
  let leap := t.nanos / nanosPerSecond
  let (year, month, dayInMonth) := civil day
  String.ofList (yearText year ++ '-' :: padded 2 month ++ '-' :: padded 2 dayInMonth
    ++ 'T' :: padded 2 (second / 3600) ++ ':' :: padded 2 (second / 60 % 60)
    ++ ':' :: padded 2 (second % 60 + leap) ++ fractionText (t.nanos % nanosPerSecond) ++ ['Z'])

end Timestamp

end CloudGraph
