/-!
# Digits of other bases

Hexadecimal digits, and the numbers and characters that digits name. Reading takes letters of
either case.
-/

namespace CloudGraph.Text

/-- The lower-case hexadecimal digit of `n < 16`. -/
def hexDigit (n : Nat) : Char :=
  Char.ofNat (if n < 10 then '0'.toNat + n else 'a'.toNat + (n - 10))

/-- The last hexadecimal digits of a number, as many as `width`. -/
def hexDigits : Nat → Nat → List Char
  | 0, _ => []
  | width + 1, n => hexDigits width (n / 16) ++ [hexDigit (n % 16)]

def hexValue? (c : Char) : Option Nat :=
  if '0' ≤ c ∧ c ≤ '9' then some (c.toNat - '0'.toNat)
  else if 'a' ≤ c ∧ c ≤ 'f' then some (c.toNat - 'a'.toNat + 10)
  else if 'A' ≤ c ∧ c ≤ 'F' then some (c.toNat - 'A'.toNat + 10)
  else none

/-- The value of a digit to a base of at most sixteen. -/
def digitValue? (base : Nat) (c : Char) : Option Nat :=
  (hexValue? c).filter (· < base)

/-- The value of digits to a base; no digits are zero. -/
def valueOfDigits? (base : Nat) (digits : List Char) : Option Nat :=
  digits.foldlM (fun n c => return n * base + (← digitValue? base c)) 0

/-- The character with a number in hexadecimal digits; half a surrogate pair is none. -/
def charOfDigits? (digits : List Char) : Option Char := do
  let n ← valueOfDigits? 16 digits
  if n.isValidChar then some (Char.ofNat n) else none

end CloudGraph.Text
