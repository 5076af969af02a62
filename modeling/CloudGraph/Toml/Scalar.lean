import CloudGraph.Decimal.Reader
import CloudGraph.Text.Hexadecimal
import CloudGraph.Toml.Basic

/-!
# TOML scalars

Texts stand in double quotes, with escapes, or in single quotes, without; three quotes make a
text that may have line breaks. Numbers may have underscores between their digits. Dates and
times are checked for their form and their ranges.
-/

namespace CloudGraph.Toml

def isBlank (c : Char) : Bool :=
  c == ' ' || c == '\t'

/-- Characters that a comment or a literal text may hold. -/
def isPlainChar (c : Char) : Bool :=
  c == '\t' || (0x20 ≤ c.toNat && c.toNat ≠ 0x7F)

/-- What follows a line break, if one comes first. -/
def takeBreak? : List Char → Option (List Char)
  | '\n' :: rest => some rest
  | '\r' :: '\n' :: rest => some rest
  | _ => none

/-! ## Texts -/

def simpleEscape? (c : Char) : Option Char :=
  match c with
  | 'b' => some '\x08'
  | 't' => some '\t'
  | 'n' => some '\n'
  | 'f' => some '\x0c'
  | 'r' => some '\r'
  | '"' => some '"'
  | '\\' => some '\\'
  | _ => none

/-- The character of the escape behind a backslash, and the rest. -/
def escapeFrom : List Char → Option (Char × List Char)
  | 'u' :: rest =>
    if (rest.take 4).length = 4 then (Text.charOfDigits? (rest.take 4)).map (·, rest.drop 4) else none
  | 'U' :: rest =>
    if (rest.take 8).length = 8 then (Text.charOfDigits? (rest.take 8)).map (·, rest.drop 8) else none
  | c :: rest => (simpleEscape? c).map (·, rest)
  | [] => none

/-- A text on one line up to its closing quote. -/
def basicFrom : Nat → List Char → Option (List Char × List Char)
  | 0, _ => none
  | fuel + 1, cs =>
    match cs with
    | '"' :: rest => some ([], rest)
    | '\\' :: rest => do
      let (c, rest) ← escapeFrom rest
      let (text, rest) ← basicFrom fuel rest
      return (c :: text, rest)
    | c :: rest =>
      if isPlainChar c then (basicFrom fuel rest).map fun (text, rest) => (c :: text, rest)
      else none
    | [] => none

def literalFrom : List Char → Option (List Char × List Char)
  | '\'' :: rest => some ([], rest)
  | c :: rest =>
    if isPlainChar c then (literalFrom rest).map fun (text, rest) => (c :: text, rest) else none
  | [] => none

/-- The quotes that belong to a long text before the three that close it, of a run of `n`. -/
def innerQuotes? (n : Nat) : Option Nat :=
  if n ≤ 5 then some (n - 3) else none

/-- What follows a backslash at the end of a line: the next text, on whatever line. -/
def skipGap : List Char → List Char
  | '\r' :: '\n' :: rest => skipGap rest
  | c :: rest => if isBlank c || c == '\n' then skipGap rest else c :: rest
  | [] => []

/-- Whether blanks and a line break come first. -/
def isLineEnd (cs : List Char) : Bool :=
  (takeBreak? (cs.dropWhile isBlank)).isSome

/-- A text of several lines up to its closing quotes; `escapes` says whether a backslash has a
meaning. -/
def longFrom (quote : Char) (escapes : Bool) :
    Nat → List Char → Option (List Char × List Char)
  | 0, _ => none
  | fuel + 1, cs =>
    match takeBreak? cs with
    | some rest => (longFrom quote escapes fuel rest).map fun (text, rest) => ('\n' :: text, rest)
    | none =>
      match cs with
      | [] => none
      | c :: rest =>
        if c == quote then
          let run := cs.takeWhile (· == quote)
          if run.length < 3 then
            (longFrom quote escapes fuel rest).map fun (text, rest) => (c :: text, rest)
          else
            (innerQuotes? run.length).map fun n =>
              (List.replicate n quote, cs.drop run.length)
        else if escapes && c == '\\' then
          if isLineEnd rest then longFrom quote escapes fuel (skipGap rest)
          else do
            let (c, rest) ← escapeFrom rest
            let (text, rest) ← longFrom quote escapes fuel rest
            return (c :: text, rest)
        else if isPlainChar c then
          (longFrom quote escapes fuel rest).map fun (text, rest) => (c :: text, rest)
        else none

/-- A long text loses the line break right behind its opening quotes. -/
def longText (quote : Char) (escapes : Bool) (cs : List Char) :
    Option (List Char × List Char) :=
  longFrom quote escapes (cs.length + 1) ((takeBreak? cs).getD cs)

/-- A text in any quotes, and the rest. -/
def textFrom? (cs : List Char) : Option (String × List Char) :=
  let parsed := match cs with
    | '"' :: '"' :: '"' :: rest => longText '"' true rest
    | '\'' :: '\'' :: '\'' :: rest => longText '\'' false rest
    | '"' :: rest => basicFrom (rest.length + 1) rest
    | '\'' :: rest => literalFrom rest
    | _ => none
  parsed.map fun (text, rest) => (String.ofList text, rest)

/-! ## Numbers -/

/-- The digits of a number without the underscores, each of which stands between two digits. -/
def digits? (isDigit : Char → Bool) : List Char → Option (List Char)
  | [] => none
  | [c] => if isDigit c then some [c] else none
  | c :: '_' :: rest => if isDigit c then (digits? isDigit rest).map (c :: ·) else none
  | c :: rest => if isDigit c then (digits? isDigit rest).map (c :: ·) else none

def decimalDigits? (cs : List Char) : Option (List Char) :=
  digits? Char.isDigit cs

/-- Decimal digits that do not start with a needless zero. -/
def wholeDigits? (cs : List Char) : Option (List Char) :=
  match cs with
  | '0' :: _ :: _ => none
  | _ => decimalDigits? cs

def digitsToBase? (base : Nat) (cs : List Char) : Option Nat := do
  let digits ← digits? (fun c => (Text.digitValue? base c).isSome) cs
  Text.valueOfDigits? base digits

/-- An integer that 64 bits hold. -/
def integer? (cs : List Char) : Option Int := do
  let n : Int ← match cs with
    | '0' :: 'x' :: rest => (digitsToBase? 16 rest).map Int.ofNat
    | '0' :: 'o' :: rest => (digitsToBase? 8 rest).map Int.ofNat
    | '0' :: 'b' :: rest => (digitsToBase? 2 rest).map Int.ofNat
    | _ =>
      let (negative, rest) := Decimal.splitSign cs
      (wholeDigits? rest).map fun ds =>
        if negative then -(Decimal.digitsValue ds : Int) else Decimal.digitsValue ds
  if -0x8000000000000000 ≤ n ∧ n < 0x8000000000000000 then some n else none

/-- The power of ten behind `e`. -/
def power? (cs : List Char) : Option Int :=
  let (negative, rest) := Decimal.splitSign cs
  (decimalDigits? rest).map fun ds =>
    if negative then -(Decimal.digitsValue ds : Int) else Decimal.digitsValue ds

/-- A double with a fraction or a power of ten, or one of the two that are not finite. One that
is too large has no value unless it is negative. -/
def double? (cs : List Char) : Option Float := do
  let (negative, rest) := Decimal.splitSign cs
  if rest = "inf".toList then return if negative then -1.0 / 0.0 else 1.0 / 0.0
  if rest = "nan".toList then return 0.0 / 0.0
  let (mantissa, tail) := rest.span fun c => c != 'e' && c != 'E'
  let (whole, fraction) := mantissa.span (· != '.')
  let whole ← wholeDigits? whole
  let fraction ← match fraction with
    | [] => if tail.isEmpty then none else some []
    | _ :: ds => decimalDigits? ds
  let power ← match tail with
    | [] => some 0
    | _ :: ds => power? ds
  let x := Decimal.ofDecimal negative (Decimal.digitsValue (whole ++ fraction))
    (power - fraction.length)
  if x.isInf && !negative then none else some x

/-! ## Dates and times -/

/-- A number of `n` digits in a range, and the rest. -/
def field? (n least greatest : Nat) (cs : List Char) : Option (Nat × List Char) :=
  let ds := cs.take n
  if ds.length = n && ds.all Char.isDigit then
    let value := Decimal.digitsValue ds
    if least ≤ value && value ≤ greatest then some (value, cs.drop n) else none
  else none

def mark? (p : Char → Bool) : List Char → Option (List Char)
  | c :: rest => if p c then some rest else none
  | [] => none

def daysOfMonth (year month : Nat) : Nat :=
  if month = 2 then
    if year % 4 = 0 ∧ (year % 100 ≠ 0 ∨ year % 400 = 0) then 29 else 28
  else if month = 4 ∨ month = 6 ∨ month = 9 ∨ month = 11 then 30
  else 31

/-- What follows a date. -/
def date? (cs : List Char) : Option (List Char) := do
  let (year, cs) ← field? 4 0 9999 cs
  let (month, cs) ← field? 2 1 12 (← mark? (· == '-') cs)
  let (_, cs) ← field? 2 1 (daysOfMonth year month) (← mark? (· == '-') cs)
  return cs

/-- What follows a time; seconds may have a fraction. -/
def time? (cs : List Char) : Option (List Char) := do
  let (_, cs) ← field? 2 0 23 cs
  let (_, cs) ← field? 2 0 59 (← mark? (· == ':') cs)
  let (_, cs) ← field? 2 0 60 (← mark? (· == ':') cs)
  match cs with
  | '.' :: rest =>
    let rest' := rest.dropWhile Char.isDigit
    if rest'.length < rest.length then some rest' else none
  | _ => some cs

/-- What follows a distance from universal time, which need not be there. -/
def offset? (cs : List Char) : Option (List Char) :=
  match cs with
  | 'Z' :: rest | 'z' :: rest => some rest
  | '+' :: rest | '-' :: rest => do
    let (_, rest) ← field? 2 0 23 rest
    let (_, rest) ← field? 2 0 59 (← mark? (· == ':') rest)
    return rest
  | _ => some cs

/-- Whether a whole text is a date, a time or both. -/
def isMoment (cs : List Char) : Bool :=
  let whole := do
    match date? cs with
    | some [] => return []
    | some rest =>
      let rest ← time? (← mark? (fun c => c == 'T' || c == 't' || c == ' ') rest)
      offset? rest
    | none => time? cs
  whole == some []

/-! ## Scalars without quotes -/

/-- Whether a character goes on with a scalar without quotes. -/
def isWordChar (c : Char) : Bool :=
  c.isAlphanum || c == '+' || c == '-' || c == '_' || c == '.' || c == ':'

/-- The word at the start of a text; a time behind a date and a space belongs to it. -/
def wordFrom (cs : List Char) : List Char × List Char :=
  let (word, rest) := cs.span isWordChar
  match rest with
  | ' ' :: c :: _ =>
    if date? word = some [] && c.isDigit then
      let (second, rest) := (rest.drop 1).span isWordChar
      (word ++ ' ' :: second, rest)
    else (word, rest)
  | _ => (word, rest)

def wordValue? (word : List Char) : Option Value :=
  if word = "true".toList then some (.flag true)
  else if word = "false".toList then some (.flag false)
  else if isMoment word then some .moment
  else match integer? word with
    | some n => some (.integer n)
    | none => (double? word).map .double

end CloudGraph.Toml
