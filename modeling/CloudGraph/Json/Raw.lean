import CloudGraph.Json.Basic
import CloudGraph.Text.Hexadecimal

/-!
# Reading JSON

`Raw.ofText?` reads a text to a tree that keeps what a reader may refuse later: an object keeps
repeated keys, a number outside the doubles and a text with half a surrogate pair become leaves
without a value. So a part of a document that nobody asks for is checked for its form only.
`Raw.toJson?` gives the value of a tree whose leaves all have one and whose nesting stays within
a limit; of repeated keys the last counts.
-/

namespace CloudGraph

/-- The tree of a JSON text. -/
inductive Raw where
  | null
  | bool (value : Bool)
  | number (value? : Option Number)
  | text (value? : Option String)
  | array (items : List Raw)
  | object (members : List (Option String × Raw))
deriving Inhabited

namespace Raw

def isJsonBlank (c : Char) : Bool :=
  c == ' ' || c == '\n' || c == '\t' || c == '\r'

def skipBlank (cs : List Char) : List Char :=
  cs.dropWhile isJsonBlank

/-! ## Texts -/

/-- A part of a quoted text: a character as it stands, or a code unit of four digits. -/
inductive TextUnit where
  | char (c : Char)
  | code (n : Nat)
deriving DecidableEq

def codeUnit? (a b c d : Char) : Option Nat :=
  Text.valueOfDigits? 16 [a, b, c, d]

/-- The character that a backslash and one more character stand for. -/
def simpleEscape? (c : Char) : Option Char :=
  match c with
  | '"' => some '"'
  | '\\' => some '\\'
  | '/' => some '/'
  | 'b' => some '\x08'
  | 'f' => some '\x0c'
  | 'n' => some '\n'
  | 'r' => some '\r'
  | 't' => some '\t'
  | _ => none

/-- The units up to the closing quote, and what follows it. -/
def unitsFrom : List Char → Option (List TextUnit × List Char)
  | [] => none
  | '"' :: rest => some ([], rest)
  | '\\' :: 'u' :: a :: b :: c :: d :: rest => do
    let n ← codeUnit? a b c d
    let (units, rest) ← unitsFrom rest
    return (.code n :: units, rest)
  | '\\' :: e :: rest => do
    let c ← simpleEscape? e
    let (units, rest) ← unitsFrom rest
    return (.char c :: units, rest)
  | c :: rest =>
    if c.toNat < 0x20 ∨ c = '\\' then none
    else do
      let (units, rest) ← unitsFrom rest
      return (.char c :: units, rest)

/-- The characters of the units; two surrogates make one, and a lone one makes none. -/
def joinUnits : List TextUnit → Option (List Char)
  | [] => some []
  | .char c :: rest => (c :: ·) <$> joinUnits rest
  | .code high :: .code low :: rest =>
    if 0xD800 ≤ high ∧ high < 0xDC00 then
      if 0xDC00 ≤ low ∧ low < 0xE000 then
        (Char.ofNat (0x10000 + (high - 0xD800) * 0x400 + (low - 0xDC00)) :: ·) <$> joinUnits rest
      else none
    else if 0xDC00 ≤ high ∧ high < 0xE000 then none
    else (Char.ofNat high :: ·) <$> joinUnits (.code low :: rest)
  | .code n :: rest =>
    if 0xD800 ≤ n ∧ n < 0xE000 then none else (Char.ofNat n :: ·) <$> joinUnits rest

/-- The text after an opening quote, and what follows its closing quote. -/
def textFrom (cs : List Char) : Option (Option String × List Char) := do
  let (units, rest) ← unitsFrom cs
  return ((joinUnits units).map String.ofList, rest)

/-! ## Numbers -/

/-- A significand that 64 bits hold and a power of ten. -/
structure Scaled where
  significand : Nat
  exponent : Int

/-- Take a digit before the point: once the significand is full, a digit only adds to the power. -/
def Scaled.wholeDigit (full : Bool) (s : Scaled) (d : Nat) : Bool × Scaled :=
  if full ∨ 0x10000000000000000 ≤ s.significand * 10 + d then (true, ⟨s.significand, s.exponent + 1⟩)
  else (false, ⟨s.significand * 10 + d, s.exponent⟩)

/-- Take a digit after the point: once the significand is full, all further digits are dropped. -/
def Scaled.fractionDigit (full : Bool) (s : Scaled) (d : Nat) : Bool × Scaled :=
  if full ∨ 0x10000000000000000 ≤ s.significand * 10 + d then (true, s)
  else (false, ⟨s.significand * 10 + d, s.exponent - 1⟩)

def takeDigits (step : Bool → Scaled → Nat → Bool × Scaled) (s : Scaled) (ds : List Char) :
    Bool × Scaled :=
  ds.foldl (fun (full, s) d => step full s (d.toNat - '0'.toNat)) (false, s)

def tenTo (n : Nat) : Float :=
  Decimal.ofDecimal false 1 n

/-- Divide by `10 ^ n`, in steps that a double can hold. -/
def divideByTens (x : Float) (n : Nat) : Float :=
  if n ≤ 308 then x / tenTo n
  else if x == 0 then x
  else divideByTens (x / tenTo 308) (n - 308)
termination_by n

/-- The double of a significand and a power of ten, by one product or quotient; none if it
overflows. -/
def Scaled.toFloat? (s : Scaled) : Option Float :=
  let x := (UInt64.ofNat s.significand).toFloat
  if s.exponent < 0 then some (divideByTens x s.exponent.natAbs)
  else if x == 0 then some x
  else if 308 < s.exponent then none
  else
    let y := x * tenTo s.exponent.toNat
    if y.isInf then none else some y

/-- The parts of a number in a text. -/
structure NumberText where
  negative : Bool
  whole : List Char
  fraction : List Char
  power : Option (Bool × List Char)

/-- The greatest power of ten that is taken digit by digit. -/
def maxPower : Nat := 0x7FFFFFFF

def NumberText.float? (t : NumberText) : Option Float := do
  let s := (takeDigits Scaled.wholeDigit ⟨0, 0⟩ t.whole).2
  let s := (takeDigits Scaled.fractionDigit s t.fraction).2
  let x ← match t.power with
    | none => s.toFloat?
    | some (below, ds) =>
      let n := Decimal.digitsValue ds
      if maxPower < n then (if s.significand != 0 && !below then none else some 0)
      else Scaled.toFloat? ⟨s.significand, if below then s.exponent - n else s.exponent + n⟩
  return if t.negative then -x else x

/-- An integer that fits 64 bits stays one; a negative zero and all else is a double. -/
def NumberText.number? (t : NumberText) : Option Number :=
  let n : Int := Decimal.digitsValue t.whole
  let n := if t.negative then -n else n
  match t.fraction, t.power, (if t.negative && n == 0 then none else Number.ofInt? n) with
  | [], none, some value => some value
  | _, _, _ => t.float?.map .double

def spanDigits (cs : List Char) : List Char × List Char :=
  cs.span Char.isDigit

/-- The part after the point: at least one digit where there is a point. -/
def fractionFrom (cs : List Char) : Option (List Char × List Char) :=
  match cs with
  | '.' :: rest =>
    match spanDigits rest with
    | ([], _) => none
    | r => some r
  | _ => some ([], cs)

def powerFrom (cs : List Char) : Option (Option (Bool × List Char) × List Char) :=
  let digits (below : Bool) (rest : List Char) : Option (Option (Bool × List Char) × List Char) :=
    match spanDigits rest with
    | ([], _) => none
    | (ds, rest) => some (some (below, ds), rest)
  match cs with
  | c :: rest =>
    if c = 'e' ∨ c = 'E' then
      match rest with
      | '+' :: rest => digits false rest
      | '-' :: rest => digits true rest
      | _ => digits false rest
    else some (none, cs)
  | [] => some (none, [])

/-- A number without its sign: no digit may follow a leading zero. -/
def numberFrom (negative : Bool) (cs : List Char) : Option (Option Number × List Char) := do
  let (whole, rest) := spanDigits cs
  match whole with
  | [] => none
  | ['0'] => pure ()
  | '0' :: _ => none
  | _ => pure ()
  let (fraction, rest) ← fractionFrom rest
  let (power, rest) ← powerFrom rest
  return (NumberText.number? ⟨negative, whole, fraction, power⟩, rest)

/-! ## Values -/

mutual

/-- A value at the start of a text and what follows it. The fuel bounds the number of steps. -/
def valueFrom : Nat → List Char → Option (Raw × List Char)
  | 0, _ => none
  | fuel + 1, cs =>
    match skipBlank cs with
    | 'n' :: 'u' :: 'l' :: 'l' :: rest => some (.null, rest)
    | 't' :: 'r' :: 'u' :: 'e' :: rest => some (.bool true, rest)
    | 'f' :: 'a' :: 'l' :: 's' :: 'e' :: rest => some (.bool false, rest)
    | '"' :: rest => (textFrom rest).map fun (s, rest) => (.text s, rest)
    | '[' :: rest =>
      match skipBlank rest with
      | ']' :: rest => some (.array [], rest)
      | rest => (itemsFrom fuel rest).map fun (items, rest) => (.array items, rest)
    | '{' :: rest =>
      match skipBlank rest with
      | '}' :: rest => some (.object [], rest)
      | rest => (membersFrom fuel rest).map fun (members, rest) => (.object members, rest)
    | '-' :: rest => (numberFrom true rest).map fun (n, rest) => (.number n, rest)
    | rest => (numberFrom false rest).map fun (n, rest) => (.number n, rest)

/-- One or more items and the closing bracket. -/
def itemsFrom : Nat → List Char → Option (List Raw × List Char)
  | 0, _ => none
  | fuel + 1, cs => do
    let (v, rest) ← valueFrom fuel cs
    match skipBlank rest with
    | ',' :: rest =>
      let (items, rest) ← itemsFrom fuel rest
      return (v :: items, rest)
    | ']' :: rest => return ([v], rest)
    | _ => none

/-- One or more members and the closing brace. -/
def membersFrom : Nat → List Char → Option (List (Option String × Raw) × List Char)
  | 0, _ => none
  | fuel + 1, cs =>
    match skipBlank cs with
    | '"' :: rest => do
      let (key, rest) ← textFrom rest
      match skipBlank rest with
      | ':' :: rest =>
        let (v, rest) ← valueFrom fuel rest
        match skipBlank rest with
        | ',' :: rest =>
          let (members, rest) ← membersFrom fuel rest
          return ((key, v) :: members, rest)
        | '}' :: rest => return ([(key, v)], rest)
        | _ => none
      | _ => none
    | _ => none

end

/-- The tree of a text that holds one value and blanks around it. -/
def ofChars? (cs : List Char) : Option Raw :=
  match valueFrom (cs.length + 1) cs with
  | some (v, rest) => if (skipBlank rest).isEmpty then some v else none
  | none => none

def ofText? (s : String) : Option Raw :=
  ofChars? s.toList

mutual

/-- The value of a tree that nests at most `limit` deep. -/
def toJson? (limit : Nat) : Raw → Option Json
  | .null => some .null
  | .bool b => some (.bool b)
  | .number n => n.map .num
  | .text s => s.map .str
  | .array items =>
    match limit with
    | 0 => none
    | limit + 1 => (itemsToJson? limit items).map .arr
  | .object members =>
    match limit with
    | 0 => none
    | limit + 1 => (membersToJson? limit members []).map .obj

def itemsToJson? (limit : Nat) : List Raw → Option (List Json)
  | [] => some []
  | v :: rest => do
    let v ← v.toJson? limit
    let rest ← itemsToJson? limit rest
    return v :: rest

def membersToJson? (limit : Nat) :
    List (Option String × Raw) → List (String × Json) → Option (List (String × Json))
  | [], members => some members
  | (key, v) :: rest, members => do
    let key ← key
    let v ← v.toJson? limit
    membersToJson? limit rest (insertEntry key v members)

end

end Raw

/-- How deep arrays and objects may nest in a document. -/
def Json.maxDepth : Nat := 127

/-- The value of a JSON text. -/
def Json.ofText? (s : String) : Option Json :=
  (Raw.ofText? s).bind (·.toJson? Json.maxDepth)

mutual

/-- The tree of a value. -/
def Json.toRaw : Json → Raw
  | .null => .null
  | .bool b => .bool b
  | .num n => .number (some n)
  | .str s => .text (some s)
  | .arr items => .array (Json.itemsToRaw items)
  | .obj members => .object (Json.membersToRaw members)

def Json.itemsToRaw : List Json → List Raw
  | [] => []
  | v :: rest => v.toRaw :: Json.itemsToRaw rest

def Json.membersToRaw : List (String × Json) → List (Option String × Raw)
  | [] => []
  | (k, v) :: rest => (some k, v.toRaw) :: Json.membersToRaw rest

end

end CloudGraph
