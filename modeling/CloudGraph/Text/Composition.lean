import CloudGraph.Text.CompositionTable

/-!
# Composed form

A character with marks can often be written as one composite. `compose` writes a text so that
marks stand in the order of their classes and that a character and a mark which make a composite
are one. A mark joins the last character without a class before it, unless a mark of the same or
a higher class stands in between.
-/

namespace CloudGraph.Text

def isAscii (c : Char) : Bool :=
  c.toNat < 0x80

/-- The class of a mark; other characters have class zero. -/
def markClass (c : Char) : Nat :=
  ((markClassRuns.find? (·.covers c.toNat)).bind (·.image.head?)).getD 0

/-! ## Syllables of Hangul -/

/-- The leading consonant, the vowel and the trailing consonant, if any, of a syllable. -/
def syllableParts? (c : Char) : Option (List Char) :=
  if 0xAC00 ≤ c.toNat ∧ c.toNat < 0xD7A4 then
    let n := c.toNat - 0xAC00
    let start := [Char.ofNat (0x1100 + n / 588), Char.ofNat (0x1161 + n % 588 / 28)]
    some (if n % 28 = 0 then start else start ++ [Char.ofNat (0x11A7 + n % 28)])
  else none

/-- A consonant with a vowel behind it, or an open syllable with a consonant behind it. -/
def syllable? (first second : Char) : Option Char :=
  let a := first.toNat
  let b := second.toNat
  if 0x1100 ≤ a ∧ a < 0x1113 ∧ 0x1161 ≤ b ∧ b < 0x1176 then
    some (Char.ofNat (0xAC00 + ((a - 0x1100) * 21 + (b - 0x1161)) * 28))
  else if 0xAC00 ≤ a ∧ a < 0xD7A4 ∧ (a - 0xAC00) % 28 = 0 ∧ 0x11A8 ≤ b ∧ b < 0x11C3 then
    some (Char.ofNat (a + (b - 0x11A7)))
  else none

/-! ## Taking apart -/

/-- The parts of a character, which are taken apart as often as `depth` says. -/
def partsOf : Nat → Char → List Char
  | 0, c => [c]
  | depth + 1, c =>
    match syllableParts? c, imageIn? compositeRuns c with
    | some parts, _ => parts
    | none, some [first, mark] => partsOf depth (Char.ofNat first) ++ [Char.ofNat mark]
    | none, _ => [c]

/-- How many marks the composites of the table have at most. -/
def maxMarks : Nat := 3

/-- Put a mark before the marks of higher classes that a reversed text starts with. -/
def placeMark (mark : Char) (cls : Nat) : List Char → List Char
  | [] => [mark]
  | c :: rest => if cls < markClass c then c :: placeMark mark cls rest else mark :: c :: rest

/-- Sort each group of marks by their classes. -/
def orderMarks (cs : List Char) : List Char :=
  (cs.foldl (fun done c =>
    match markClass c with
    | 0 => c :: done
    | cls + 1 => placeMark c (cls + 1) done) []).reverse

/-! ## Putting together -/

def composite? (first second : Char) : Option Char :=
  match syllable? first second with
  | some c => some c
  | none =>
    (compositeRuns.find? (·.image == [first.toNat, second.toNat])).map fun r => Char.ofNat r.first

/-- Put a text together behind a character; `marks` are those that stay behind it, the last
first. -/
def joinFrom (starter : Char) (marks : List Char) : List Char → List Char
  | [] => starter :: marks.reverse
  | c :: rest =>
    let free : Bool := match marks with
      | mark :: _ => markClass mark < markClass c
      | [] => true
    match if free then composite? starter c else none with
    | some joined => joinFrom joined marks rest
    | none =>
      if markClass c = 0 then starter :: marks.reverse ++ joinFrom c [] rest
      else joinFrom starter (c :: marks) rest

/-- The composed form of a text. -/
def compose (cs : List Char) : List Char :=
  if cs.all isAscii then cs
  else match orderMarks (cs.flatMap (partsOf maxMarks)) with
    | [] => []
    | c :: rest => joinFrom c [] rest

end CloudGraph.Text
