import CloudGraph.Web.DomainName.ClassTable
import CloudGraph.Web.DomainName.MappingTable
import CloudGraph.Web.Punycode

/-!
# Domain names

A domain name is a row of labels with points between them. `DomainName.toAscii?` gives the form
of a name in which machines are looked up: each character is replaced by those that it stands
for, the name is composed, and a label that is not in ASCII becomes `xn--` and its Punycode. A
label that comes as Punycode has to hold what writing would put there. No label starts with a
mark; joiners stand only where scripts need them; and where a label runs from right to left, no
label may run both ways.
-/

namespace CloudGraph.Web.DomainName

/-! ## Characters -/

/-- Characters of ASCII that no domain name has. -/
def reserved : List Char :=
  ['%', '#', '/', ':', '<', '>', '?', '@', '[', '\\', ']', '^', '|']

def isAllowed (c : Char) : Bool :=
  !Text.isAscii c || (0x21 ≤ c.toNat && c.toNat < 0x7F && !reserved.contains c)

/-- What a character of a name stands for. -/
def meaning? (c : Char) : Option (List Char) :=
  if Text.isAscii c then (if isAllowed c then some [c.toLower] else none)
  else if !Text.inRuns knownRuns c then none
  else match Text.imageIn? mappingRuns c with
    | some image =>
      let cs := image.map Char.ofNat
      if cs.all isAllowed then some cs else none
    | none => some [c]

def standsForItself (c : Char) : Bool :=
  meaning? c == some [c]

def isMark (c : Char) : Bool :=
  !Text.isAscii c && (Text.inRuns nonspacingRuns c || Text.inRuns spacingRuns c)

/-! ## Joiners -/

def isNonJoiner (c : Char) : Bool := c == '\u200c'

def isJoiner (c : Char) : Bool := c == '\u200d'

/-- The class of the marks that take a vowel away. -/
def viramaClass : Nat := 9

/-- Whether a letter of some runs comes first, when marks are skipped. -/
def startsJoining (runs : List Text.CodeRun) : List Char → Bool
  | [] => false
  | c :: rest =>
    Text.inRuns runs c
      || ((Text.inRuns nonspacingRuns c || Text.inRuns transparentRuns c)
        && startsJoining runs rest)

/-- Whether a joiner or its opposite may stand between two texts, the first of them reversed:
behind a mark that takes a vowel away, or, if it keeps letters apart, between such as would join. -/
def joinerFits (c : Char) (before behind : List Char) : Bool :=
  match before with
  | [] => false
  | p :: _ =>
    Text.markClass p == viramaClass
      || (isNonJoiner c && startsJoining (leftJoiningRuns ++ dualJoiningRuns) before
        && startsJoining (rightJoiningRuns ++ dualJoiningRuns) behind)

def joinersFit (before : List Char) : List Char → Bool
  | [] => true
  | c :: rest =>
    (!(isNonJoiner c || isJoiner c) || joinerFits c before rest) && joinersFit (c :: before) rest

/-! ## Directions -/

/-- Which way a character runs. -/
inductive Direction where
  | leftToRight | rightToLeft | europeanDigit | arabicDigit | neutral
  /-- As what it follows. -/
  | following
deriving DecidableEq

def directionOf (c : Char) : Direction :=
  if Text.isAscii c then
    if c.isAlpha then .leftToRight else if c.isDigit then .europeanDigit else .neutral
  else if Text.inRuns rightToLeftRuns c then .rightToLeft
  else if Text.inRuns arabicDigitRuns c then .arabicDigit
  else if Text.inRuns europeanDigitRuns c then .europeanDigit
  else if Text.inRuns neutralRuns c then .neutral
  else if Text.inRuns leftToRightMarkRuns c then .leftToRight
  else if Text.inRuns nonspacingRuns c || Text.inRuns followingMarkRuns c then .following
  else .leftToRight

/-- Whether a label makes its name one that runs from right to left. -/
def runsBack (label : List Char) : Bool :=
  label.any fun c => [.rightToLeft, .arabicDigit].contains (directionOf c)

/-- The last direction that is not that of another character. -/
def lastDirection? (ds : List Direction) : Option Direction :=
  (ds.filter (· ≠ .following)).getLast?

/-- Whether a label runs one way: from left to right without a letter of the other way, or from
right to left with digits of one kind; in both cases a letter stands first and a letter or a
digit last. -/
def runsOneWay (label : List Char) : Bool :=
  match label.map directionOf with
  | [] => true
  | .leftToRight :: rest =>
    !rest.contains .rightToLeft && !rest.contains .arabicDigit
      && (lastDirection? rest).all [.leftToRight, .europeanDigit].contains
  | .rightToLeft :: rest =>
    !rest.contains .leftToRight && !(rest.contains .europeanDigit && rest.contains .arabicDigit)
      && (lastDirection? rest).all [.rightToLeft, .europeanDigit, .arabicDigit].contains
  | _ => false

/-! ## Labels -/

/-- The start of a label that comes as Punycode. -/
def punycodeMark : List Char := "xn--".toList

/-- The length of the longest Punycode that is read, and of the longest label that is written. -/
def readingLimit : Nat := 2000

def writingLimit : Nat := 1000

/-- The characters of a label, behind its Punycode if it has one. -/
def read? (label : List Char) : Option (List Char) :=
  if punycodeMark.isPrefixOf label then do
    let code := label.drop punycodeMark.length
    if readingLimit < code.length then none
    else
      let cs ← Punycode.decode? code
      if !cs.all Text.isAscii && cs.all standsForItself && Text.compose cs == cs then some cs
      else none
  else some label

def isWellFormed (label : List Char) : Bool :=
  !label.head?.any isMark && joinersFit [] label

/-- The label in ASCII. -/
def write? (label : List Char) : Option (List Char) :=
  if label.all Text.isAscii then some label
  else if writingLimit < label.length then none
  else some (punycodeMark ++ Punycode.encode label)

/-- The form of a name in ASCII. -/
def toAscii? (name : String) : Option String := do
  let meanings ← name.toList.mapM meaning?
  let labels := (Text.compose meanings.flatten).splitOnP (· == '.')
  let read ← labels.mapM read?
  if read.all isWellFormed && (!read.any runsBack || read.all runsOneWay) then
    return String.ofList (['.'].intercalate (← labels.mapM write?))
  else none

end CloudGraph.Web.DomainName
