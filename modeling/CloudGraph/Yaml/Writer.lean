import CloudGraph.Json.Writer
import CloudGraph.Yaml.Core
import CloudGraph.Yaml.Scalar

/-!
# Writing YAML

A value in block style, with an indent of two columns for each level and no document markers.
A list in a mapping is not indented; what is empty stays closed, as `[]` or `{}`.

A text has the plainest of four styles that read back as the same text: plain, in single
quotes, in double quotes, or a literal block if it has a line feed. A key that has a line break
or more than 128 bytes stands behind `?`, with its value behind `:` on a line of its own.
-/

namespace CloudGraph.Yaml

/-- How YAML writes a double. -/
def doubleStyle : Decimal.Style where
  positional := some (-5, 15)
  plus := ""
  keepFraction := true
  notANumber := ".nan"
  infinite := ".inf"

def numberChars : Number → List Char
  | .int n h => (Number.int n h).chars
  | .double x => (doubleStyle.render x).toList

/-! ## Styles of a text -/

inductive ScalarStyle where
  | plain | singleQuoted | doubleQuoted | literal
deriving DecidableEq, Repr

/-- Whether a plain scalar with this text would not be a text, or would look like a number. -/
def isMistakable (s : String) : Bool :=
  match ofPlain? s with
  | some (.str _) => isZeroLed s.toList
  | _ => true

/-- Whether a character can stand in a text as it is; a tab cannot. -/
def isWritable (c : Char) : Bool :=
  let n := c.toNat
  n == 0xA || (0x20 ≤ n && n ≤ 0x7E) || (0xA0 ≤ n && n < 0xD800)
    || (0xE000 ≤ n && n ≤ 0xFFFD && n ≠ 0xFEFF) || 0x10000 ≤ n

/-- Characters with a meaning of their own at the start of a node. -/
def indicators : List Char :=
  [',', '[', ']', '{', '}', '&', '*', '!', '|', '>', '\'', '"', '%', '@', '\x60', '#']

/-- Whether a text starts with an indicator or a document marker. -/
def startsAsIndicator (cs : List Char) : Bool :=
  (match cs with
    | [] => false
    | c :: rest => indicators.contains c || ((c == '?' || c == '-') && atGap rest))
  || ['-', '-', '-'].isPrefixOf cs || ['.', '.', '.'].isPrefixOf cs

/-- Whether a colon ends a word or a number sign starts one. -/
def hasInnerIndicator : List Char → Bool
  | [] => false
  | c :: rest =>
    (c == ':' && atGap rest)
      || ((isBlank c || isBreak c) && rest.head? == some '#')
      || hasInnerIndicator rest

/-- Whether some character with `p` comes right before one with `q`. -/
def hasAdjacent (p q : Char → Bool) : List Char → Bool
  | c :: d :: rest => (p c && q d) || hasAdjacent p q (d :: rest)
  | _ => false

def isSpace (c : Char) : Bool := c == ' '

/-- Whether spaces and breaks at the ends, or an indicator, keep a text from being plain. -/
def allowsPlain (cs : List Char) : Bool :=
  !(cs.any isBreak || cs.head?.any isSpace || cs.getLast?.any isSpace
    || startsAsIndicator cs || hasInnerIndicator cs)

/-- Whether a text keeps its characters where they are not escaped. -/
def allowsRaw (cs : List Char) : Bool :=
  cs.all isWritable && !hasAdjacent isSpace isBreak cs

def allowsSingleQuoted (cs : List Char) : Bool :=
  allowsRaw cs && !hasAdjacent isBreak isSpace cs

def allowsLiteral (cs : List Char) : Bool :=
  allowsRaw cs && !cs.getLast?.any isSpace

def styleOf (s : String) : ScalarStyle :=
  let cs := s.toList
  let quoted := if allowsSingleQuoted cs then .singleQuoted else .doubleQuoted
  if cs.contains '\n' then (if allowsLiteral cs then .literal else .doubleQuoted)
  else if isMistakable s then quoted
  else if allowsRaw cs && allowsPlain cs then .plain
  else quoted

/-! ## Scalars -/

def pad (columns : Nat) : List Char :=
  List.replicate columns ' '

/-- Lines of a scalar, each with an indent unless it is empty; `atStart` says whether a line
starts. -/
def indentLines (indent : Nat) : Bool → List Char → List Char
  | _, [] => []
  | atStart, c :: rest =>
    if isBreak c then c :: indentLines indent true rest
    else (if atStart then pad indent else []) ++ c :: indentLines indent false rest

def singleQuotedChars (indent : Nat) (cs : List Char) : List Char :=
  let inner := cs.flatMap fun c => if c == '\'' then [c, c] else [c]
  let lastPad := if cs.getLast?.any isBreak then pad indent else []
  '\'' :: indentLines indent false inner ++ lastPad ++ ['\'']

/-- The upper-case hexadecimal digits of `n`, as many as `width`. -/
def upperDigits (width n : Nat) : List Char :=
  (Text.hexDigits width n).map Char.toUpper

def escapeChar (c : Char) : List Char :=
  let n := c.toNat
  let short (e : Char) : List Char := ['\\', e]
  if n = 0 then short '0'
  else if n = 0x07 then short 'a'
  else if n = 0x08 then short 'b'
  else if n = 0x09 then short 't'
  else if n = 0x0A then short 'n'
  else if n = 0x0B then short 'v'
  else if n = 0x0C then short 'f'
  else if n = 0x0D then short 'r'
  else if n = 0x1B then short 'e'
  else if c = '"' then short '"'
  else if c = '\\' then short '\\'
  else if n = 0x85 then short 'N'
  else if n = 0x2028 then short 'L'
  else if n = 0x2029 then short 'P'
  else if isWritable c then [c]
  else if n ≤ 0xFF then '\\' :: 'x' :: upperDigits 2 n
  else if n ≤ 0xFFFF then '\\' :: 'u' :: upperDigits 4 n
  else '\\' :: 'U' :: upperDigits 8 n

def doubleQuotedChars (cs : List Char) : List Char :=
  '"' :: cs.flatMap escapeChar ++ ['"']

/-- The marks behind `|`: an indent that the text itself does not show, and what becomes of the
line breaks at the end. -/
def literalHints (cs : List Char) : List Char :=
  let indentMark := if cs.head?.any fun c => isSpace c || isBreak c then ['2'] else []
  let chompMark := match cs.reverse with
    | [] => ['-']
    | [c] => if isBreak c then ['+'] else ['-']
    | c :: d :: _ => if !isBreak c then ['-'] else if isBreak d then ['+'] else []
  indentMark ++ chompMark

def literalChars (indent : Nat) (cs : List Char) : List Char :=
  '|' :: literalHints cs ++ '\n' :: indentLines indent true cs

/-- A text without the end of its line; `indent` is for the lines after the first. -/
def textChars (indent : Nat) (s : String) : List Char :=
  match styleOf s with
  | .plain => s.toList
  | .singleQuoted => singleQuotedChars indent s.toList
  | .doubleQuoted => doubleQuotedChars s.toList
  | .literal => literalChars indent s.toList

/-- End the line, unless it is at an end already. -/
def endLine (cs : List Char) : List Char :=
  if cs.getLast?.any isBreak then cs else cs ++ ['\n']

/-! ## Nodes -/

def isSimpleKey (key : String) : Bool :=
  !key.toList.any isBreak && key.utf8ByteSize ≤ 128

/-- Where a node stands. -/
inductive Place where
  /-- At the start of the document or behind `- `, `? ` or `: `. -/
  | inLine
  /-- Behind the colon of a simple key. -/
  | afterKey
deriving DecidableEq, Repr

/-- The indent of the lines of a node, where `indent` is that of what it stands in. -/
def Place.inner (place : Place) (indent : Nat) : Nat :=
  match place with
  | .inLine => indent
  | .afterKey => indent + 2

/-- What comes before a scalar or an empty collection. -/
def Place.blank : Place → List Char
  | .inLine => []
  | .afterKey => [' ']

/-- What comes before the first line of a collection at `indent`. -/
def Place.lineStart (place : Place) (indent : Nat) : List Char :=
  match place with
  | .inLine => []
  | .afterKey => '\n' :: pad indent

/-- What comes before the next line of a collection, if there is one. -/
def nextLine {α : Type} (indent : Nat) (rest : List α) : List Char :=
  if rest.isEmpty then [] else pad indent

/-- What comes before the value of a key. -/
def keyChars (indent : Nat) (key : String) : List Char :=
  if isSimpleKey key then textChars (indent + 2) key ++ [':']
  else '?' :: ' ' :: endLine (textChars (indent + 2) key) ++ pad indent ++ [':', ' ']

def valuePlace (key : String) : Place :=
  if isSimpleKey key then .afterKey else .inLine

def valueIndent (indent : Nat) (key : String) : Nat :=
  if isSimpleKey key then indent else indent + 2

mutual

/-- The lines of a node; `indent` is that of the lines it stands in. -/
def nodeChars (indent : Nat) (place : Place) : Json → List Char
  | .null => place.blank ++ ['n', 'u', 'l', 'l', '\n']
  | .bool true => place.blank ++ ['t', 'r', 'u', 'e', '\n']
  | .bool false => place.blank ++ ['f', 'a', 'l', 's', 'e', '\n']
  | .num n => place.blank ++ numberChars n ++ ['\n']
  | .str s => place.blank ++ endLine (textChars (place.inner indent) s)
  | .arr [] => place.blank ++ ['[', ']', '\n']
  | .arr (v :: rest) => place.lineStart indent ++ itemsChars indent (v :: rest)
  | .obj [] => place.blank ++ ['{', '}', '\n']
  | .obj (m :: rest) =>
    place.lineStart (place.inner indent) ++ entriesChars (place.inner indent) (m :: rest)

def itemsChars (indent : Nat) : List Json → List Char
  | [] => []
  | v :: rest =>
    '-' :: ' ' :: nodeChars (indent + 2) .inLine v ++ nextLine indent rest
      ++ itemsChars indent rest

def entriesChars (indent : Nat) : List (String × Json) → List Char
  | [] => []
  | (k, v) :: rest =>
    keyChars indent k ++ nodeChars (valueIndent indent k) (valuePlace k) v
      ++ nextLine indent rest ++ entriesChars indent rest

end

/-- The document of a value. -/
def write (v : Json) : String :=
  String.ofList <| match v with
    | .str s => endLine (textChars 2 s)
    | v => nodeChars 0 .inLine v

end CloudGraph.Yaml
