import CloudGraph.Text.Bytes

/-!
# Positions in a YAML text

A cursor is the rest of a text with its position. Line breaks are the five of YAML; a carriage
return and a line feed together make one. A document may hold printable characters only.
-/

namespace CloudGraph.Yaml

def isBreak (c : Char) : Bool :=
  c == '\n' || c == '\r' || c == '\u0085' || c == '\u2028' || c == '\u2029'

def isBlank (c : Char) : Bool :=
  c == ' ' || c == '\t'

def isPrintable (c : Char) : Bool :=
  let n := c.toNat
  n == 9 || n == 0xA || n == 0xD || (0x20 ≤ n && n ≤ 0x7E) || n == 0x85
    || (0xA0 ≤ n && n ≤ 0xD7FF) || (0xE000 ≤ n && n ≤ 0xFFFD) || 0x10000 ≤ n

/-- The characters of an anchor's name. -/
def isNameChar (c : Char) : Bool :=
  c.isAlphanum || c == '_' || c == '-'

/-- Whether a text is over or goes on with a blank or a line break. -/
def atGap : List Char → Bool
  | [] => true
  | c :: _ => isBlank c || isBreak c

/-- Whether a text is over or goes on with a line break. -/
def atLineEnd : List Char → Bool
  | [] => true
  | c :: _ => isBreak c

/-- A place in a text of less than `bound` characters. `index` counts the bytes before it in
UTF-8. -/
structure Cursor where
  rest : List Char
  bound : Nat
  index : Nat := 0
  line : Nat := 0
  column : Nat := 0

namespace Cursor

/-- The start of a text. -/
def start (text : List Char) : Cursor :=
  { rest := text, bound := text.length + 1 }

def skipMany (c : Cursor) (n : Nat) : Cursor :=
  let size := Text.byteSize (c.rest.take n)
  { c with rest := c.rest.drop n, index := c.index + size, column := c.column + n }

def skip (c : Cursor) : Cursor :=
  c.skipMany 1

def skipWhile (c : Cursor) (p : Char → Bool) : Cursor :=
  c.skipMany (c.rest.takeWhile p).length

/-- Take a line break, and give it in its normal form. -/
def takeBreak (c : Cursor) : List Char × Cursor :=
  let next (n : Nat) : Cursor := { c.skipMany n with line := c.line + 1, column := 0 }
  match c.rest with
  | '\r' :: '\n' :: _ => (['\n'], next 2)
  | x :: _ =>
    if x == '\u2028' || x == '\u2029' then ([x], next 1)
    else if isBreak x then (['\n'], next 1)
    else ([], c)
  | [] => ([], c)

/-- Skip blanks and a comment; nothing else may stand at the end of the line. -/
def skipLineTail (c : Cursor) : Option Cursor :=
  let c := c.skipWhile isBlank
  let c := if c.rest.head? == some '#' then c.skipWhile fun x => !isBreak x else c
  if atLineEnd c.rest then some c.takeBreak.2 else none

/-- Whether the line starts with three of a character and a gap. -/
def atMarker (c : Cursor) (mark : Char) : Bool :=
  c.column == 0 && match c.rest with
    | x :: y :: z :: rest => x == mark && y == mark && z == mark && atGap rest
    | _ => false

def atDocumentMarker (c : Cursor) : Bool :=
  c.atMarker '-' || c.atMarker '.'

end Cursor

/-! ## Gaps between words -/

/-- What stands between two words of a scalar: blanks, or a line break and further breaks. -/
structure Gap where
  blanks : List Char := []
  broken : Bool := false
  first : List Char := []
  more : List Char := []

namespace Gap

/-- A single break folds to a blank, and one of several is dropped. -/
def folded (first more : List Char) : List Char :=
  if first == ['\n'] then (if more.isEmpty then [' '] else more) else first ++ more

/-- The characters that a gap stands for. -/
def join (g : Gap) : List Char :=
  if g.broken then folded g.first g.more else g.blanks

/-- Take the blanks and breaks at the cursor. Where `indent` is set, a tab before that column on
a later line is refused. -/
def take (indent : Option Int) : Nat → Gap → Cursor → Option (Gap × Cursor)
  | 0, g, c => some (g, c)
  | fuel + 1, g, c =>
    match c.rest with
    | [] => some (g, c)
    | x :: _ =>
      if isBlank x then
        if g.broken then
          if x == '\t' && indent.any fun i => (c.column : Int) < i then none
          else take indent fuel g c.skip
        else take indent fuel { g with blanks := g.blanks ++ [x] } c.skip
      else if isBreak x then
        let (text, c) := c.takeBreak
        if g.broken then take indent fuel { g with more := g.more ++ text } c
        else take indent fuel { broken := true, first := text } c
      else some (g, c)

end Gap

end CloudGraph.Yaml
