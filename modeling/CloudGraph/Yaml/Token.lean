import CloudGraph.Yaml.Scalar

/-!
# YAML tokens

`Token.ofText?` cuts a text into tokens. Indentation becomes tokens too: a collection in block
form opens when its column is deeper than the ones before it and closes when a line starts to
the left of it. Whether a scalar is a key shows only at the colon behind it, so the lexer
remembers where a key could have started and puts the key token there. A key stands on one line
and has at most 1024 bytes.
-/

namespace CloudGraph.Yaml

inductive Token where
  | versionDirective (major minor : Nat)
  | tagDirective (handle : String) (value : List UInt8)
  | documentStart | documentEnd
  | blockSequenceStart | blockMappingStart | blockEnd
  | flowSequenceStart | flowSequenceEnd | flowMappingStart | flowMappingEnd
  | blockEntry | flowEntry | key | value
  | alias (name : String)
  | anchor (name : String)
  | tag (handle : String) (suffix : List UInt8)
  | scalar (text : String) (plain : Bool)
deriving DecidableEq, Repr

/-- A place where a key may have started: `position` counts the tokens before it. A required key
has to turn out as one, for it stands where only keys may. -/
structure KeyStart where
  required : Bool
  position : Nat
  index : Nat
  line : Nat
  column : Nat

/-- The state of the lexer. `tokens` are the `count` tokens so far in reverse; `indents` holds the
columns of the open block collections, the innermost first; `keys` has an entry for the block
context and one for each open flow collection, the innermost first. -/
structure Lexer where
  cursor : Cursor
  tokens : List Token := []
  count : Nat := 0
  indents : List Int := []
  keys : List (Option KeyStart) := [none]
  keyAllowed : Bool := true

namespace Lexer

def indent (l : Lexer) : Int :=
  l.indents.headD (-1)

def inFlow (l : Lexer) : Bool :=
  !l.keys.tail.isEmpty

def push (l : Lexer) (t : Token) : Lexer :=
  { l with tokens := t :: l.tokens, count := l.count + 1 }

/-- Insert a token at a position counted from the start. -/
def insertAt (l : Lexer) (position : Nat) (t : Token) : Lexer :=
  let later := l.count - position
  { l with tokens := l.tokens.take later ++ t :: l.tokens.drop later, count := l.count + 1 }

/-- Close the block collections to the right of a column. -/
def unroll (l : Lexer) (column : Int) : Lexer :=
  if l.inFlow then l
  else
    let closed := (l.indents.takeWhile (column < ·)).length
    { l with
      indents := l.indents.drop closed
      tokens := List.replicate closed .blockEnd ++ l.tokens
      count := l.count + closed }

/-- Open a block collection at a column, if it is deeper than the open ones. -/
def roll (l : Lexer) (column : Nat) (position : Nat) (t : Token) : Lexer :=
  if l.inFlow || (column : Int) ≤ l.indent then l
  else { l.insertAt position t with indents := column :: l.indents }

def setKey (l : Lexer) (key : Option KeyStart) : Lexer :=
  { l with keys := key :: l.keys.tail }

/-- Forget the place where a key may have started; a required key must not be forgotten. -/
def dropKey (l : Lexer) : Option Lexer :=
  match l.keys.head? with
  | some (some k) => if k.required then none else some (l.setKey none)
  | _ => some l

/-- Remember that a key may start here. -/
def saveKey (l : Lexer) : Option Lexer := do
  if l.keyAllowed then
    let l ← l.dropKey
    return l.setKey (some {
      required := !l.inFlow && l.indent == l.cursor.column
      position := l.count
      index := l.cursor.index
      line := l.cursor.line
      column := l.cursor.column })
  else return l

/-- The place where a key started that the colon at the cursor ends. -/
def openKey? (l : Lexer) : Option (Option KeyStart) :=
  match l.keys.head? with
  | some (some k) =>
    if k.line < l.cursor.line || k.index + 1024 < l.cursor.index then
      if k.required then none else some none
    else some (some k)
  | _ => some none

def allow (l : Lexer) (keyAllowed : Bool) : Lexer :=
  { l with keyAllowed }

def skip (l : Lexer) (n : Nat) : Lexer :=
  { l with cursor := l.cursor.skipMany n }

/-- Skip blanks, comments and line breaks, and a byte order mark at the start of a line. A tab
counts as a blank where no key may start. -/
def skipGap : Nat → Lexer → Lexer
  | 0, l => l
  | fuel + 1, l =>
    let tabs := l.inFlow || !l.keyAllowed
    let c := l.cursor
    let c := if c.column == 0 && c.rest.head? == some '\ufeff' then c.skip else c
    let c := c.skipWhile fun x => x == ' ' || (tabs && x == '\t')
    let c := if c.rest.head? == some '#' then c.skipWhile fun x => !isBreak x else c
    match c.rest with
    | x :: _ =>
      if isBreak x then
        skipGap fuel { l with cursor := c.takeBreak.2, keyAllowed := l.keyAllowed || !l.inFlow }
      else { l with cursor := c }
    | [] => { l with cursor := c }

/-! ## Names, tags and directives -/

/-- An anchor or an alias behind its mark. -/
def takeName (c : Cursor) : Option (String × Cursor) :=
  let name := c.rest.takeWhile isNameChar
  let c := c.skipMany name.length
  let ended := match c.rest with
    | [] => true
    | x :: _ => atGap c.rest || ['?', ':', ',', ']', '}', '%', '@', '\u0060'].contains x
  if name.isEmpty || !ended then none else some (String.ofList name, c)

def isTagChar (verbatim : Bool) (c : Char) : Bool :=
  isNameChar c || ";/?:@&=+$.%!~*'()".toList.contains c
    || (verbatim && (c == ',' || c == '[' || c == ']'))

/-- How many bytes a character takes whose first byte is given. -/
def characterSize? (first : Nat) : Option Nat :=
  if first < 0x80 then some 1
  else if first < 0xC0 then none
  else if first < 0xE0 then some 2
  else if first < 0xF0 then some 3
  else if first < 0xF8 then some 4
  else none

/-- The bytes of a tag. Those that percent signs name come in whole characters; `more` is how many
bytes the last one still lacks. -/
def tagBytes? (more : Nat) : List Char → Option (List UInt8)
  | [] => if more == 0 then some [] else none
  | '%' :: a :: b :: rest => do
    let n := ← Text.valueOfDigits? 16 [a, b]
    let more ←
      if more == 0 then (characterSize? n).map (· - 1)
      else if 0x80 ≤ n && n < 0xC0 then some (more - 1)
      else none
    return UInt8.ofNat n :: (← tagBytes? more rest)
  | c :: rest => do
    if more != 0 || c == '%' then none
    else return (String.singleton c).toUTF8.toList ++ (← tagBytes? 0 rest)

/-- The bytes of a tag up to the first zero byte, and how many characters it takes to write them. -/
def takeTagUri (verbatim : Bool) (c : Cursor) : Option (List UInt8 × Nat × Cursor) := do
  let uri := c.rest.takeWhile (isTagChar verbatim)
  let bytes ← tagBytes? 0 uri
  return (bytes.takeWhile (· != 0), uri.length, c.skipMany uri.length)

/-- The handle of a tag at its exclamation mark: up to a second mark, if only a name stands
between them. -/
def takeHandle (c : Cursor) : String × Cursor :=
  let name := c.rest.tail.takeWhile isNameChar
  let c := c.skipMany (1 + name.length)
  if c.rest.head? == some '!' then (String.ofList ('!' :: name ++ ['!']), c.skip)
  else (String.ofList ('!' :: name), c)

/-- A tag at the cursor: `!<uri>`, `!handle!suffix`, `!suffix` or `!`. -/
def takeTag (flow : Bool) (c : Cursor) : Option (Token × Cursor) := do
  let (t, c) ← match c.rest with
    | _ :: '<' :: _ => do
      let (uri, size, c) ← takeTagUri true (c.skipMany 2)
      if size == 0 || c.rest.head? != some '>' then none
      else pure (Token.tag "" uri, c.skip)
    | _ => do
      let (handle, behind) := takeHandle c
      if 1 < handle.length && handle.back == '!' then do
        let (uri, size, c) ← takeTagUri false behind
        if size == 0 then none else pure (Token.tag handle uri, c)
      else do
        let (uri, _, c) ← takeTagUri false c.skip
        pure (if uri.isEmpty then Token.tag "" "!".toUTF8.toList else Token.tag "!" uri, c)
  if atGap c.rest || (flow && c.rest.head? == some ',') then return (t, c) else none

/-- A number of a version: at most nine digits. -/
def takeVersionNumber (c : Cursor) : Option (Nat × Cursor) :=
  let digits := c.rest.takeWhile Char.isDigit
  if digits.isEmpty || 9 < digits.length then none
  else (Text.valueOfDigits? 10 digits).map (·, c.skipMany digits.length)

/-- A version behind its directive's name: `major.minor`. -/
def takeVersion (c : Cursor) : Option (Token × Cursor) := do
  let (major, c) ← takeVersionNumber c
  if c.rest.head? != some '.' then none
  else
    let (minor, c) ← takeVersionNumber c.skip
    return (.versionDirective major minor, c)

/-- A handle and the tag that it stands for, behind the directive's name. -/
def takeTagDefinition (c : Cursor) : Option (Token × Cursor) := do
  if c.rest.head? != some '!' then none
  else
    let (handle, c) := takeHandle c
    if handle.back != '!' || !(c.rest.head?.map isBlank).getD false then none
    else
      let (uri, size, c) ← takeTagUri true (c.skipWhile isBlank)
      if size == 0 || !atGap c.rest then none else return (.tagDirective handle uri, c)

/-- A directive behind its percent sign, with the end of its line. -/
def takeDirective (c : Cursor) : Option (Token × Cursor) := do
  let name := c.rest.takeWhile isNameChar
  let c := c.skipMany name.length
  if !atGap c.rest then none
  else
    let c := c.skipWhile isBlank
    let (t, c) ← match String.ofList name with
      | "YAML" => takeVersion c
      | "TAG" => takeTagDefinition c
      | _ => none
    return (t, ← c.skipLineTail)

/-! ## One token -/

/-- A mark that opens a flow collection. -/
def openFlow (l : Lexer) (t : Token) : Option Lexer := do
  let l ← l.saveKey
  return ({ l with keys := none :: l.keys }.allow true).skip 1 |>.push t

def closeFlow (l : Lexer) (t : Token) : Option Lexer := do
  let l ← l.dropKey
  let l := if l.inFlow then { l with keys := l.keys.tail } else l
  return ((l.allow false).skip 1).push t

/-- A dash that starts an item. -/
def blockEntry (l : Lexer) : Option Lexer := do
  if !l.inFlow && !l.keyAllowed then none
  else
    let l := l.roll l.cursor.column l.count .blockSequenceStart
    let l ← l.dropKey
    return ((l.allow true).skip 1).push .blockEntry

/-- A question mark that starts a key. -/
def explicitKey (l : Lexer) : Option Lexer := do
  if !l.inFlow && !l.keyAllowed then none
  else
    let l := l.roll l.cursor.column l.count .blockMappingStart
    let l ← l.dropKey
    return ((l.allow (!l.inFlow)).skip 1).push .key

/-- A colon: it ends the key that started earlier on the line, or stands for itself. -/
def colon (l : Lexer) : Option Lexer := do
  match ← l.openKey? with
  | some k =>
    let l := l.insertAt k.position .key
    let l := (l.roll k.column k.position .blockMappingStart).setKey none
    return ((l.allow false).skip 1).push .value
  | none =>
    if !l.inFlow && !l.keyAllowed then none
    else
      let l := (l.roll l.cursor.column l.count .blockMappingStart).setKey none
      return ((l.allow (!l.inFlow)).skip 1).push .value

def anchorOrAlias (l : Lexer) (token : String → Token) : Option Lexer := do
  let l ← l.saveKey
  let (name, c) ← takeName l.cursor.skip
  return { l.allow false with cursor := c }.push (token name)

def scalar (l : Lexer) (text : List Char) (plain : Bool) (c : Cursor) : Lexer :=
  { l with cursor := c }.push (.scalar (String.ofList text) plain)

def quoted (l : Lexer) (single : Bool) : Option Lexer := do
  let l ← l.saveKey
  let c := l.cursor.skip
  let (text, c) ← quotedFrom single c.bound c
  return (l.allow false).scalar text false c

def block (l : Lexer) (literal : Bool) : Option Lexer := do
  let l ← l.dropKey
  let (text, c) ← blockFrom literal l.indent l.cursor.skip
  return (l.allow true).scalar text false c

def plain (l : Lexer) : Option Lexer := do
  let l ← l.saveKey
  let (text, broken, c) ←
    plainFrom l.inFlow (l.indent + 1) l.cursor.bound {} l.cursor
  return (l.allow broken).scalar text true c

/-- A line that starts with a percent sign or a document marker closes all block collections. -/
def closeBlocks (l : Lexer) : Option Lexer := do
  return ((← (l.unroll (-1)).dropKey).allow false)

def directive (l : Lexer) : Option Lexer := do
  let l ← l.closeBlocks
  let (t, c) ← takeDirective l.cursor.skip
  return { l with cursor := c }.push t

def isIndicator (c : Char) : Bool :=
  "-?:,[]\x7b\x7d#&*!|>'\"%@\u0060".toList.contains c

def startsPlain (flow : Bool) (x : Char) (rest : List Char) : Bool :=
  (!isIndicator x && !atGap (x :: rest))
    || (x == '-' && !(match rest with | y :: _ => isBlank y | [] => false))
    || (!flow && (x == '?' || x == ':') && !atGap rest)

/-- The next token, or nothing at the end of the text. -/
def next (l : Lexer) : Option (Option Lexer) := do
  let l := l.skipGap l.cursor.bound
  let l := l.unroll l.cursor.column
  let c := l.cursor
  match c.rest with
  | [] => return none
  | x :: rest =>
    if c.column == 0 && x == '%' then some <$> l.directive
    else if c.atMarker '-' then return some ((← l.closeBlocks).skip 3 |>.push .documentStart)
    else if c.atMarker '.' then return some ((← l.closeBlocks).skip 3 |>.push .documentEnd)
    else if x == '[' then some <$> l.openFlow .flowSequenceStart
    else if x == '{' then some <$> l.openFlow .flowMappingStart
    else if x == ']' then some <$> l.closeFlow .flowSequenceEnd
    else if x == '}' then some <$> l.closeFlow .flowMappingEnd
    else if x == ',' then
      return some (((← l.dropKey).allow true).skip 1 |>.push .flowEntry)
    else if x == '-' && atGap rest then some <$> l.blockEntry
    else if x == '?' && (l.inFlow || atGap rest) then some <$> l.explicitKey
    else if x == ':' && (l.inFlow || atGap rest) then some <$> l.colon
    else if x == '*' then some <$> l.anchorOrAlias .alias
    else if x == '&' then some <$> l.anchorOrAlias .anchor
    else if x == '!' then do
      let l ← l.saveKey
      let (t, c) ← takeTag l.inFlow l.cursor
      return some ({ l.allow false with cursor := c }.push t)
    else if x == '|' && !l.inFlow then some <$> l.block true
    else if x == '>' && !l.inFlow then some <$> l.block false
    else if x == '\'' then some <$> l.quoted true
    else if x == '"' then some <$> l.quoted false
    else if startsPlain l.inFlow x rest then some <$> l.plain
    else none

/-- All tokens; each takes at least one character. -/
def run : Nat → Lexer → Option (List Token)
  | 0, _ => none
  | fuel + 1, l => do
    match ← l.next with
    | some l => run fuel l
    | none => return ((← (l.unroll (-1)).dropKey).tokens.reverse)

end Lexer

/-- The tokens of a text. -/
def Token.ofText? (s : String) : Option (List Token) :=
  let cs := s.toList
  if cs.all isPrintable then Lexer.run (cs.length + 1) { cursor := .start cs } else none

end CloudGraph.Yaml
