import CloudGraph.Json.Basic
import CloudGraph.Text.Hexadecimal

/-!
# Writing JSON

`Json.compact` writes a value on one line without blanks, `Json.pretty` with an indent of two
columns for each level; an empty array or object stays closed. A text escapes the quote, the
backslash and the characters below U+0020, and nothing else.
-/

namespace CloudGraph

/-- How JSON writes a double: plain from `1e-5` to below `1e16`, and always with a fraction or
an exponent. It has no word for a double that is not finite. -/
def jsonStyle : Decimal.Style where
  positional := some (-5, 15)
  plus := "+"
  keepFraction := true
  notANumber := "null"
  infinite := "null"

def Number.chars : Number → List Char
  | .int n _ => (if n < 0 then ['-'] else []) ++ Decimal.digitText n.natAbs
  | .double x => if x.isFinite then (jsonStyle.render x).toList else jsonStyle.notANumber.toList

/-- The decimal text of a number. -/
def Number.text (n : Number) : String :=
  String.ofList n.chars

namespace Json

def escapeChar (c : Char) : List Char :=
  if c = '"' then ['\\', '"']
  else if c = '\\' then ['\\', '\\']
  else if c = '\x08' then ['\\', 'b']
  else if c = '\x0c' then ['\\', 'f']
  else if c = '\n' then ['\\', 'n']
  else if c = '\r' then ['\\', 'r']
  else if c = '\t' then ['\\', 't']
  else if c.toNat < 0x20 then '\\' :: 'u' :: Text.hexDigits 4 c.toNat
  else [c]

/-- The quoted form of a text. -/
def quoteChars (cs : List Char) : List Char :=
  '"' :: cs.flatMap escapeChar ++ ['"']

def quote (s : String) : String :=
  String.ofList (quoteChars s.toList)

mutual

def compactChars : Json → List Char
  | .null => ['n', 'u', 'l', 'l']
  | .bool true => ['t', 'r', 'u', 'e']
  | .bool false => ['f', 'a', 'l', 's', 'e']
  | .num n => n.chars
  | .str s => quoteChars s.toList
  | .arr [] => ['[', ']']
  | .arr (v :: rest) => '[' :: v.compactChars ++ compactItems rest
  | .obj [] => ['{', '}']
  | .obj ((k, v) :: rest) =>
    '{' :: quoteChars k.toList ++ ':' :: v.compactChars ++ compactMembers rest

/-- The items after the first, and the closing bracket. -/
def compactItems : List Json → List Char
  | [] => [']']
  | v :: rest => ',' :: v.compactChars ++ compactItems rest

def compactMembers : List (String × Json) → List Char
  | [] => ['}']
  | (k, v) :: rest =>
    ',' :: quoteChars k.toList ++ ':' :: v.compactChars ++ compactMembers rest

end

/-- A line break and the indent of a level. -/
def newline (level : Nat) : List Char :=
  '\n' :: List.replicate (2 * level) ' '

mutual

def prettyChars (level : Nat) : Json → List Char
  | .null => ['n', 'u', 'l', 'l']
  | .bool true => ['t', 'r', 'u', 'e']
  | .bool false => ['f', 'a', 'l', 's', 'e']
  | .num n => n.chars
  | .str s => quoteChars s.toList
  | .arr [] => ['[', ']']
  | .arr (v :: rest) =>
    '[' :: newline (level + 1) ++ v.prettyChars (level + 1) ++ prettyItems level rest
  | .obj [] => ['{', '}']
  | .obj ((k, v) :: rest) =>
    '{' :: newline (level + 1) ++ quoteChars k.toList ++ ':' :: ' ' ::
      v.prettyChars (level + 1) ++ prettyMembers level rest

def prettyItems (level : Nat) : List Json → List Char
  | [] => newline level ++ [']']
  | v :: rest =>
    ',' :: newline (level + 1) ++ v.prettyChars (level + 1) ++ prettyItems level rest

def prettyMembers (level : Nat) : List (String × Json) → List Char
  | [] => newline level ++ ['}']
  | (k, v) :: rest =>
    ',' :: newline (level + 1) ++ quoteChars k.toList ++ ':' :: ' ' ::
      v.prettyChars (level + 1) ++ prettyMembers level rest

end

/-- The text of a value on one line. -/
def compact (v : Json) : String :=
  String.ofList v.compactChars

/-- The text of a value with an indent of two columns a level. -/
def pretty (v : Json) : String :=
  String.ofList (v.prettyChars 0)

end Json

end CloudGraph
