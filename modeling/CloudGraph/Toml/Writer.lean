import CloudGraph.Decimal.Shortest
import CloudGraph.Json.Writer
import CloudGraph.Toml.Scalar

/-!
# Writing TOML

A text is written in the first form that can hold it without escapes: in double quotes, in
single quotes, and in three of either; one that needs escapes goes in double quotes, three of
them if it has a line break. A list with more than one item has a line for each.
-/

namespace CloudGraph.Toml

/-! ## Texts -/

/-- The length of the longest run of a character. -/
def longestRun (c : Char) (cs : List Char) : Nat :=
  let step (best : Nat × Nat) (d : Char) : Nat × Nat :=
    if d == c then (max best.1 (best.2 + 1), best.2 + 1) else (best.1, 0)
  (cs.foldl step (0, 0)).1

/-- Whether a text has a character that only an escape can stand for. -/
def needsEscape (cs : List Char) : Bool :=
  cs.any fun c => c != '\n' && !isPlainChar c

def escapeChar (long : Bool) (c : Char) : List Char :=
  if c = '\x08' then ['\\', 'b']
  else if c = '\t' then ['\\', 't']
  else if c = '\n' then (if long then [c] else ['\\', 'n'])
  else if c = '\x0c' then ['\\', 'f']
  else if c = '\r' then ['\\', 'r']
  else if c = '\\' then ['\\', '\\']
  else if isPlainChar c then [c]
  else '\\' :: 'u' :: (Text.hexDigits 4 c.toNat).map Char.toUpper

/-- Escape a text between double quotes; a run of more than `allowed` quotes is broken by
escapes, and `run` is the length of the run so far. -/
def escapedFrom (long : Bool) (allowed run : Nat) : List Char → List Char
  | [] => []
  | c :: rest =>
    if c = '"' then
      if run < allowed then c :: escapedFrom long allowed (run + 1) rest
      else '\\' :: c :: escapedFrom long allowed 0 rest
    else escapeChar long c ++ escapedFrom long allowed 0 rest

/-- Three quotes, and a line break behind them if the text has one. -/
def longOpening (quote : Char) (cs : List Char) : List Char :=
  List.replicate 3 quote ++ (if cs.contains '\n' then ['\n'] else [])

def textChars (cs : List Char) : List Char :=
  let escapes := needsEscape cs
  let backslash := cs.contains '\\'
  let long := cs.contains '\n'
  let doubles := longestRun '"' cs
  let singles := longestRun '\'' cs
  if !escapes && !backslash && doubles == 0 && !long then '"' :: escapedFrom false 0 0 cs ++ ['"']
  else if !escapes && singles == 0 && !long then '\'' :: cs ++ ['\'']
  else if !escapes && !backslash && doubles ≤ 2 then
    longOpening '"' cs ++ escapedFrom true 2 0 cs ++ ['"', '"', '"']
  else if !escapes && singles ≤ 2 then longOpening '\'' cs ++ cs ++ ['\'', '\'', '\'']
  else if long then longOpening '"' cs ++ escapedFrom true 2 0 cs ++ ['"', '"', '"']
  else '"' :: escapedFrom false 0 0 cs ++ ['"']

def quote (s : String) : String :=
  String.ofList (textChars s.toList)

/-! ## Values -/

/-- How TOML writes a double. -/
def doubleStyle : Decimal.Style where
  positional := none
  plus := ""
  keepFraction := true
  notANumber := "nan"
  infinite := "inf"

def doubleText (x : Float) : String :=
  doubleStyle.render x

def listText (texts : List String) : String :=
  match texts with
  | [] => "[]"
  | [s] => "[" ++ quote s ++ "]"
  | _ => "[" ++ String.join (texts.map fun s => "\n    " ++ quote s ++ ",") ++ "\n]"

/-- A table under its header, with its entries as key and text of the value. -/
def section_ (name : String) (entries : List (String × String)) : String :=
  "[" ++ name ++ "]\n" ++ String.join (entries.map fun e => e.1 ++ " = " ++ e.2 ++ "\n")

/-- A document of sections. -/
def document (sections : List (String × List (String × String))) : String :=
  "\n".intercalate (sections.map fun s => section_ s.1 s.2)

end CloudGraph.Toml
