import CloudGraph.Text.CaseTable

/-!
# Case conversion

`lowercase` maps every character to its full lower-case form; a capital sigma becomes `ς` at the
end of a word and `σ` elsewhere. `upperChar` gives the full upper-case form of one character.
`lowerAscii` touches the letters `A` to `Z` only.
-/

namespace CloudGraph.Text

/-- The form of a character that a table gives; other characters stay as they are. -/
def mapCase (runs : List CodeRun) (c : Char) : List Char :=
  match imageIn? runs c with
  | some form => form.map Char.ofNat
  | none => [c]

/-- Whether a letter with case comes next, when ignorable characters are skipped. -/
def casedAhead (cs : List Char) : Bool :=
  match cs.dropWhile (inRuns caseIgnorableRuns) with
  | c :: _ => inRuns casedRuns c
  | [] => false

def lowerChar (c : Char) : List Char :=
  if c.toNat < 0x80 then [c.toLower] else mapCase lowerRuns c

/-- The full upper-case form of a character. -/
def upperChar (c : Char) : List Char :=
  if c.toNat < 0x80 then [c.toUpper] else mapCase upperRuns c

/-- Lower-case `cs`; `before` holds the characters already passed, the nearest first. -/
def lowercaseFrom (before : List Char) : List Char → List Char
  | [] => []
  | c :: cs =>
    let form :=
      if c == 'Σ' then
        [if casedAhead before && !casedAhead cs then 'ς' else 'σ']
      else lowerChar c
    form ++ lowercaseFrom (c :: before) cs

/-- The full lower-case form of a text. -/
def lowercase (s : String) : String :=
  String.ofList (lowercaseFrom [] s.toList)

/-- Lower-case the letters `A` to `Z` and nothing else. -/
def lowerAscii (s : String) : String :=
  String.ofList (s.toList.map Char.toLower)

/-- Equality of texts up to the case of the letters `A` to `Z`. -/
def eqIgnoringAsciiCase (s t : String) : Bool :=
  lowerAscii s == lowerAscii t

/-! ## Key styles -/

/-- Put an underscore before a capital, unless it comes first or follows an underscore. -/
def snakeFrom (out : List Char) : List Char → List Char
  | [] => out.reverse
  | c :: cs =>
    if c.isUpper then
      match out with
      | [] => snakeFrom [c.toLower] cs
      | '_' :: _ => snakeFrom (c.toLower :: out) cs
      | _ => snakeFrom (c.toLower :: '_' :: out) cs
    else snakeFrom (c :: out) cs

/-- The snake-case form of a key: `instanceType` becomes `instance_type`. -/
def snakeCase (key : String) : String :=
  String.ofList (snakeFrom [] key.toList)

/-- The key with its first character in upper case. -/
def pascalCase (key : String) : String :=
  match key.toList with
  | [] => ""
  | c :: cs => String.ofList (upperChar c ++ cs)

end CloudGraph.Text
