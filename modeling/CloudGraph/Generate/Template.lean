import CloudGraph.Json.Writer

/-!
# Templates

A template is a list of parts: literal text, values that it looks up in the data by name, and
blocks over them. `Template.render` fills it in. It is strict: a name that the data lacks makes
it fail. `Template.source` writes a template in its own notation, where `{{name}}` stands for a
value, and the tags of a block stand on lines of their own or inside a line.
-/

namespace CloudGraph

inductive TemplatePart where
  | literal (text : String)
  /-- The value under a name. -/
  | value (name : String)
  /-- The current item. -/
  | item
  /-- The text under a name, in quotes. -/
  | quoted (name : String)
  /-- The items under a name, with a separator between them. -/
  | joined (name separator : String)
  /-- The body for each item under a name; each tag has a line of its own. -/
  | each (name : String) (body : List TemplatePart)
  /-- The body if the value under a name is not empty; the tags stand on lines of their own or
  inside a line. -/
  | given (name : String) (ownLines : Bool) (body : List TemplatePart)

structure Template where
  name : String
  description : String
  parts : List TemplatePart

/-- What a name stands for in a value. -/
inductive Lookup where
  | found (value : Json)
  | missing
  /-- An array has no names. -/
  | invalid

namespace Template

def find (context : Json) (name : String) : Lookup :=
  match context with
  | .obj members =>
    match lookup name members with
    | some v => .found v
    | none => .missing
  | .arr _ => .invalid
  | _ => .missing

/-! ## Values -/

mutual

/-- A value as it stands in the output; a comma follows every item of an array. -/
def valueChars : Json → List Char
  | .null => []
  | .bool true => ['t', 'r', 'u', 'e']
  | .bool false => ['f', 'a', 'l', 's', 'e']
  | .num n => n.chars
  | .str s => s.toList
  | .arr items => '[' :: itemChars items
  | .obj _ => "[object]".toList

def itemChars : List Json → List Char
  | [] => [']']
  | v :: rest => valueChars v ++ ',' :: ' ' :: itemChars rest

end

/-- Whether a value counts as present: not null, false, empty, zero or too small for a normal
double. -/
def isGiven : Json → Bool
  | .null => false
  | .bool b => b
  | .num (.int n _) => n ≠ 0
  | .num (.double x) => x.isFinite && 2.2250738585072014e-308 ≤ x.abs
  | .str s => !s.isEmpty
  | .arr items => !items.isEmpty
  | .obj members => !members.isEmpty

/-- A value in a joined list: a text as it is, anything else as JSON. -/
def joinedChars : Json → List Char
  | .str s => s.toList
  | v => v.compactChars

def joinChars (separator : List Char) : Json → List Char
  | .arr items => separator.intercalate (items.map joinedChars)
  | _ => []

def quotedChars : Json → List Char
  | .str s => Json.quoteChars s.toList
  | _ => Json.quoteChars []

/-- What a block over a value goes through. -/
def items? : Json → Option (List Json)
  | .arr items => some items
  | .obj members => some (members.map (·.2))
  | _ => none

/-! ## Filling in -/

mutual

def renderPart (context : Json) : TemplatePart → Option (List Char)
  | .literal text => some text.toList
  | .value name =>
    match find context name with
    | .found v => some (valueChars v)
    | _ => none
  | .item => some (valueChars context)
  | .quoted name =>
    match find context name with
    | .found v => some (quotedChars v)
    | _ => none
  | .joined name separator =>
    match find context name with
    | .found v => some (joinChars separator.toList v)
    | _ => none
  | .each name body =>
    match find context name with
    | .found v => do
      let items ← items? v
      let texts ← items.mapM fun item => renderParts item body
      return texts.flatten
    | _ => none
  | .given name _ body =>
    match find context name with
    | .found v => if isGiven v then renderParts context body else some []
    | .missing => some []
    | .invalid => none

def renderParts (context : Json) : List TemplatePart → Option (List Char)
  | [] => some []
  | part :: rest => do
    let text ← renderPart context part
    let others ← renderParts context rest
    return text ++ others

end

/-- The template with the values of the data in it. -/
def render (t : Template) (data : Json) : Option String :=
  (renderParts data t.parts).map String.ofList

/-! ## Notation -/

/-- A tag: its content in two pairs of braces. -/
def tag (content : String) : String :=
  "\x7b\x7b" ++ content ++ "\x7d\x7d"

mutual

def partSource : TemplatePart → String
  | .literal text => text
  | .value name => tag name
  | .item => tag "this"
  | .quoted name => tag ("quote " ++ name)
  | .joined name separator => tag ("join " ++ name ++ " " ++ Json.quote separator)
  | .each name body =>
    tag ("#each " ++ name) ++ "\n" ++ partsSource body ++ tag "/each" ++ "\n"
  | .given name ownLines body =>
    let lineEnd := if ownLines then "\n" else ""
    tag ("#if " ++ name) ++ lineEnd ++ partsSource body ++ tag "/if" ++ lineEnd

def partsSource : List TemplatePart → String
  | [] => ""
  | part :: rest => partSource part ++ partsSource rest

end

/-- The template in its own notation. -/
def source (t : Template) : String :=
  partsSource t.parts

end Template

end CloudGraph
