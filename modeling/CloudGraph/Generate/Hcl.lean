import CloudGraph.Json.Writer

/-!
# HCL expressions

A JSON value as an expression of HCL. A text is quoted as in JSON, and an opening of a template,
`${` or `%{`, has its first character doubled. The entries of an object stand on lines of their
own; a key that is an attribute name needs no quotes.
-/

namespace CloudGraph.Hcl

def isAttributeStart (c : Char) : Bool :=
  c.isLower || c == '_'

def isAttributeChar (c : Char) : Bool :=
  c.isLower || c.isDigit || c == '_' || c == '-'

/-- Whether a key is a lower-case attribute name. -/
def isAttributeName : List Char → Bool
  | [] => false
  | c :: cs => isAttributeStart c && cs.all isAttributeChar

/-- Double the first character of each opening of a template. -/
def escapeOpenings : List Char → List Char
  | [] => []
  | '$' :: '{' :: cs => '$' :: '$' :: '{' :: escapeOpenings cs
  | '%' :: '{' :: cs => '%' :: '%' :: '{' :: escapeOpenings cs
  | c :: cs => c :: escapeOpenings cs

def quoteChars (s : List Char) : List Char :=
  escapeOpenings (Json.quoteChars s)

/-- The key of an object entry. -/
def keyChars (key : List Char) : List Char :=
  if isAttributeName key then key else quoteChars key

def pad (columns : Nat) : List Char :=
  List.replicate columns ' '

mutual

/-- The expression of a value on a line that starts at column `indent`. -/
def chars (indent : Nat) : Json → List Char
  | .null => ['n', 'u', 'l', 'l']
  | .bool true => ['t', 'r', 'u', 'e']
  | .bool false => ['f', 'a', 'l', 's', 'e']
  | .num n => n.chars
  | .str s => quoteChars s.toList
  | .arr [] => ['[', ']']
  | .arr (v :: rest) => '[' :: chars indent v ++ itemChars indent rest
  | .obj [] => ['{', '}']
  | .obj (m :: rest) => '{' :: '\n' :: entryChars indent (m :: rest)

/-- The items after the first, and the closing bracket. -/
def itemChars (indent : Nat) : List Json → List Char
  | [] => [']']
  | v :: rest => ',' :: ' ' :: chars indent v ++ itemChars indent rest

/-- The entries of an object, a line each, and the closing brace. -/
def entryChars (indent : Nat) : List (String × Json) → List Char
  | [] => pad indent ++ ['}']
  | (k, v) :: rest =>
    pad (indent + 2) ++ keyChars k.toList ++ ' ' :: '=' :: ' ' :: chars (indent + 2) v
      ++ '\n' :: entryChars indent rest

end

def text (indent : Nat) (v : Json) : String :=
  String.ofList (chars indent v)

end CloudGraph.Hcl
