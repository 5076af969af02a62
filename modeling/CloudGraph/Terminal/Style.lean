/-!
# Styles of terminal text

Bold, dimmed and coloured text by escape sequences. A text painted inside another one ends with
a reset, behind which the outer style is set again.
-/

namespace CloudGraph

inductive Colour where
  | red | green | yellow | magenta | cyan | grey
deriving DecidableEq, Repr

/-- The number of a text colour. -/
def Colour.code : Colour → String
  | .red => "31"
  | .green => "32"
  | .yellow => "33"
  | .magenta => "35"
  | .cyan => "36"
  | .grey => "90"

structure TextStyle where
  bold : Bool := false
  dimmed : Bool := false
  colour : Option Colour := none
deriving DecidableEq, Repr

namespace TextStyle

def codes (s : TextStyle) : List String :=
  (if s.bold then ["1"] else []) ++ (if s.dimmed then ["2"] else [])
    ++ s.colour.toList.map Colour.code

/-- The sequence that sets a style. -/
def opening (s : TextStyle) : List Char :=
  '\x1b' :: '[' :: (";".intercalate s.codes).toList ++ ['m']

/-- The sequence that ends all styles. -/
def reset : List Char := ['\x1b', '[', '0', 'm']

/-- Set a style again behind each reset. -/
def reopen (opening : List Char) : List Char → List Char
  | '\x1b' :: '[' :: '0' :: 'm' :: rest => reset ++ opening ++ reopen opening rest
  | c :: rest => c :: reopen opening rest
  | [] => []

/-- Paint a text, where colours are wanted. -/
def paint (s : TextStyle) (colored : Bool) (text : String) : String :=
  if colored then String.ofList (s.opening ++ reopen s.opening text.toList ++ reset) else text

end TextStyle

/-- Text in a colour alone. -/
def Colour.style (c : Colour) : TextStyle := { colour := some c }

end CloudGraph
