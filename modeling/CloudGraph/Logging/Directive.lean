import CloudGraph.Decimal.Reader
import CloudGraph.Logging.FieldPattern
import CloudGraph.Text.Bytes

/-!
# Log directives

A directive says which messages are logged: a level, a target, or a target with a level behind
`=`. A target may name a span in brackets, with fields in braces and a value or a pattern for
each. `Directive.check` reads a directive one character at a time.

Places are counted in bytes from the first character that is not blank, but the words between
them are cut out of the whole text. So blanks in front of a directive shift its words, and blanks
behind it are part of a level.
-/

namespace CloudGraph

/-- Why a directive is refused. -/
inductive DirectiveError where
  | malformed
  | unknownLevel
  | pattern (cause : PatternError)
deriving DecidableEq, Repr

def DirectiveError.message : DirectiveError → String
  | .malformed => "invalid filter directive"
  | .unknownLevel =>
    "error parsing level filter: expected one of \"off\", \"error\", \"warn\", \"info\", "
      ++ "\"debug\", \"trace\", or a number 0-5"
  | .pattern cause => "invalid field filter: " ++ cause.message

namespace Directive

/-- Where in a directive a character stands, and where the word that it is in starts. -/
inductive Position where
  | start
  /-- In a word that is a level or a target. -/
  | word
  | span (first : Nat)
  | field (first : Nat)
  /-- Behind the fields of a span. -/
  | fields
  /-- Behind a span. -/
  | target
  | level (first : Nat)
  | complete
deriving DecidableEq, Repr

def levelNames : List String := ["error", "warn", "info", "debug", "trace", "off"]

/-- Whether a text is a number from 0 to 5, with a plus sign or leading zeros or without. -/
def isLevelNumber (cs : List Char) : Bool :=
  let ds := match cs with
    | '+' :: rest => rest
    | _ => cs
  !ds.isEmpty && ds.all Char.isDigit && Decimal.digitsValue ds ≤ 5

/-- Whether a text is a level; so is the empty one. -/
def isLevel (cs : List Char) : Bool :=
  cs.isEmpty || isLevelNumber cs
    || levelNames.any (Text.eqIgnoringAsciiCase · (String.ofList cs))

/-- Whether a directive can start with a character. -/
def isStart (c : Char) : Bool :=
  c == '-' || c == ':' || c == '_' || Text.isLetterOrNumber c

/-- Whether the value of a field is a truth value or a number; others are patterns. -/
def isPlainValue (value : List Char) : Bool :=
  let text := String.ofList value
  text == "true" || text == "false" || (Decimal.ofText? text).isSome

/-- Check a field: a name, or a name and a value behind `=`. -/
def checkField (field : List Char) : Except DirectiveError Unit :=
  if field.isEmpty then .error .malformed
  else match field.splitOnP (· == '=') with
    | _ :: value :: _ =>
      if isPlainValue value then .ok () else (FieldPattern.check value).mapError .pattern
    | _ => .ok ()

def checkLevel (level : List Char) : Except DirectiveError Unit :=
  if isLevel level then .ok () else .error .unknownLevel

/-- The word between two places of a text. -/
def cut (text : List Char) (first last : Nat) : Except DirectiveError (List Char) :=
  match Text.slice? text first last with
  | some word => .ok word
  | none => .error .malformed

/-- Go past the character `c` at the place `i` of a directive. -/
def step (text : List Char) (position : Position) (i : Nat) (c : Char) :
    Except DirectiveError Position :=
  match position with
  | .start =>
    if c = '[' then .ok (.span (i + 1)) else if isStart c then .ok .word else .error .malformed
  | .word => do
    if c = '=' then
      let _ ← cut text 0 i
      return .level (i + 1)
    else if c = '[' then
      let _ ← cut text 0 i
      return .span (i + 1)
    else if c = ',' then return .complete
    else return .word
  | .span first => do
    if c = ']' then
      let _ ← cut text first i
      return .target
    else if c = '{' then
      let _ ← cut text first i
      return .field (i + 1)
    else return .span first
  | .field first => do
    if c = '}' then
      checkField (← cut text first i)
      return .fields
    else if c = ',' then
      checkField (← cut text first i)
      return .field (i + 1)
    else return .field first
  | .fields => if c = ']' then .ok .target else .error .malformed
  | .target => if c = '=' then .ok (.level (i + 1)) else .error .malformed
  | .level first => do
    if c = ',' then
      checkLevel (← cut text first i)
      return .complete
    else return .level first
  | .complete => .error .malformed

/-- Go past the characters `cs`, the first of which is at the place `i`. -/
def stepAll (text : List Char) (position : Position) (i : Nat) :
    List Char → Except DirectiveError Position
  | [] => .ok position
  | c :: cs => do stepAll text (← step text position i c) (i + c.utf8Size) cs

def check (text : String) : Except DirectiveError Unit := do
  let cs := text.toList
  match ← stepAll cs .start 0 (Text.trimChars cs) with
  | .word | .target | .complete => return
  | .level first => checkLevel (← cut cs first (Text.byteSize cs))
  | .start | .span _ | .field _ | .fields => throw .malformed

/-- Check several directives with commas between them. -/
def checkAll (text : String) : Except DirectiveError Unit :=
  ((text.splitOn ",").filter (!·.isEmpty)).forM check

end Directive

end CloudGraph
