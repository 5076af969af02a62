import CloudGraph.Text.Hexadecimal
import CloudGraph.Yaml.Cursor

/-!
# YAML scalars

The three ways to write a scalar: plain, quoted and as a block. Each reader starts at a cursor
and gives the text and the cursor behind it. Fuel bounds the number of characters read.
-/

namespace CloudGraph.Yaml

/-! ## Quoted scalars -/

/-- The character of an escape, or the number of hexadecimal digits that name it. -/
def escape? (c : Char) : Option (Char ⊕ Nat) :=
  match c with
  | '0' => some (.inl '\x00')
  | 'a' => some (.inl '\x07')
  | 'b' => some (.inl '\x08')
  | 't' | '\t' => some (.inl '\t')
  | 'n' => some (.inl '\n')
  | 'v' => some (.inl '\x0b')
  | 'f' => some (.inl '\x0c')
  | 'r' => some (.inl '\r')
  | 'e' => some (.inl '\x1b')
  | ' ' => some (.inl ' ')
  | '"' => some (.inl '"')
  | '/' => some (.inl '/')
  | '\\' => some (.inl '\\')
  | 'N' => some (.inl '\u0085')
  | '_' => some (.inl '\u00a0')
  | 'L' => some (.inl '\u2028')
  | 'P' => some (.inl '\u2029')
  | 'x' => some (.inr 2)
  | 'u' => some (.inr 4)
  | 'U' => some (.inr 8)
  | _ => none

/-- One escape behind a backslash that does not end the line. -/
def takeEscape (c : Cursor) : Option (Char × Cursor) := do
  let x ← c.rest.tail.head?
  match ← escape? x with
  | .inl x => return (x, c.skipMany 2)
  | .inr n =>
    let digits := (c.rest.drop 2).take n
    if digits.length = n then
      return (← Text.charOfDigits? digits, c.skipMany (2 + n))
    else none

/-- A word of a quoted scalar: up to a gap or the closing quote. The flag says that a backslash
ended the line. -/
def quotedWord (single : Bool) : Nat → Cursor → Option (List Char × Bool × Cursor)
  | 0, _ => none
  | fuel + 1, c =>
    match c.rest with
    | [] => some ([], false, c)
    | x :: rest =>
      if isBlank x || isBreak x then some ([], false, c)
      else if single && x == '\'' then
        match rest with
        | '\'' :: _ => do
          let (text, r) ← quotedWord single fuel (c.skipMany 2)
          return ('\'' :: text, r)
        | _ => some ([], false, c)
      else if !single && x == '"' then some ([], false, c)
      else if !single && x == '\\' then
        if !rest.isEmpty && atLineEnd rest then some ([], true, c.skip.takeBreak.2)
        else do
          let (y, c) ← takeEscape c
          let (text, r) ← quotedWord single fuel c
          return (y :: text, r)
      else do
        let (text, r) ← quotedWord single fuel c.skip
        return (x :: text, r)

/-- A quoted scalar behind its opening quote. -/
def quotedFrom (single : Bool) : Nat → Cursor → Option (List Char × Cursor)
  | 0, _ => none
  | fuel + 1, c =>
    if c.atDocumentMarker || c.rest.isEmpty then none
    else do
      let (word, escaped, c) ← quotedWord single c.bound c
      if c.rest.head? == some (if single then '\'' else '"') then
        return (word, c.skip)
      else
        let (gap, c) ← Gap.take none c.bound { broken := escaped } c
        let (text, c) ← quotedFrom single fuel c
        return (word ++ gap.join ++ text, c)

/-! ## Plain scalars -/

/-- A word of a plain scalar: up to a gap, or to a mark that ends the scalar. -/
def plainWord (flow : Bool) : List Char → Option (List Char)
  | [] => some []
  | x :: rest =>
    if isBlank x || isBreak x then some []
    else if flow && x == ':' && (match rest with
      | y :: _ => [',', '?', '[', ']', '{', '}'].contains y
      | [] => false) then none
    else if (x == ':' && atGap rest) || (flow && [',', '[', ']', '{', '}'].contains x) then some []
    else (x :: ·) <$> plainWord flow rest

/-- A plain scalar whose later lines start at column `indent` or behind it. The flag says that
the scalar was followed by a line break. -/
def plainFrom (flow : Bool) (indent : Int) :
    Nat → Gap → Cursor → Option (List Char × Bool × Cursor)
  | 0, _, _ => none
  | fuel + 1, gap, c =>
    if c.atDocumentMarker || c.rest.head? == some '#' then some ([], gap.broken, c)
    else do
      let word ← plainWord flow c.rest
      let before := if word.isEmpty then [] else gap.join
      let gap := if word.isEmpty then gap else {}
      let c := c.skipMany word.length
      if !atGap c.rest || c.rest.isEmpty then return (before ++ word, gap.broken, c)
      else
        let (gap, c) ← Gap.take (some indent) c.bound gap c
        if !flow && (c.column : Int) < indent then return (before ++ word, gap.broken, c)
        else
          let (text, broken, c) ← plainFrom flow indent fuel gap c
          return (before ++ word ++ text, broken, c)

/-! ## Block scalars -/

/-- What becomes of the line breaks at the end of a block. -/
inductive Chomping where
  | strip | clip | keep
deriving DecidableEq

def chomping? (c : Cursor) : Option Chomping × Cursor :=
  match c.rest with
  | '+' :: _ => (some .keep, c.skip)
  | '-' :: _ => (some .strip, c.skip)
  | _ => (none, c)

/-- The indentation that a block states for itself, a digit from 1 to 9. -/
def increment? (c : Cursor) : Option (Option Nat × Cursor) :=
  match c.rest with
  | x :: _ =>
    if x == '0' then none
    else if x.isDigit then some (some (x.toNat - '0'.toNat), c.skip)
    else some (none, c)
  | [] => some (none, c)

/-- The marks behind `|` or `>`, in either order. -/
def blockHeader (c : Cursor) : Option (Chomping × Option Nat × Cursor) := do
  match chomping? c with
  | (some chomping, c) =>
    let (increment, c) ← increment? c
    return (chomping, increment, c)
  | (none, c) =>
    let (increment, c) ← increment? c
    match increment, chomping? c with
    | some _, (chomping, c) => return (chomping.getD .clip, increment, c)
    | none, _ => return (.clip, none, c)

/-- The empty lines at the cursor. `indent` is the block's column if it is known; the greatest
column met is returned to find it. -/
def blockBreaks (indent : Option Nat) (greatest : Nat) :
    Nat → Cursor → Option (List Char × Nat × Cursor)
  | 0, _ => none
  | fuel + 1, c =>
    let free (column : Nat) : Bool := match indent with
      | some i => column < i
      | none => true
    let spaces := (c.rest.takeWhile (· == ' ')).length
    let c := c.skipMany (match indent with | some i => min spaces (i - c.column) | none => spaces)
    let greatest := max greatest c.column
    match c.rest with
    | x :: _ =>
      if x == '\t' && free c.column then none
      else if isBreak x then do
        let (text, c) := c.takeBreak
        let (more, r) ← blockBreaks indent greatest fuel c
        return (text ++ more, r)
      else some ([], greatest, c)
    | [] => some ([], greatest, c)

/-- The lines of a block. `first` is the break before the line and `blank` whether the line
before it started with a blank; the last break and the empty lines behind it come apart. -/
def blockLines (literal : Bool) (indent : Nat) :
    Nat → Bool → List Char → List Char → Cursor →
      Option (List Char × List Char × List Char × Cursor)
  | 0, _, _, _, _ => none
  | fuel + 1, blank, first, more, c =>
    if c.column != indent || c.rest.isEmpty then some ([], first, more, c)
    else do
      let startsBlank := match c.rest with
        | x :: _ => isBlank x
        | [] => false
      let gap :=
        if !literal && first == ['\n'] && !blank && !startsBlank then
          (if more.isEmpty then [' '] else more)
        else first ++ more
      let line := c.rest.takeWhile fun x => !isBreak x
      let (lineBreak, c) := (c.skipMany line.length).takeBreak
      let (empty, _, c) ← blockBreaks (some indent) 0 c.bound c
      let (text, tail) ← blockLines literal indent fuel startsBlank lineBreak empty c
      return (gap ++ line ++ text, tail)

/-- A block scalar behind its `|` or `>`, inside a collection at column `outer`. -/
def blockFrom (literal : Bool) (outer : Int) (c : Cursor) : Option (List Char × Cursor) := do
  let (chomping, increment, c) ← blockHeader c
  let c ← c.skipLineTail
  let stated : Option Nat := increment.map fun n => ((max outer 0) + n : Int).toNat
  let (breaks, greatest, c) ← blockBreaks stated 0 c.bound c
  let indent := stated.getD (max (max greatest (outer + 1).toNat) 1)
  let (text, first, more, c) ←
    blockLines literal indent c.bound false [] breaks c
  let tail := match chomping with
    | .strip => []
    | .clip => first
    | .keep => first ++ more
  return (text ++ tail, c)

end CloudGraph.Yaml
