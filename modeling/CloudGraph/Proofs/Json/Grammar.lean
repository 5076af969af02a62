import Mathlib.Data.List.Basic

/-!
# The grammar of JSON

Which texts are JSON, said without a reader. Blanks may stand around every value and around every
name, in any number. A text may hold every character but the quote, the backslash and the control
characters, each of the escapes, and code units of four digits in any order, half a surrogate pair
included. A number has no zero in front and no point or power without digits.
-/

namespace CloudGraph.Json

def IsBlanks (cs : List Char) : Prop :=
  ∀ c ∈ cs, c = ' ' ∨ c = '\t' ∨ c = '\n' ∨ c = '\r'

/-! ## Texts -/

def IsHexDigit (c : Char) : Prop :=
  ('0' ≤ c ∧ c ≤ '9') ∨ ('a' ≤ c ∧ c ≤ 'f') ∨ ('A' ≤ c ∧ c ≤ 'F')

theorem ne_of_isHexDigit {c : Char} (h : IsHexDigit c) : c ≠ '"' ∧ c ≠ '\\' := by
  constructor <;> rintro rfl <;> revert h <;> unfold IsHexDigit <;> decide

/-- A character of a text as it is written. -/
inductive IsTextUnit : List Char → Prop
  | plain {c : Char} (hquote : c ≠ '"') (hbackslash : c ≠ '\\') (hcontrol : 0x20 ≤ c.toNat) :
    IsTextUnit [c]
  | escape {c : Char} (h : c ∈ ['"', '\\', '/', 'b', 'f', 'n', 'r', 't']) : IsTextUnit ['\\', c]
  | code {a b c d : Char} (ha : IsHexDigit a) (hb : IsHexDigit b) (hc : IsHexDigit c)
    (hd : IsHexDigit d) : IsTextUnit ['\\', 'u', a, b, c, d]

def IsText (cs : List Char) : Prop :=
  ∃ units : List (List Char), (∀ u ∈ units, IsTextUnit u) ∧ cs = '"' :: units.flatten ++ ['"']

/-! ## Numbers -/

def IsDigits (cs : List Char) : Prop :=
  cs ≠ [] ∧ ∀ c ∈ cs, c.isDigit = true

/-- The digits before the point: a zero alone, or no zero in front. -/
def IsWhole (cs : List Char) : Prop :=
  IsDigits cs ∧ (cs.head? = some '0' → cs = ['0'])

def IsFraction (cs : List Char) : Prop :=
  cs = [] ∨ ∃ ds, IsDigits ds ∧ cs = '.' :: ds

def IsPower (cs : List Char) : Prop :=
  cs = [] ∨ ∃ e sign ds, (e = 'e' ∨ e = 'E') ∧ (sign = [] ∨ sign = ['+'] ∨ sign = ['-']) ∧
    IsDigits ds ∧ cs = e :: sign ++ ds

def IsNumber (cs : List Char) : Prop :=
  ∃ sign whole fraction power, (sign = [] ∨ sign = ['-']) ∧ IsWhole whole ∧ IsFraction fraction ∧
    IsPower power ∧ cs = sign ++ whole ++ fraction ++ power

/-! ## Values -/

/-- The parts of a value. -/
inductive Phrase where
  | value | array | object
  /-- A value with the blanks around it. -/
  | element
  /-- One or more elements with commas between them. -/
  | elements
  /-- A name, a colon and an element. -/
  | member
  /-- One or more members with commas between them. -/
  | members

/-- The texts of each phrase. -/
inductive Derives : Phrase → List Char → Prop
  | null : Derives .value ['n', 'u', 'l', 'l']
  | true : Derives .value ['t', 'r', 'u', 'e']
  | false : Derives .value ['f', 'a', 'l', 's', 'e']
  | number {n : List Char} (h : IsNumber n) : Derives .value n
  | text {t : List Char} (h : IsText t) : Derives .value t
  | array {a : List Char} (h : Derives .array a) : Derives .value a
  | object {o : List Char} (h : Derives .object o) : Derives .value o
  | noElements {b : List Char} (hb : IsBlanks b) : Derives .array ('[' :: b ++ [']'])
  | bracketed {es : List Char} (h : Derives .elements es) : Derives .array ('[' :: es ++ [']'])
  | noMembers {b : List Char} (hb : IsBlanks b) : Derives .object ('{' :: b ++ ['}'])
  | braced {ms : List Char} (h : Derives .members ms) : Derives .object ('{' :: ms ++ ['}'])
  | padded {b v b' : List Char} (hb : IsBlanks b) (hv : Derives .value v) (hb' : IsBlanks b') :
    Derives .element (b ++ v ++ b')
  | oneElement {e : List Char} (h : Derives .element e) : Derives .elements e
  | moreElements {e es : List Char} (h : Derives .element e) (hs : Derives .elements es) :
    Derives .elements (e ++ ',' :: es)
  | named {b k b' e : List Char} (hb : IsBlanks b) (hk : IsText k) (hb' : IsBlanks b')
    (he : Derives .element e) : Derives .member (b ++ k ++ b' ++ ':' :: e)
  | oneMember {m : List Char} (h : Derives .member m) : Derives .members m
  | moreMembers {m ms : List Char} (h : Derives .member m) (hs : Derives .members ms) :
    Derives .members (m ++ ',' :: ms)

/-! Blanks in front of a part are blanks of its first element or name. -/

theorem Derives.element_append {b e : List Char} (hb : IsBlanks b) (h : Derives .element e) :
    Derives .element (b ++ e) := by
  cases h with
  | padded hb' hv hb'' => simpa using Derives.padded (List.forall_mem_append.mpr ⟨hb, hb'⟩) hv hb''

theorem Derives.elements_append {b es : List Char} (hb : IsBlanks b) (h : Derives .elements es) :
    Derives .elements (b ++ es) := by
  cases h with
  | oneElement h => exact .oneElement (h.element_append hb)
  | moreElements h hs => simpa using Derives.moreElements (h.element_append hb) hs

theorem Derives.member_append {b m : List Char} (hb : IsBlanks b) (h : Derives .member m) :
    Derives .member (b ++ m) := by
  cases h with
  | named hb' hk hb'' he =>
    simpa using Derives.named (List.forall_mem_append.mpr ⟨hb, hb'⟩) hk hb'' he

theorem Derives.members_append {b ms : List Char} (hb : IsBlanks b) (h : Derives .members ms) :
    Derives .members (b ++ ms) := by
  cases h with
  | oneMember h => exact .oneMember (h.member_append hb)
  | moreMembers h hs => simpa using Derives.moreMembers (h.member_append hb) hs

/-- A text from the bracket that opens an array to the one that closes it. -/
def IsArray (cs : List Char) : Prop :=
  Derives .array cs

end CloudGraph.Json
