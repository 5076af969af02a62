import CloudGraph.SortedMap
import CloudGraph.Decimal.Shortest

/-!
# JSON values

A number is an integer that fits 64 bits, signed or unsigned, or a double. An object lists its
members; where a value is built by `Json.object`, each key occurs once and the keys increase.
-/

namespace CloudGraph

/-- A number: an integer of 64 bits, signed or not, or else a double. -/
inductive Number where
  | int (value : Int) (fits : -0x8000000000000000 ≤ value ∧ value < 0x10000000000000000)
  | double (value : Float)
deriving DecidableEq

inductive Json where
  | null
  | bool (value : Bool)
  | num (value : Number)
  | str (value : String)
  | arr (items : List Json)
  | obj (members : List (String × Json))
deriving BEq, Inhabited

namespace Number

/-- The integer, if 64 bits hold it. -/
def ofInt? (n : Int) : Option Number :=
  if h : -0x8000000000000000 ≤ n ∧ n < 0x10000000000000000 then some (.int n h) else none

/-- The number as a signed integer of 64 bits. -/
def asInt64? : Number → Option Int
  | .int n _ => if n < 0x8000000000000000 then some n else none
  | .double _ => none

end Number

namespace Json

/-- An object with its members in the order of the keys; of equal keys the later counts. -/
def object (members : List (String × Json)) : Json :=
  .obj (members.foldl (fun ms m => insertEntry m.1 m.2 ms) [])

def ofInt (n : Int) : Json :=
  match Number.ofInt? n with
  | some number => .num number
  | none => .num (.double (Float.ofInt n))

def ofNat (n : Nat) : Json := ofInt n

def ofFloat (x : Float) : Json := .num (.double x)

def strings (texts : List String) : Json := .arr (texts.map .str)

def asBool? : Json → Option Bool
  | .bool b => some b
  | _ => none

def asText? : Json → Option String
  | .str s => some s
  | _ => none

def asInt64? : Json → Option Int
  | .num n => n.asInt64?
  | _ => none

/-- The member of an object under a key. -/
def member? (key : String) : Json → Option Json
  | .obj members => lookup key members
  | _ => none

mutual

/-- Whether in every object each key occurs once and the keys increase. -/
def Canonical : Json → Prop
  | .arr items => CanonicalItems items
  | .obj members => KeysIncrease members ∧ CanonicalMembers members
  | _ => True

def CanonicalItems : List Json → Prop
  | [] => True
  | v :: rest => v.Canonical ∧ CanonicalItems rest

def CanonicalMembers : List (String × Json) → Prop
  | [] => True
  | (_, v) :: rest => v.Canonical ∧ CanonicalMembers rest

end

mutual

instance decidableCanonical : (v : Json) → Decidable v.Canonical
  | .null | .bool _ | .num _ | .str _ => .isTrue trivial
  | .arr items => decidableCanonicalItems items
  | .obj members => @instDecidableAnd _ _ _ (decidableCanonicalMembers members)

instance decidableCanonicalItems : (items : List Json) → Decidable (CanonicalItems items)
  | [] => .isTrue trivial
  | v :: rest => @instDecidableAnd _ _ (decidableCanonical v) (decidableCanonicalItems rest)

instance decidableCanonicalMembers :
    (members : List (String × Json)) → Decidable (CanonicalMembers members)
  | [] => .isTrue trivial
  | (_, v) :: rest => @instDecidableAnd _ _ (decidableCanonical v) (decidableCanonicalMembers rest)

end

mutual

/-- How deep arrays and objects nest; a scalar has depth 0. -/
def depth : Json → Nat
  | .arr items => itemsDepth items + 1
  | .obj members => membersDepth members + 1
  | _ => 0

def itemsDepth : List Json → Nat
  | [] => 0
  | v :: rest => max v.depth (itemsDepth rest)

def membersDepth : List (String × Json) → Nat
  | [] => 0
  | (_, v) :: rest => max v.depth (membersDepth rest)

end

end Json

end CloudGraph
