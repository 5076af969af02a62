import CloudGraph.Text.Hexadecimal

/-!
# Percent encoding

An address writes a byte that it cannot hold as a percent sign and two hexadecimal digits. A
percent sign without two such digits behind it stands for itself.
-/

namespace CloudGraph.Web.Percent

/-- The bytes of a character in UTF-8. -/
def bytesOf (c : Char) : List UInt8 :=
  (String.singleton c).toUTF8.toList

def encodeChar (c : Char) : List Char :=
  (bytesOf c).flatMap fun b => '%' :: (Text.hexDigits 2 b.toNat).map Char.toUpper

/-- Encode controls, the blank, characters beyond ASCII and those of a list. -/
def encode (reserved : List Char) (cs : List Char) : List Char :=
  cs.flatMap fun c =>
    if c.toNat ≤ 0x20 || 0x7E < c.toNat || reserved.contains c then encodeChar c else [c]

/-- The bytes that a text stands for. -/
def decode : List Char → List UInt8
  | '%' :: a :: b :: rest =>
    match Text.valueOfDigits? 16 [a, b] with
    | some n => UInt8.ofNat n :: decode rest
    | none => '%'.toUInt8 :: decode (a :: b :: rest)
  | c :: rest => bytesOf c ++ decode rest
  | [] => []

/-- The text that those bytes are in UTF-8. -/
def decodeText? (cs : List Char) : Option String :=
  String.fromUTF8? ⟨(decode cs).toArray⟩

end CloudGraph.Web.Percent
