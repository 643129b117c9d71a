import ServiceDiscovery.Text.Ascii

namespace ServiceDiscovery.Url

open Text

def upperHex (n : Nat) : Char :=
  if n < 10 then Char.ofNat ('0'.toNat + n) else Char.ofNat ('A'.toNat + (n - 10))

def encodeByte (b : UInt8) : List Char := ['%', upperHex (b.toNat / 16), upperHex (b.toNat % 16)]

def encodeChar (c : Char) : List Char := (String.utf8EncodeChar c).flatMap encodeByte

def encodeChars (escapes : Char → Bool) (s : List Char) : List Char :=
  s.flatMap fun c => if escapes c then encodeChar c else [c]

-- The bytes that a text stands for once every `%` with two hexadecimal digits is one byte.
def decodeBytes : List Char → List UInt8
  | [] => []
  | '%' :: a :: b :: rest =>
    if isHexDigit a ∧ isHexDigit b then
      UInt8.ofNat (digitValue a * 16 + digitValue b) :: decodeBytes rest
    else UInt8.ofNat '%'.toNat :: decodeBytes (a :: b :: rest)
  | c :: rest => String.utf8EncodeChar c ++ decodeBytes rest
termination_by s => s.length

def decoded? (s : List Char) : Option String := String.fromUTF8? ⟨(decodeBytes s).toArray⟩

def escapesControl (c : Char) : Bool := c.toNat < 0x20 || 0x7e < c.toNat

def escapesFragment (c : Char) : Bool :=
  escapesControl c || c == ' ' || c == '"' || c == '<' || c == '>' || c == '\x60'

def escapesPath (c : Char) : Bool :=
  escapesFragment c || c == '#' || c == '?' || c == '\x7b' || c == '\x7d'

def escapesUser (c : Char) : Bool := escapesPath c || "/:;=@[\\]^|".toList.contains c

def escapesQuery (c : Char) : Bool :=
  escapesControl c || c == ' ' || c == '"' || c == '#' || c == '<' || c == '>' || c == '\''

-- What a form keeps as it is; a blank becomes a plus sign and all else is escaped.
def isFormChar (c : Char) : Bool :=
  isAsciiLetter c || isAsciiDigit c || c == '*' || c == '-' || c == '.' || c == '_'

def formEncode (s : List Char) : List Char :=
  s.flatMap fun c => if c = ' ' then ['+'] else if isFormChar c then [c] else encodeChar c

def formDecodeBytes (s : List Char) : List UInt8 :=
  decodeBytes (s.map fun c => if c = '+' then ' ' else c)

def formPair (pair : String × String) : List Char :=
  formEncode pair.1.toList ++ '=' :: formEncode pair.2.toList

def formPairs (pairs : List (String × String)) : List Char :=
  List.intercalate ['&'] (pairs.map formPair)

end ServiceDiscovery.Url
