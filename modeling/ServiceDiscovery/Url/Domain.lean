import ServiceDiscovery.Text.Composed
import ServiceDiscovery.Url.Domain.Direction
import ServiceDiscovery.Url.Domain.Joining
import ServiceDiscovery.Url.Domain.Mapping
import ServiceDiscovery.Url.Ip
import ServiceDiscovery.Url.Punycode

namespace ServiceDiscovery.Url.Domain

open Text

def isForbidden (c : Char) : Bool :=
  c.toNat ≤ 0x20 || c.toNat == 0x7f || "%#/:<>?@[\\]^|".toList.contains c

def isAscii (s : List Char) : Bool := s.all (·.toNat < 0x80)

def folded? (s : List Char) : Option (List Char) := (s.mapM mapChar?).map (composed ·.flatten)

def isFolded (s : List Char) : Bool := s.all isKept && composed s == s

def maxLabel : Nat := 1000
def maxSpelling : Nat := 2000

-- A label that is not in ASCII starts with no mark, and has joiners only where they mean
-- something.
def isWellFormed (label : List Char) : Bool :=
  label.length ≤ maxLabel && !label.head?.any isMark && joinersFit [] label

def spellingStart : List Char := "xn--".toList

structure Label where
  text : List Char
  ascii : List Char
deriving DecidableEq, Repr

def Label.ofSpelling? (label spelling : List Char) : Option Label := do
  if ¬ isAscii label ∨ spelling.getLast?.all (· == '-') ∨ maxSpelling < spelling.length then none
  let text ← Punycode.decode? spelling
  if isFolded text ∧ isWellFormed text then some ⟨text, label⟩ else none

def Label.ofText? (label : List Char) : Option Label :=
  if isAscii label then some ⟨label, label⟩
  else if isWellFormed label then
    some ⟨label, spellingStart ++ Punycode.encode label⟩
  else none

def Label.of? (label : List Char) : Option Label :=
  if spellingStart.isPrefixOf label then Label.ofSpelling? label (label.drop spellingStart.length)
  else Label.ofText? label

-- Where one label is written from right to left, all must keep their direction.
def keepDirections (labels : List Label) : Bool :=
  !labels.any (·.text.any isRightward) || labels.all (keepsDirection ·.text)

def ascii? (s : List Char) : Option (List Char) := do
  let name ← folded? s
  if name.any isForbidden then none
  let labels ← (splitOnChar '.' name).mapM Label.of?
  if keepDirections labels then some (List.intercalate ['.'] (labels.map (·.ascii))) else none

end ServiceDiscovery.Url.Domain
