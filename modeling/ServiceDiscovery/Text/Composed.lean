import ServiceDiscovery.Text.Decomposition
import ServiceDiscovery.Text.Mark

namespace ServiceDiscovery.Text

def firstSyllable : Nat := 0xAC00
def firstConsonant : Nat := 0x1100
def firstVowel : Nat := 0x1161
def noLastConsonant : Nat := 0x11A7
def consonantCount : Nat := 19
def vowelCount : Nat := 21
def lastConsonantCount : Nat := 28

def isSyllable (c : Char) : Bool :=
  firstSyllable ≤ c.toNat &&
    c.toNat < firstSyllable + consonantCount * vowelCount * lastConsonantCount

def syllableParts (c : Char) : List Char :=
  let n := c.toNat - firstSyllable
  let pair := n / lastConsonantCount
  let last := n % lastConsonantCount
  Char.ofNat (firstConsonant + pair / vowelCount) :: Char.ofNat (firstVowel + pair % vowelCount) ::
    if last = 0 then [] else [Char.ofNat (noLastConsonant + last)]

def syllable? (a b : Char) : Option Char :=
  let consonant := a.toNat - firstConsonant
  let vowel := b.toNat - firstVowel
  let last := b.toNat - noLastConsonant
  if firstConsonant ≤ a.toNat ∧ consonant < consonantCount ∧
      firstVowel ≤ b.toNat ∧ vowel < vowelCount then
    some (Char.ofNat (firstSyllable + (consonant * vowelCount + vowel) * lastConsonantCount))
  else if isSyllable a ∧ (a.toNat - firstSyllable) % lastConsonantCount = 0 ∧
      noLastConsonant < b.toNat ∧ last < lastConsonantCount then
    some (Char.ofNat (a.toNat + last))
  else none

def maxDecompositions : Nat := 4

def takenApart : (depth : Nat) → Char → List Char
  | 0, c => [c]
  | depth + 1, c =>
    if isSyllable c then syllableParts c
    else
      match decompositions.find? (·.whole == c.toNat) with
      | some d => (d.parts.map Char.ofNat).flatMap (takenApart depth)
      | none => [c]

def insertMark (c : Char) : List Char → List Char
  | [] => [c]
  | d :: rest =>
    if combiningClass d ≠ 0 ∧ combiningClass d < combiningClass c then d :: insertMark c rest
    else c :: d :: rest

-- Puts every run of marks into the order of their classes; those of one class keep theirs.
def ordered (s : List Char) : List Char := s.foldr insertMark []

def pair? (a b : Char) : Option Char :=
  (syllable? a b).or
    ((decompositions.find? fun d => d.composes && d.parts == [a.toNat, b.toNat]).map fun d =>
      Char.ofNat d.whole)

-- Composes a character with those that follow it. `between` holds the marks that stand after it
-- and do not compose, the nearest to the next character first.
def composeFrom (start : Char) (between : List Char) : List Char → List Char
  | [] => start :: between.reverse
  | c :: rest =>
    let reaches := between.head?.all fun d => combiningClass d < combiningClass c
    match if reaches then pair? start c else none with
    | some whole => composeFrom whole between rest
    | none =>
      if combiningClass c = 0 then start :: (between.reverse ++ composeFrom c [] rest)
      else composeFrom start (c :: between) rest

def compose : List Char → List Char
  | [] => []
  | c :: rest => if combiningClass c = 0 then composeFrom c [] rest else c :: compose rest

def composed (s : List Char) : List Char :=
  if s.all (·.toNat < 0x80) then s else compose (ordered (s.flatMap (takenApart maxDecompositions)))

theorem composed_of_ascii {s : List Char} (ascii : s.all (·.toNat < 0x80) = true) :
    composed s = s := if_pos ascii

end ServiceDiscovery.Text
