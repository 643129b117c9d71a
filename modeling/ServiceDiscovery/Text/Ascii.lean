import ServiceDiscovery.Power

namespace ServiceDiscovery.Text

def isAsciiLetter (c : Char) : Bool := ('a' ≤ c && c ≤ 'z') || ('A' ≤ c && c ≤ 'Z')
def isAsciiDigit (c : Char) : Bool := '0' ≤ c && c ≤ '9'
def isHexDigit (c : Char) : Bool :=
  isAsciiDigit c || ('a' ≤ c && c ≤ 'f') || ('A' ≤ c && c ≤ 'F')

theorem ascii_of_range {first last c : Char} (ascii : last.toNat < 128)
    (inside : (first ≤ c && c ≤ last) = true) : c.toNat < 128 := by
  rw [Bool.and_eq_true, decide_eq_true_eq, decide_eq_true_eq] at inside
  exact Nat.lt_of_le_of_lt (UInt32.le_iff_toNat_le.1 inside.2) ascii

theorem ascii_of_letter {c : Char} (letter : isAsciiLetter c = true) : c.toNat < 128 := by
  rw [isAsciiLetter, Bool.or_eq_true] at letter
  rcases letter with small | capital
  · exact ascii_of_range (by decide) small
  · exact ascii_of_range (by decide) capital

theorem ascii_of_digit {c : Char} (digit : isAsciiDigit c = true) : c.toNat < 128 :=
  ascii_of_range (by decide) digit

def lowerChar (c : Char) : Char :=
  if 'A' ≤ c && c ≤ 'Z' then Char.ofNat (c.toNat + 32) else c

def lower (s : String) : String := String.ofList (s.toList.map lowerChar)

theorem lowerChar_lowerChar (c : Char) : lowerChar (lowerChar c) = lowerChar c := by
  by_cases upper : ('A' ≤ c && c ≤ 'Z') = true
  · have all : ∀ n < 128, lowerChar (lowerChar (Char.ofNat n)) = lowerChar (Char.ofNat n) := by
      decide
    simpa only [Char.ofNat_toNat] using all c.toNat (ascii_of_range (by decide) upper)
  · have same : lowerChar c = c := if_neg upper
    rw [same, same]

theorem lower_lower (s : String) : lower (lower s) = lower s := by
  rw [lower, lower, String.toList_ofList, List.map_map]
  congr 2
  exact funext lowerChar_lowerChar

def equalFold (a b : String) : Bool := lower a == lower b

def digitValue (c : Char) : Nat :=
  if isAsciiDigit c then c.toNat - '0'.toNat
  else if 'a' ≤ c && c ≤ 'f' then c.toNat - 'a'.toNat + 10
  else if 'A' ≤ c && c ≤ 'F' then c.toNat - 'A'.toNat + 10
  else 0

def numeral (radix : Nat) (digits : List Char) : Nat :=
  digits.foldl (fun n c => n * radix + digitValue c) 0

def decimal64? (digits : List Char) : Option UInt64 :=
  if digits ≠ [] ∧ digits.all isAsciiDigit ∧ numeral 10 digits < 2 ^ 64 then
    some (UInt64.ofNat (numeral 10 digits))
  else none

theorem decimal64?_eq_some (digits : List Char) (n : UInt64) :
    decimal64? digits = some n ↔
      digits ≠ [] ∧ digits.all isAsciiDigit = true ∧ numeral 10 digits = n.toNat := by
  have bound := n.toNat_lt
  unfold decimal64?
  split
  · rename_i legal
    rw [Option.some.injEq, ← UInt64.toNat_inj, UInt64.toNat_ofNat_of_lt' legal.2.2]
    simp [legal]
  · rename_i illegal
    refine ⟨fun missing => by simp at missing, fun ⟨present, digit, value⟩ => ?_⟩
    exact absurd ⟨present, digit, by omega⟩ illegal

def joinWith (separator : String) (parts : List String) : String := separator.intercalate parts

end ServiceDiscovery.Text
