import ServiceDiscovery.Text.Ascii

namespace ServiceDiscovery.Text

structure Range where
  first : Nat
  last : Nat
deriving DecidableEq, Repr

namespace Range

def contains (r : Range) (c : Char) : Bool := r.first ≤ c.toNat && c.toNat ≤ r.last

-- Two numbers with a dash between them, or one for a code point alone.
def ofChars (s : List Char) : Range :=
  match s.splitOn '-' with
  | [first, last] => ⟨numeral 16 first, numeral 16 last⟩
  | _ => ⟨numeral 16 s, numeral 16 s⟩

end Range

def tableWords (table : String) : List (List Char) :=
  (table.toList.splitOnP fun c => c == ' ' || c == '\n').filter (· ≠ [])

def inRanges (rs : List Range) (c : Char) : Bool := rs.any (·.contains c)

end ServiceDiscovery.Text
