import ServiceDiscovery.Power

namespace ServiceDiscovery

structure Duration where
  nanos : Nat
  bounded : nanos < 2 ^ 64 * 10 ^ 9
deriving DecidableEq, Repr

namespace Duration

theorem ext_nanos {a b : Duration} (same : a.nanos = b.nanos) : a = b := by
  cases a; cases b; simp_all

def longest : Duration := ⟨2 ^ 64 * 10 ^ 9 - 1, by decide⟩

def clamp (n : Nat) : Duration :=
  ⟨min n (2 ^ 64 * 10 ^ 9 - 1), by omega⟩

def zero : Duration := ⟨0, by decide⟩

instance : Inhabited Duration := ⟨zero⟩
instance : LE Duration := ⟨fun a b => a.nanos ≤ b.nanos⟩
instance : LT Duration := ⟨fun a b => a.nanos < b.nanos⟩
instance (a b : Duration) : Decidable (a ≤ b) := inferInstanceAs (Decidable (a.nanos ≤ b.nanos))
instance (a b : Duration) : Decidable (a < b) := inferInstanceAs (Decidable (a.nanos < b.nanos))

def ofParts? (secs nanos : Nat) : Option Duration :=
  if h : secs * 10 ^ 9 + nanos < 2 ^ 64 * 10 ^ 9 then some ⟨secs * 10 ^ 9 + nanos, h⟩ else none

def ofSecs (n : UInt64) : Duration :=
  ⟨n.toNat * 10 ^ 9, by have := n.toNat_lt; omega⟩

def ofMillis (n : UInt64) : Duration :=
  ⟨n.toNat * 10 ^ 6, by have := n.toNat_lt; omega⟩

def secs (d : Duration) : Nat := d.nanos / 10 ^ 9
def subsecNanos (d : Duration) : Nat := d.nanos % 10 ^ 9
def millis (d : Duration) : Nat := d.nanos / 10 ^ 6
def isZero (d : Duration) : Bool := d.nanos == 0

def add (a b : Duration) : Duration := clamp (a.nanos + b.nanos)
def scale (d : Duration) (factor : Nat) : Duration := clamp (d.nanos * factor)
def divide (d : Duration) (k : Nat) : Duration :=
  ⟨d.nanos / k, Nat.lt_of_le_of_lt (Nat.div_le_self ..) d.bounded⟩
def shorter (a b : Duration) : Duration := if a.nanos ≤ b.nanos then a else b

theorem secs_lt (d : Duration) : d.secs < 2 ^ 64 := by
  have := d.bounded
  unfold secs
  omega

theorem ofParts?_secs_subsecNanos (d : Duration) : ofParts? d.secs d.subsecNanos = some d := by
  have := d.bounded
  have parts : d.secs * 10 ^ 9 + d.subsecNanos = d.nanos := by
    simp only [secs, subsecNanos]; omega
  simp only [ofParts?, parts, this, dite_true]

theorem nanos_shorter (a b : Duration) : (a.shorter b).nanos = min a.nanos b.nanos := by
  unfold shorter
  split <;> omega

theorem nanos_add (a b : Duration) :
    (a.add b).nanos = min (a.nanos + b.nanos) longest.nanos := rfl

theorem nanos_scale (d : Duration) (factor : Nat) :
    (d.scale factor).nanos = min (d.nanos * factor) longest.nanos := rfl

def fractionDigits (width n : Nat) : String :=
  let digits := (Nat.toDigits 10 n)
  let padded := List.replicate (width - digits.length) '0' ++ digits
  String.ofList (padded.reverse.dropWhile (· == '0')).reverse

def decimalText (whole width fraction : Nat) : String :=
  if fraction = 0 then toString whole
  else toString whole ++ "." ++ fractionDigits width fraction

-- Text for people, in the largest of seconds, milliseconds, microseconds and nanoseconds of which
-- the span holds at least one.
def text (d : Duration) : String :=
  if 10 ^ 9 ≤ d.nanos then decimalText d.secs 9 d.subsecNanos ++ "s"
  else if 10 ^ 6 ≤ d.nanos then decimalText (d.nanos / 10 ^ 6) 6 (d.nanos % 10 ^ 6) ++ "ms"
  else if 10 ^ 3 ≤ d.nanos then decimalText (d.nanos / 10 ^ 3) 3 (d.nanos % 10 ^ 3) ++ "µs"
  else toString d.nanos ++ "ns"

end Duration

end ServiceDiscovery
