import ServiceDiscovery.Interval
import ServiceDiscovery.Proofs.Text.Separator

namespace ServiceDiscovery.Interval

open Text

-- What a registry makes of the notation of a span.
def announced (d : Duration) : Nat := if d.nanos = 0 then 0 else max d.millis 1 * 10 ^ 6

-- A time that stands for a span: not nothing, less than a millisecond off, and the span itself if
-- that is whole milliseconds.
structure StandsFor (time span : Nat) : Prop where
  positive : 0 < time
  above : time < span + 10 ^ 6
  below : span < time + 10 ^ 6
  exact : 10 ^ 6 ∣ span → time = span

theorem digits_before_unit (n : Nat) (unit : List Char)
    (other : ∀ c ∈ unit.head?, isAsciiDigit c = false) :
    (Nat.toDigits 10 n ++ unit).takeWhile isAsciiDigit = Nat.toDigits 10 n ∧
      (Nat.toDigits 10 n ++ unit).dropWhile isAsciiDigit = unit :=
  ⟨take_while_until _ unit (ascii_digit_of_decimal n) other,
    drop_while_until _ unit (ascii_digit_of_decimal n) other⟩

theorem to_list_decimal (n : Nat) (unit : String) :
    (toString n ++ unit).toList = Nat.toDigits 10 n ++ unit.toList := by
  rw [String.toList_append, Nat.toString_eq_ofList_toDigits, String.toList_ofList]

theorem denote_seconds (n : Nat) : denote? (toString n ++ "s") = some (n * 10 ^ 9) := by
  obtain ⟨digits, unit⟩ := digits_before_unit n "s".toList (by rintro c ⟨⟩; decide)
  simp only [denote?, to_list_decimal, digits, unit, if_neg Nat.toDigits_ne_nil, numeral_decimal]
  rfl

theorem denote_millis (n : Nat) : denote? (toString n ++ "ms") = some (n * 10 ^ 6) := by
  obtain ⟨digits, unit⟩ := digits_before_unit n "ms".toList (by rintro c ⟨⟩; decide)
  simp only [denote?, to_list_decimal, digits, unit, if_neg Nat.toDigits_ne_nil, numeral_decimal]
  rfl

theorem denote_text (d : Duration) : denote? (text d) = some (announced d) := by
  unfold text
  split
  · rename_i whole
    rw [Duration.subsecNanos] at whole
    rw [denote_seconds, Duration.secs, announced, Duration.millis, Option.some_inj]
    split
    · omega
    · omega
  · rename_i part
    rw [Duration.subsecNanos] at part
    rw [denote_millis, announced, if_neg fun none => part (by rw [none])]

theorem announced_stands (d : Duration) (positive : 0 < d.nanos) :
    StandsFor (announced d) d.nanos := by
  rw [announced, if_neg (Nat.ne_of_gt positive), Duration.millis]
  exact ⟨by omega, by omega, by omega, by omega⟩

theorem announced_mono {a b : Duration} (shorter : a ≤ b) : announced a ≤ announced b := by
  have nanos : a.nanos ≤ b.nanos := shorter
  rw [announced, announced, Duration.millis, Duration.millis]
  split
  · omega
  · rw [if_neg (by omega)]
    omega

theorem announced_le (d : Duration) (long : 10 ^ 6 ≤ d.nanos) : announced d ≤ d.nanos := by
  rw [announced, Duration.millis]
  split
  · omega
  · omega

theorem announced_bounded (d : Duration) : announced d ≤ Duration.longest.nanos := by
  have bound := d.bounded
  have longest : Duration.longest.nanos = 2 ^ 64 * 10 ^ 9 - 1 := rfl
  rw [announced, Duration.millis, longest]
  split
  · omega
  · omega

theorem announced_whole (d : Duration) : 10 ^ 6 ∣ announced d := by
  rw [announced]
  split
  · exact Nat.dvd_zero _
  · exact Nat.dvd_mul_left _ _

end ServiceDiscovery.Interval
