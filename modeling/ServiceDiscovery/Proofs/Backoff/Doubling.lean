import ServiceDiscovery.Proofs.Backoff.Bounds

namespace ServiceDiscovery.Backoff

-- The doublings that are left out would make the delay at least twice as long.
theorem doublings_left_out (base : Duration) (failures : Nat) (more : maxDoublings < failures) :
    2 * (base.nanos * 2 ^ maxDoublings) ≤ base.nanos * 2 ^ failures := by
  have power : 2 * 2 ^ maxDoublings ≤ 2 ^ failures := by
    rw [← Nat.pow_succ']
    exact Nat.pow_le_pow_right Nat.two_pos more
  calc
    2 * (base.nanos * 2 ^ maxDoublings) = base.nanos * (2 * 2 ^ maxDoublings) :=
      Nat.mul_left_comm _ _ _
    _ ≤ base.nanos * 2 ^ failures := Nat.mul_le_mul_left _ power

theorem nanos_doubled (base longest : Duration) (failures : Nat)
    (few : failures ≤ maxDoublings) :
    (capped base longest (failures + 1)).nanos =
      min (base.nanos * 2 ^ failures) longest.nanos := by
  rw [nanos_capped, Nat.add_sub_cancel, Nat.min_eq_left few]

theorem nanos_stopped (base longest : Duration) (failures : Nat)
    (more : maxDoublings < failures) :
    (capped base longest (failures + 1)).nanos =
      min (base.nanos * 2 ^ maxDoublings) longest.nanos := by
  rw [nanos_capped, Nat.add_sub_cancel, Nat.min_eq_right (Nat.le_of_lt more)]

/-- The delay after some earlier failures in a row is the base delay doubled for each of them and
cut off at the longest one, computed as if numbers had no bound, just when there are at most
sixteen of them, or nothing to double, or sixteen doublings reach the longest delay. Else it stays
at sixteen doublings, short of that. -/
theorem doubled_until_longest_iff (base longest : Duration) (consulted failures : Nat) :
    let delay := (exponential base longest consulted (failures + 1)).nanos
    let doubled := min (base.nanos * 2 ^ failures) longest.nanos
    (delay = doubled ↔
      failures ≤ 16 ∨ base.nanos = 0 ∨ longest.nanos ≤ base.nanos * 2 ^ 16) ∧
    (delay = doubled ∨ delay = base.nanos * 2 ^ 16 ∧ delay < doubled) := by
  intro delay doubled
  by_cases few : failures ≤ maxDoublings
  · have same : delay = doubled := nanos_doubled base longest failures few
    exact ⟨⟨fun _ => .inl few, fun _ => same⟩, .inl same⟩
  · have more := Nat.lt_of_not_le few
    have stopped : delay = min (base.nanos * 2 ^ 16) longest.nanos :=
      nanos_stopped base longest failures more
    have twice : 2 * (base.nanos * 2 ^ 16) ≤ base.nanos * 2 ^ failures :=
      doublings_left_out base failures more
    have none_doubled : base.nanos = 0 → base.nanos * 2 ^ failures = 0 := fun none => by
      rw [none, Nat.zero_mul]
    have beyond : ¬ failures ≤ 16 := few
    have law : doubled = min (base.nanos * 2 ^ failures) longest.nanos := rfl
    rw [stopped, law]
    omega

theorem doubling_stops_short :
    let base := Duration.ofMillis 1
    let longest := Duration.ofSecs 600
    let delay := (exponential base longest 0 18).nanos
    delay = 65536 * 10 ^ 6 ∧ delay ≠ min (base.nanos * 2 ^ 17) longest.nanos := by
  decide

end ServiceDiscovery.Backoff
