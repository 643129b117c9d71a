import ServiceDiscovery.Backoff
import ServiceDiscovery.Config

namespace ServiceDiscovery.Backoff

-- The product is cut off where no span is longer. The longest delay is such a span, so the cut
-- never shows.
theorem nanos_capped (base longest : Duration) (attempt : Nat) :
    (capped base longest attempt).nanos =
      min (base.nanos * 2 ^ min (attempt - 1) maxDoublings) longest.nanos := by
  have bounded : longest.nanos ≤ Duration.longest.nanos := Nat.le_pred_of_lt longest.bounded
  rw [capped, Duration.nanos_shorter, Duration.nanos_scale]
  omega

theorem nanos_capped_mono (base longest : Duration) (attempt later : Nat)
    (forward : attempt ≤ later) :
    (capped base longest attempt).nanos ≤ (capped base longest later).nanos := by
  have doublings : min (attempt - 1) maxDoublings ≤ min (later - 1) maxDoublings := by omega
  have factors := Nat.mul_le_mul_left base.nanos (Nat.pow_le_pow_right Nat.two_pos doublings)
  rw [nanos_capped, nanos_capped]
  omega

theorem millis_whole (delay : Duration) (ms : Nat) (whole : delay.nanos = ms * 10 ^ 6) :
    delay.millis = ms := by
  rw [Duration.millis, whole]
  exact Nat.mul_div_cancel ms (by decide)

def plain (watch : WatchConfig) (attempt : Nat) : Duration :=
  exponential watch.backoffBase watch.backoffMax 0 attempt

theorem nanos_plain (watch : WatchConfig) (attempt : Nat) :
    (plain watch attempt).nanos =
      min (watch.backoffBaseMs.toNat * 2 ^ min (attempt - 1) maxDoublings)
        watch.backoffMaxMs.toNat * 10 ^ 6 := by
  have base : watch.backoffBase.nanos = watch.backoffBaseMs.toNat * 10 ^ 6 := rfl
  have longest : watch.backoffMax.nanos = watch.backoffMaxMs.toNat * 10 ^ 6 := rfl
  rw [plain, exponential, nanos_capped, base, longest, Nat.mul_right_comm]
  omega

theorem millis_plain (watch : WatchConfig) (attempt : Nat) :
    (plain watch attempt).millis =
      min (watch.backoffBaseMs.toNat * 2 ^ min (attempt - 1) maxDoublings)
        watch.backoffMaxMs.toNat :=
  millis_whole _ _ (nanos_plain watch attempt)

section

variable {delay : Duration} {ms : Nat}

theorem choices_whole (whole : delay.nanos = ms * 10 ^ 6) (fits : ms < 2 ^ 64) :
    choices delay = if ms / 2 = 0 then 0 else ms - ms / 2 + 1 := by
  rw [choices, millis_whole delay ms whole, Nat.mod_eq_of_lt fits]

theorem jittered_short (draw : Nat) (whole : delay.nanos = ms * 10 ^ 6) (short : ms < 2) :
    jittered delay draw = delay := by
  have fits : ms % 2 ^ 64 / 2 = 0 := by omega
  simp only [jittered, millis_whole delay ms whole, if_pos fits]

theorem nanos_jittered (draw : Nat) (whole : delay.nanos = ms * 10 ^ 6) (fits : ms < 2 ^ 64)
    (long : 2 ≤ ms) :
    (jittered delay draw).nanos = (ms / 2 + draw % (ms - ms / 2 + 1)) * 10 ^ 6 := by
  have halved : ms / 2 ≠ 0 := by omega
  have drawn : draw % (ms - ms / 2 + 1) < ms - ms / 2 + 1 := Nat.mod_lt _ (Nat.succ_pos _)
  have sum : ms / 2 + draw % (ms - ms / 2 + 1) < 2 ^ 64 := by omega
  simp only [jittered, choices_whole whole fits, millis_whole delay ms whole,
    Nat.mod_eq_of_lt fits, if_neg halved, Duration.ofMillis, UInt64.toNat_ofNat_of_lt' sum]

theorem jittered_bounds (draw : Nat) (whole : delay.nanos = ms * 10 ^ 6) (fits : ms < 2 ^ 64)
    (positive : 1 ≤ ms) :
    ∃ spread, (jittered delay draw).nanos = spread * 10 ^ 6 ∧ max 1 (ms / 2) ≤ spread ∧
      spread ≤ ms := by
  by_cases long : 2 ≤ ms
  · refine ⟨_, nanos_jittered draw whole fits long, ?_⟩
    have drawn : draw % (ms - ms / 2 + 1) < ms - ms / 2 + 1 := Nat.mod_lt _ (Nat.succ_pos _)
    omega
  · rw [jittered_short draw whole (Nat.lt_of_not_le long)]
    exact ⟨ms, whole, by omega, Nat.le_refl ms⟩

theorem jittered_reaches (spread : Nat) (whole : delay.nanos = ms * 10 ^ 6) (fits : ms < 2 ^ 64)
    (long : 2 ≤ ms) (least : ms / 2 ≤ spread) (most : spread ≤ ms) :
    spread - ms / 2 < choices delay ∧
      (jittered delay (spread - ms / 2)).nanos = spread * 10 ^ 6 := by
  have inside : spread - ms / 2 < ms - ms / 2 + 1 := by omega
  refine ⟨?_, ?_⟩
  · rw [choices_whole whole fits, if_neg (by omega)]
    exact inside
  · rw [nanos_jittered _ whole fits long, Nat.mod_eq_of_lt inside, Nat.add_sub_cancel' least]

end

/-- Whatever configuration is accepted, whatever the length of the streak and the draws: a delay
is at least one millisecond and half of what it is without spreading, and at most all of it; and
every whole millisecond in between can be drawn. -/
theorem delays_of_accepted_config (text : String) (config : Config)
    (accepted : Config.ofToml text = .ok config) :
    let watch := config.watch
    ∀ attempt,
      let cap := (plain watch attempt).millis
      let factor := 2 ^ min (attempt - 1) 16
      -- the bounds, and how the delay grows with the streak
      (plain watch attempt).nanos = cap * 10 ^ 6 ∧
      cap = min (watch.backoffBaseMs.toNat * factor) watch.backoffMaxMs.toNat ∧
      watch.backoffBaseMs.toNat ≤ cap ∧ cap ≤ watch.backoffMaxMs.toNat ∧
      (∀ later, attempt ≤ later → cap ≤ (plain watch later).millis) ∧
      -- the delay that is spread
      (∀ draws consulted, ∃ ms,
        (spread watch.backoffBase watch.backoffMax draws consulted attempt).nanos = ms * 10 ^ 6 ∧
          max 1 (cap / 2) ≤ ms ∧ ms ≤ cap) ∧
      (2 ≤ cap → ∀ ms, cap / 2 ≤ ms → ms ≤ cap →
        ∃ draw < choices (plain watch attempt), ∀ draws consulted, draws consulted = draw →
          (spread watch.backoffBase watch.backoffMax draws consulted attempt).nanos =
            ms * 10 ^ 6) ∧
      -- the numbers on the way fit
      factor < 2 ^ 32 ∧ cap < 2 ^ 64 ∧
      (2 ≤ cap → choices (plain watch attempt) = cap - cap / 2 + 1 ∧
        choices (plain watch attempt) < 2 ^ 64 ∧
        ∀ draw < choices (plain watch attempt), cap / 2 + draw < 2 ^ 64) := by
  intro watch attempt cap factor
  obtain ⟨_, _, backoff⟩ :=
    (Config.validate_ok_iff config).1 ((Config.ofToml_ok_iff text config).1 accepted).2
  obtain ⟨positive, ordered⟩ := not_or.1 backoff
  have base : 1 ≤ watch.backoffBaseMs.toNat :=
    Nat.pos_of_ne_zero fun none => positive (UInt64.toNat_inj.1 none)
  have longest : watch.backoffBaseMs.toNat ≤ watch.backoffMaxMs.toNat := Nat.le_of_not_lt ordered
  have law : cap = _ := millis_plain watch attempt
  have whole : (plain watch attempt).nanos = cap * 10 ^ 6 := by
    rw [law, nanos_plain]
  have most : cap ≤ watch.backoffMaxMs.toNat := law ▸ Nat.min_le_right _ _
  have fits : cap < 2 ^ 64 := Nat.lt_of_le_of_lt most watch.backoffMaxMs.toNat_lt
  have doubled : 1 ≤ factor := Nat.two_pow_pos _
  have least : watch.backoffBaseMs.toNat ≤ cap := by
    rw [law]
    exact Nat.le_min.2 ⟨Nat.le_mul_of_pos_right _ doubled, longest⟩
  refine ⟨whole, law, least, most, ?_, ?_, ?_, ?_, fits, ?_⟩
  · intro later forward
    exact Nat.div_le_div_right (nanos_capped_mono _ _ attempt later forward)
  · intro draws consulted
    exact jittered_bounds (draws consulted) whole fits (Nat.le_trans base least)
  · intro long ms half full
    obtain ⟨inside, reached⟩ := jittered_reaches ms whole fits long half full
    refine ⟨_, inside, fun draws consulted drawn => ?_⟩
    rw [← drawn] at reached
    exact reached
  · exact Nat.pow_lt_pow_right (by decide) (Nat.lt_of_le_of_lt (Nat.min_le_right _ _) (by decide))
  · intro long
    have counted : choices (plain watch attempt) = cap - cap / 2 + 1 := by
      rw [choices_whole whole fits, if_neg (by omega)]
    rw [counted]
    refine ⟨rfl, ?_, ?_⟩ <;> omega

theorem delays_of_short_config :
    let text := "[watch]\nbackoff_base_ms = 3\nbackoff_max_ms = 7\n"
    ∃ config, Config.ofToml text = .ok config ∧
      (plain config.watch 3).millis = 7 ∧
      (∃ draw, (spread config.watch.backoffBase config.watch.backoffMax (fun _ => draw) 0 3).nanos =
        3 * 10 ^ 6) ∧
      ∃ draw, (spread config.watch.backoffBase config.watch.backoffMax (fun _ => draw) 0 3).nanos =
        7 * 10 ^ 6 := by
  intro text
  obtain ⟨config, watch, accepted⟩ :
      ∃ config, config.watch = ⟨true, true, 3, 7, 10000⟩ ∧ Config.ofToml text = .ok config := by
    refine ⟨{ Config.default with watch := ⟨true, true, 3, 7, 10000⟩ }, rfl, ?_⟩
    rw [Config.ofToml_ok_iff, Config.validate_ok_iff]
    exact ⟨by decide +kernel, by decide⟩
  obtain ⟨_, cap, _, _, _, _, reached, _⟩ := delays_of_accepted_config text config accepted 3
  have seven : (plain config.watch 3).millis = 7 := by
    rw [cap, watch]
    rfl
  rw [seven] at reached
  obtain ⟨least, _, short⟩ := reached (by decide) 3 (by decide) (by decide)
  obtain ⟨most, _, long⟩ := reached (by decide) 7 (by decide) (by decide)
  exact ⟨config, accepted, seven, ⟨least, short _ 0 rfl⟩, most, long _ 0 rfl⟩

end ServiceDiscovery.Backoff
