import ServiceDiscovery.Proofs.Watcher.Timeline

namespace ServiceDiscovery.Watcher

-- Something due may still be to come when its time is there, so another event, a cancellation for
-- one, can be taken before it.
inductive Reached (watcher : Watcher) (answers : List Answer) (sink : List SinkEnd) :
    List Event → Timeline → Prop where
  | start : Reached watcher answers sink [] (.start answers sink)
  | passed {history : List Event} {t : Timeline} (now : Nat)
      (before : Reached watcher answers sink history t) (forward : t.now ≤ now)
      (undue : ∀ time event, t.due = some (time, event) → now ≤ time) :
      Reached watcher answers sink history { t with now }
  | taken {history : List Event} {t : Timeline} {event : Event}
      (before : Reached watcher answers sink history t) (due : t.due = some (t.now, event)) :
      Reached watcher answers sink (history ++ [event]) (t.take watcher event)

open Timeline

variable {watcher : Watcher} {answers : List Answer} {sink : List SinkEnd} {history : List Event}
  {t : Timeline}

theorem reached_staged (reached : Reached watcher answers sink history t) :
    Staged answers history t := by
  induction reached with
  | start =>
      refine staged_of_script answers [] _ (fun time event due => ?_) rfl
      cases due
      exact ⟨Nat.le_refl _, List.mem_cons_self⟩
  | passed now before forward undue ih =>
      exact ⟨fun time event due => ⟨undue time event due, (ih.brings time event due).2⟩, ih.told,
        ih.script⟩
  | taken before due ih => exact staged_take watcher answers _ _ _ ih due

theorem reached_unstarted (reached : Reached watcher answers sink history t)
    (unstarted : history = []) : t.run = .initial ∧ t.trace = [] := by
  induction reached with
  | start => exact ⟨rfl, rfl⟩
  | passed now before forward undue ih => exact ih unstarted
  | taken before due ih => exact absurd unstarted (List.append_ne_nil_of_right_ne_nil _ (by simp))

theorem reached_booked (reached : Reached watcher answers sink history t) :
    Booked watcher history t.run t.actions := by
  induction reached with
  | start => exact booked_initial watcher
  | passed now before forward undue ih => exact ih
  | @taken history t event before due ih =>
      have brings := ((reached_staged before).brings t.now event due).2
      rw [run_take, actions_take]
      exact booked_step watcher history t.run t.actions event ih (awaited_of_phase _ _ brings)

theorem reached_unstopped (reached : Reached watcher answers sink history t) :
    t.run.phase ≠ .stopped := by
  induction reached with
  | start => exact (by decide : Phase.ready ≠ .stopped)
  | passed now before forward undue ih => exact ih
  | @taken history t event before due ih =>
      rcases take_cases watcher t event ((reached_staged before).brings t.now event due).2 with
        ⟨u, q, same, handed⟩ | ⟨u, snapshot, same, handed⟩ | ⟨u, attempt, delay, same, handed⟩ |
        ⟨_, same⟩
      · rw [same, run_perform, handed.phase]
        decide
      · rw [same, run_perform, handed.phase]
        decide
      · rw [same, run_perform, handed.phase]
        decide
      · rw [same]
        exact (by decide : Phase.broken ≠ .stopped)

theorem reached_sound (reliable : ∀ delay, .breaks delay ∉ answers) (unbreakable : .breaks ∉ sink)
    (reached : Reached watcher answers sink history t) : Sound t := by
  induction reached with
  | start => exact ⟨reliable, unbreakable, fun time => nofun, nofun⟩
  | passed now before forward undue ih => exact ⟨ih.answers, ih.sink, ih.due, ih.phase⟩
  | @taken history t event before due ih =>
      exact sound_take watcher t event ih due ((reached_staged before).brings t.now event due).2

theorem reached_prompt (reliable : ∀ delay, .breaks delay ∉ answers) (unbreakable : .breaks ∉ sink)
    (answered : .never ∉ answers) (unblocked : .never ∉ sink)
    (reached : Reached watcher answers sink history t) : Prompt t := by
  induction reached with
  | start => exact ⟨answered, unblocked, nofun⟩
  | passed now before forward undue ih => exact ⟨ih.answers, ih.sink, ih.idle⟩
  | @taken history t event before due ih =>
      exact prompt_take watcher t event ih (reached_sound reliable unbreakable before) due
        ((reached_staged before).brings t.now event due).2

-- At most one event is due, so the clock may go up to its time.
theorem undue_before (t : Timeline) (time limit : Nat) (event : Event)
    (due : t.due = some (time, event)) (early : limit ≤ time) :
    ∀ other next, t.due = some (other, next) → limit ≤ other := by
  intro other next same
  rw [due] at same
  cases same
  exact early

theorem reached_next (time : Nat) (event : Event) (reached : Reached watcher answers sink history t)
    (due : t.due = some (time, event)) :
    Reached watcher answers sink (history ++ [event])
      (take watcher { t with now := time } event) := by
  have there := reached.passed time ((reached_staged reached).brings time event due).1
    (undue_before t time time event due (Nat.le_refl _))
  exact there.taken due

-- By the weight of a timeline: whatever is taken makes it smaller.
theorem exhausted_reached {history : List Event} {t : Timeline}
    (reliable : ∀ delay, .breaks delay ∉ answers) (unbreakable : .breaks ∉ sink)
    (answered : .never ∉ answers) (unblocked : .never ∉ sink)
    (reached : Reached watcher answers sink history t) :
    ∃ later last, Reached watcher answers sink later last ∧ last.Exhausted := by
  cases due : t.due with
  | none =>
      -- nothing is due, so the script must be used up
      have prompt := reached_prompt reliable unbreakable answered unblocked reached
      refine ⟨history, t, reached, prompt.idle due, fun time outcome same => ?_⟩
      rw [due] at same
      cases same
  | some next =>
      obtain ⟨time, event⟩ := next
      have smaller := weight_take_lt watcher t time time event due
      exact exhausted_reached reliable unbreakable answered unblocked
        (reached_next time event reached due)
termination_by t.weight

theorem advance_reached {history : List Event} {t : Timeline} (untilDrained : Bool) (limit : Nat)
    (reached : Reached watcher answers sink history t) (ahead : t.now ≤ limit) :
    ∃ later, Reached watcher answers sink later (advance watcher untilDrained limit t) := by
  rw [advance]
  split
  · exact ⟨history, reached⟩
  · split
    · rename_i time event due
      split
      · rename_i inTime
        have smaller := weight_take_lt watcher t time time event due
        refine advance_reached untilDrained limit (reached_next time event reached due) ?_
        rw [now_take]
        exact inTime
      · rename_i late
        exact ⟨history, reached.passed limit ahead
          (undue_before t time limit event due (Nat.le_of_not_le late))⟩
    · rename_i undue
      refine ⟨history, reached.passed limit ahead fun other next same => ?_⟩
      rw [undue] at same
      cases same
termination_by t.weight

theorem step_cancelled (watcher : Watcher) (run : Run)
    (working : run.phase ≠ .stopped ∧ run.phase ≠ .broken) :
    ∃ logs : List Log.Event,
      run.step watcher .cancelled = ({ run with phase := .stopped }, logs.map .log) := by
  obtain ⟨unstopped, unbroken⟩ := working
  simp only [Run.step, Run.stop]
  cases phase : run.phase with
  | ready => exact ⟨[Run.startLog watcher, Run.stopLog watcher run.state], rfl⟩
  | querying | pushing | waiting => exact ⟨[Run.stopLog watcher run.state], rfl⟩
  | stopped => exact absurd phase unstopped
  | broken => exact absurd phase unbroken

theorem cancel_working (watcher : Watcher) (t : Timeline)
    (working : t.run.phase ≠ .stopped ∧ t.run.phase ≠ .broken) :
    (t.cancel watcher).run = { t.run with phase := .stopped } ∧
      ∃ logs : List Log.Event, (t.cancel watcher).trace =
        t.trace ++ logs.map fun log => (t.now, .log log) := by
  obtain ⟨logs, step⟩ := step_cancelled watcher t.run working
  refine ⟨by rw [cancel, run_take, step], logs, ?_⟩
  rw [cancel, trace_take, step, List.map_map]
  rfl

theorem cancel_booked (watcher : Watcher) (history : List Event) (t : Timeline)
    (working : t.run.phase ≠ .stopped ∧ t.run.phase ≠ .broken)
    (booked : Booked watcher history t.run t.actions) :
    Booked watcher (history ++ [.cancelled]) (t.cancel watcher).run (t.cancel watcher).actions := by
  rw [cancel, run_take, actions_take]
  exact booked_step watcher history t.run t.actions .cancelled booked working

end ServiceDiscovery.Watcher
