import ServiceDiscovery.Proofs.Watcher.Reached

namespace ServiceDiscovery.Watcher

open Timeline

theorem step_stopped (watcher : Watcher) (run : Run) (event : Event)
    (stopped : run.phase = .stopped) : run.step watcher event = (run, []) := by
  cases event with
  | answered outcome => cases outcome <;> simp [Run.step, stopped]
  | started | pushed _ | woke | cancelled | broke => simp [Run.step, stopped]

theorem take_stopped (watcher : Watcher) (t : Timeline) (event : Event)
    (stopped : t.run.phase = .stopped) : t.take watcher event = { t with due := none } := by
  simp only [take, step_stopped watcher t.run event stopped, List.foldl_nil]

theorem late_events (watcher : Watcher) (late : List Event) (t : Timeline)
    (stopped : t.run.phase = .stopped) :
    (late.foldl (take watcher) t).run = t.run ∧ (late.foldl (take watcher) t).trace = t.trace := by
  induction late generalizing t with
  | nil => exact ⟨rfl, rfl⟩
  | cons event rest ih =>
      rw [List.foldl_cons, take_stopped watcher t event stopped]
      exact ih { t with due := none } stopped

theorem asked_of_logs (a b : List Action) (logs : List Log.Event) (same : b = a ++ logs.map .log) :
    asked b = asked a ∧ pushed b = pushed a := by
  subst same
  exact ⟨by simp, by simp⟩

/-- Whatever was in flight when the loop was cancelled, and whatever comes of it afterwards, also
at that very instant, is left. -/
theorem cancelled_at_any_moment (watcher : Watcher) (answers : List Answer) (sink : List SinkEnd)
    (history : List Event) (t : Timeline) (unbroken : t.run.phase ≠ .broken)
    (reached : Reached watcher answers sink history t) :
    let last := t.cancel watcher
    let received := responses (outcomes history)
    (∃ logs : List Log.Event, last.trace = t.trace ++ logs.map fun log => (t.now, .log log)) ∧
    (∀ late : List Event, (late.foldl (take watcher) last).run = last.run ∧
      (late.foldl (take watcher) last).trace = last.trace) ∧
    outcomes history <+: scripted answers ∧
    last.run.phase = .stopped ∧
    last.run.state = received.foldl (WatchState.apply watcher.config) .initial ∧
    pushed last.actions = received.map (fun response =>
      WatchState.accepted watcher.config response.entries) ∧
    ((pushed last.actions).length = (ends history).length ∨
      t.run.phase = .pushing ∧ (pushed last.actions).length = (ends history).length + 1) ∧
    (history = [] → asked last.actions = [] ∧ last.run.state = ⟨0, .empty⟩) := by
  intro last received
  have working := And.intro (reached_unstopped reached) unbroken
  obtain ⟨stopped, logs, trace⟩ := cancel_working watcher t working
  have booked : Ledger watcher _ _ _ _ _ _ := reached_booked reached
  -- the cancellation itself only logs
  have quiet : asked last.actions = asked t.actions ∧ pushed last.actions = pushed t.actions :=
    asked_of_logs _ _ logs (by simp [actions, last, trace, Function.comp_def])
  refine ⟨⟨logs, trace⟩, ?_, ?_, ?_, ?_, ?_, ?_, ?_⟩
  · intro late
    exact late_events watcher late last (by rw [stopped])
  · exact (reached_staged reached).told
  · exact congrArg Run.phase stopped
  · exact (congrArg Run.state stopped).trans booked.settles
  · exact quiet.2.trans booked.shown
  · rw [quiet.2]
    have owed := booked.owed
    cases phase : t.run.phase <;> rw [phase] at owed
    case pushing => exact .inr ⟨rfl, owed.2⟩
    case stopped => exact absurd phase working.1
    case broken => exact absurd phase unbroken
    all_goals exact .inl owed.2
  · intro unstarted
    obtain ⟨run, empty⟩ := reached_unstarted reached unstarted
    refine ⟨?_, ?_⟩
    · rw [quiet.1, actions, empty]
      rfl
    · rw [congrArg Run.state stopped, run]
      rfl

-- The second answer is there at the very instant of the cancellation, and is too late.
theorem cancelled_as_answer_comes :
    let watcher : Watcher :=
      ⟨⟨"localhost", 8500, "svc", by decide, by decide⟩, .default, Backoff.fixed .zero⟩
    let entry : ServiceEntry := ⟨"svc-1", "svc", "10.0.0.1", "", 9000, ["svc"], .passing⟩
    let tooLate : Event := .answered (.ok ⟨[], 9⟩)
    let answers : List Answer := [.after 2 (.ok ⟨[entry], 5⟩), .after 3 (.ok ⟨[], 9⟩)]
    let sink : List SinkEnd := [.after 4 (.error (.internal "rejected")), .never]
    ∃ history t, t.run.phase ≠ .broken ∧ Reached watcher answers sink history t ∧
      t.due = some (t.now, tooLate) ∧
      (t.cancel watcher).run.state = ⟨5, .ofList [⟨"10.0.0.1", 9000⟩]⟩ ∧
      pushed (t.cancel watcher).actions = [.ofList [⟨"10.0.0.1", 9000⟩]] ∧
      ((t.cancel watcher).take watcher tooLate).run = (t.cancel watcher).run := by
  intro watcher entry tooLate answers sink
  have started : Reached watcher answers sink _ _ := Reached.start.taken rfl
  have answered := reached_next 2 (.answered (.ok ⟨[entry], 5⟩)) started rfl
  have ended := reached_next 6 (.pushed (.error (.internal "rejected"))) answered rfl
  have there := ended.passed 9 (by decide) (by
    intro time event due
    cases due
    exact Nat.le_refl _)
  have unbroken : Phase.querying ≠ .broken := by decide
  obtain ⟨_, late, _, _, state, pushes, _⟩ :=
    cancelled_at_any_moment watcher answers sink _ _ unbroken there
  exact ⟨_, _, unbroken, there, rfl, state, pushes, (late [tooLate]).1⟩

end ServiceDiscovery.Watcher
