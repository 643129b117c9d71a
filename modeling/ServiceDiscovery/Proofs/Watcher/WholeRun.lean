import ServiceDiscovery.Proofs.Watcher.Reached

namespace ServiceDiscovery.Watcher

open Timeline

theorem scripted_after (script : List (Nat × Except Failure HealthResponse)) :
    scripted (script.map fun (delay, outcome) => .after delay outcome) = script.map Prod.snd := by
  induction script with
  | nil => rfl
  | cons first rest ih => exact congrArg (first.2 :: ·) ih

theorem exhausted_outcomes (answers : List Answer) (history : List Event) (t : Timeline)
    (staged : Staged answers history t) (unbroken : t.run.phase ≠ .broken)
    (exhausted : t.Exhausted) : scripted answers = outcomes history := by
  obtain ⟨empty, unanswered⟩ := exhausted
  have nothing : t.coming = [] := by
    unfold coming
    split
    · rename_i due
      exact absurd due (unanswered _ _)
    · rfl
    · rw [empty]
      rfl
  rw [staged.script unbroken, nothing, List.append_nil]

theorem query_settled (watcher : Watcher) (responses : List HealthResponse) :
    watcher.query (settled watcher.config responses) =
      { service := watcher.target.service
        tag := if watcher.config.filterByServiceTag then some watcher.target.service else none
        passingOnly := watcher.config.passingOnly
        waitIndex := highest responses } := by
  rw [query, settled_eq]

/-- Whatever the delays and however the pushes end, the run gets to the end of its script; and
whenever it is cancelled from then on, it has asked, pushed and kept what the outcomes alone say. -/
theorem run_of_script (watcher : Watcher) (script : List (Nat × Except Failure HealthResponse))
    (ended : List (Nat × Except Failure Unit)) :
    let answers := script.map fun (delay, outcome) => Answer.after delay outcome
    let sink := ended.map fun (delay, result) => SinkEnd.after delay result
    let outcomes := script.map Prod.snd
    (∃ history t, Reached watcher answers sink history t ∧ t.Exhausted) ∧
    ∀ history t, Reached watcher answers sink history t → t.Exhausted →
      let last := t.cancel watcher
      let queries := asked last.actions
      (queries.length = outcomes.length ∨ queries.length = outcomes.length + 1) ∧
      (∀ (k : Nat) (query : HealthQuery), queries[k]? = some query →
        query = {
          service := watcher.target.service
          tag := if watcher.config.filterByServiceTag then some watcher.target.service else none
          passingOnly := watcher.config.passingOnly
          waitIndex := highest (responses (outcomes.take k)) }) ∧
      pushed last.actions = (responses outcomes).map (fun response =>
        WatchState.accepted watcher.config response.entries) ∧
      last.run.phase = .stopped ∧
      last.run.state =
        ⟨highest (responses outcomes), latest watcher.config (responses outcomes)⟩ := by
  intro answers sink script_outcomes
  have reliable : ∀ delay, .breaks delay ∉ answers := by simp [answers]
  have unbreakable : .breaks ∉ sink := by simp [sink]
  have answered : .never ∉ answers := by simp [answers]
  have unblocked : .never ∉ sink := by simp [sink]
  refine ⟨exhausted_reached reliable unbreakable answered unblocked .start, ?_⟩
  intro history t reached exhausted last queries
  have unbroken := (reached_sound reliable unbreakable reached).phase
  have heard : outcomes history = script_outcomes :=
    (exhausted_outcomes answers history t (reached_staged reached) unbroken exhausted).symm.trans
      (scripted_after script)
  have working := And.intro (reached_unstopped reached) unbroken
  have booked : Ledger watcher _ _ _ _ _ _ :=
    cancel_booked watcher history t working (reached_booked reached)
  rw [outcomes_append, heard] at booked
  simp only [Event.outcome?, Option.toList_none, List.append_nil] at booked
  refine ⟨(owed_bounds _ _ _ _ _ booked.owed).1, ?_, booked.shown, ?_, ?_⟩
  · intro k query found
    rw [booked.inTurn k query found]
    exact query_settled watcher _
  · exact congrArg Run.phase (cancel_working watcher t working).1
  · exact booked.settles.trans (settled_eq watcher.config _)

-- An index falls back after a failure: the watermark stays, the addresses go.
theorem run_of_falling_index :
    let watcher : Watcher :=
      ⟨⟨"localhost", 8500, "svc", by decide, by decide⟩, .default, Backoff.fixed .zero⟩
    let entry : ServiceEntry := ⟨"svc-1", "svc", "10.0.0.1", "", 9000, ["svc"], .passing⟩
    let script : List (Nat × Except Failure HealthResponse) :=
      [(4, .ok ⟨[entry], 5⟩), (0, .error (.internal "refused")), (2, .ok ⟨[], 3⟩)]
    let ended : List (Nat × Except Failure Unit) := [(7, .error (.internal "rejected"))]
    ∃ history t,
      Reached watcher (script.map fun (delay, outcome) => .after delay outcome)
        (ended.map fun (delay, result) => .after delay result) history t ∧
      t.Exhausted ∧
      (∀ query : HealthQuery, (asked (t.cancel watcher).actions)[2]? = some query →
        query = ⟨"svc", some "svc", true, 5⟩) ∧
      pushed (t.cancel watcher).actions = [.ofList [⟨"10.0.0.1", 9000⟩], .empty] ∧
      (t.cancel watcher).run.state = ⟨5, .empty⟩ := by
  intro watcher entry script ended
  obtain ⟨⟨history, t, reached, exhausted⟩, law⟩ := run_of_script watcher script ended
  obtain ⟨_, queries, pushes, _, state⟩ := law history t reached exhausted
  exact ⟨history, t, reached, exhausted, queries 2, pushes, state⟩

end ServiceDiscovery.Watcher
