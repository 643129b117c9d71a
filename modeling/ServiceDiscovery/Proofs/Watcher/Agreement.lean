import ServiceDiscovery.Proofs.Watcher.Polls
import ServiceDiscovery.Proofs.Watcher.WholeRun

namespace ServiceDiscovery.Watcher

open Timeline

inductive Deed where
  | query (asked : HealthQuery)
  | push (snapshot : AddressSet)
  | consult
deriving DecidableEq

def Action.deed? : Action → Option Deed
  | .query asked => some (.query asked)
  | .push snapshot => some (.push snapshot)
  | .wait _ _ => some .consult
  | .log _ => none

def deeds (actions : List Action) : List Deed := actions.filterMap Action.deed?

-- A poll that fails leaves it to its caller to consult a policy.
def PollStep.deeds (step : PollStep) : List Deed :=
  .query step.query :: (step.poll.pushed.map Deed.push).toList ++
    match step.poll.result with
    | some (.error _) => [.consult]
    | some (.ok ()) | none => []

@[simp] theorem deeds_append (a b : List Action) : deeds (a ++ b) = deeds a ++ deeds b :=
  List.filterMap_append

@[simp] theorem deeds_cons (action : Action) (rest : List Action) :
    deeds (action :: rest) = action.deed?.toList ++ deeds rest := by
  cases action <;> rfl

@[simp] theorem deeds_nil : deeds [] = [] := rfl

@[simp] theorem deeds_logs (logs : List Log.Event) : deeds (logs.map .log) = [] := by
  simp [deeds, Action.deed?]

def turn (watcher : Watcher) (state : WatchState) : Except Failure HealthResponse → List Deed
  | .ok response =>
    [.query (watcher.query state),
      .push (WatchState.accepted watcher.config response.entries)]
  | .error _ => [.query (watcher.query state), .consult]

def turns (watcher : Watcher) : WatchState → List (Except Failure HealthResponse) → List Deed
  | _, [] => []
  | state, outcome :: rest =>
    watcher.turn state outcome ++
      watcher.turns ((responses [outcome]).foldl (WatchState.apply watcher.config) state) rest

theorem responses_cons (outcome : Except Failure HealthResponse)
    (rest : List (Except Failure HealthResponse)) :
    responses (outcome :: rest) = responses [outcome] ++ responses rest := by
  rw [responses, responses, responses, ← List.filterMap_append, List.singleton_append]

theorem turns_append (watcher : Watcher) (state : WatchState)
    (outcomes : List (Except Failure HealthResponse)) (outcome : Except Failure HealthResponse) :
    watcher.turns state (outcomes ++ [outcome]) =
      watcher.turns state outcomes ++
        watcher.turn ((responses outcomes).foldl (WatchState.apply watcher.config) state)
          outcome := by
  induction outcomes generalizing state with
  | nil => exact List.append_nil _
  | cons first rest ih =>
      rw [List.cons_append, turns, turns, ih, List.append_assoc, responses_cons first rest,
        List.foldl_append]

-- A loop that waits for an answer has asked for one outcome more than it knows.
def pending (watcher : Watcher) (run : Run) : List Deed :=
  if run.phase = .querying then [.query (watcher.query run.state)] else []

structure Told (watcher : Watcher) (history : List Event) (run : Run) (actions : List Action) :
    Prop where
  told : deeds actions = watcher.turns .initial (outcomes history) ++ watcher.pending run
  consulted : run.consulted = (deeds actions).count .consult

theorem told_step (watcher : Watcher) (history : List Event) (run : Run) (actions : List Action)
    (event : Event) (told : Told watcher history run actions)
    (settles : run.state = settled watcher.config (responses (outcomes history)))
    (brings : run.phase ∈ event.phases) (whole : event ≠ .broke) :
    Told watcher (history ++ [event]) (run.step watcher event).1
      (actions ++ (run.step watcher event).2) := by
  obtain ⟨told, consulted⟩ := told
  cases event with
  | started =>
      have ready : run.phase = .ready := List.mem_singleton.1 brings
      refine ⟨?_, ?_⟩
      · simp [Run.step, Run.ask, ready, told, pending, Event.outcome?, Action.deed?, Watcher.query]
      · simp [Run.step, Run.ask, ready, consulted, Action.deed?]
  | answered outcome =>
      have querying : run.phase = .querying := List.mem_singleton.1 brings
      cases outcome with
      | ok response =>
          refine ⟨?_, ?_⟩
          · simp [Run.step, querying, told, pending, Event.outcome?, Action.deed?, turns_append,
              turn, settles, settled, WatchState.apply]
          · simp [Run.step, querying, consulted, Action.deed?]
      | error failure =>
          refine ⟨?_, ?_⟩
          · simp [Run.step, querying, told, pending, Event.outcome?, Action.deed?, turns_append,
              turn, settles, settled]
          · simp [Run.step, querying, consulted, Action.deed?]
  | pushed result =>
      have pushing : run.phase = .pushing := List.mem_singleton.1 brings
      refine ⟨?_, ?_⟩
      · simp [Run.step, Run.ask, pushing, told, pending, Event.outcome?, Action.deed?]
      · simp [Run.step, Run.ask, pushing, consulted, Action.deed?]
  | woke =>
      have waiting : run.phase = .waiting := List.mem_singleton.1 brings
      refine ⟨?_, ?_⟩
      · simp [Run.step, Run.ask, waiting, told, pending, Event.outcome?, Action.deed?]
      · simp [Run.step, Run.ask, waiting, consulted, Action.deed?]
  | cancelled => cases brings
  | broke => exact absurd rfl whole

theorem deeds_polled (watcher : Watcher) (state : WatchState) (delay : Nat)
    (outcome : Except Failure HealthResponse) (step : PollStep)
    (polled : Polled watcher state (.after delay outcome) step) :
    step.deeds = watcher.turn state outcome := by
  obtain ⟨asks, _, pushes, fails⟩ := polled
  rw [PollStep.deeds, asks, pushes]
  cases outcome with
  | ok response =>
      have fine : ∀ failure, step.poll.result ≠ some (.error failure) := by
        intro failure failed
        obtain ⟨_, same⟩ := (fails failure).1 failed
        cases same
      split
      · rename_i failure failed
        exact absurd failed (fine failure)
      all_goals rfl
  | error failure =>
      rw [(fails failure).2 ⟨delay, rfl⟩]
      rfl

theorem polls_turns (watcher : Watcher) (patience now : Nat) (state : WatchState)
    (script : List (Nat × Except Failure HealthResponse)) (sink : List SinkEnd) :
    (watcher.pollsAt patience now state (script.map fun (delay, outcome) => .after delay outcome)
        sink).flatMap PollStep.deeds = watcher.turns state (script.map Prod.snd) := by
  induction script generalizing now state sink with
  | nil => rfl
  | cons first rest ih =>
      obtain ⟨delay, outcome⟩ := first
      have polled := polled_poll_at watcher patience now state (.after delay outcome) sink
      have came : (Answer.after delay outcome).response?.toList = responses [outcome] := by
        cases outcome <;> rfl
      rw [List.map_cons, pollsAt, List.flatMap_cons,
        deeds_polled watcher state delay outcome _ polled,
        ih, polled.leaves, came]
      rfl

theorem results_of_polls (watcher : Watcher) (patience now : Nat) (state : WatchState)
    (script : List (Nat × Except Failure HealthResponse))
    (ended : List (Nat × Except Failure Unit)) :
    (watcher.pollsAt patience now state (script.map fun (delay, outcome) => .after delay outcome)
        (ended.map fun (delay, result) => .after delay result)).map (fun step => step.poll.result) =
      script.map fun (_, outcome) => some (outcome.map fun _ => ()) := by
  induction script generalizing now state ended with
  | nil => rfl
  | cons first rest ih =>
      obtain ⟨delay, outcome⟩ := first
      cases outcome with
      | error failure => exact congrArg (_ :: ·) (ih _ _ ended)
      | ok response =>
          cases ended with
          | nil => exact congrArg (_ :: ·) (ih _ _ [])
          | cons _ later => exact congrArg (_ :: ·) (ih _ _ later)

theorem arrived_scripted (script : List (Nat × Except Failure HealthResponse)) :
    arrived (script.map fun (delay, outcome) => .after delay outcome) =
      responses (script.map Prod.snd) := by
  rw [arrived, responses, List.filterMap_map, List.filterMap_map]
  refine congrArg (script.filterMap ·) (funext fun first => ?_)
  obtain ⟨delay, outcome⟩ := first
  cases outcome <;> rfl

theorem reached_told {watcher : Watcher} {answers : List Answer} {sink : List SinkEnd}
    {history : List Event} {t : Timeline} (reliable : ∀ delay, .breaks delay ∉ answers)
    (unbreakable : .breaks ∉ sink) (reached : Reached watcher answers sink history t) :
    Told watcher history t.run t.actions := by
  induction reached with
  | start => exact ⟨rfl, rfl⟩
  | passed now before forward undue ih => exact ih
  | @taken history t event before due ih =>
      have whole : event ≠ .broke := by
        rintro rfl
        exact (reached_sound reliable unbreakable before).due t.now due
      rw [run_take, actions_take]
      exact told_step watcher history t.run t.actions event ih (reached_booked before).settles
        ((reached_staged before).brings t.now event due).2 whole

-- One event brings one outcome at most, so a run passes through every number of them.
theorem reached_each {watcher : Watcher} {answers : List Answer} {sink : List SinkEnd}
    {history : List Event} {t : Timeline} (reached : Reached watcher answers sink history t)
    (k : Nat) (few : k ≤ (outcomes history).length) :
    ∃ earlier u, Reached watcher answers sink earlier u ∧ (outcomes earlier).length = k := by
  induction reached with
  | start => exact ⟨[], _, .start, (Nat.le_zero.1 few).symm⟩
  | passed now before forward undue ih => exact ih few
  | @taken history t event before due ih =>
      by_cases there : k ≤ (outcomes history).length
      · exact ih there
      · refine ⟨_, _, before.taken due, ?_⟩
        rw [outcomes_append, List.length_append] at few ⊢
        have one : event.outcome?.toList.length ≤ 1 := by cases event.outcome? <;> simp
        omega

/-- At every moment of a loop the polls of as many outcomes as it knows have asked, pushed and
failed exactly where it has asked, pushed and consulted its policy, and they leave its state. -/
theorem polls_agree_with_loop (watcher : Watcher) (patience now : Nat)
    (script : List (Nat × Except Failure HealthResponse))
    (ended : List (Nat × Except Failure Unit)) :
    let answers := script.map fun (delay, outcome) => Answer.after delay outcome
    let sink := ended.map fun (delay, result) => SinkEnd.after delay result
    let polls := watcher.pollsAt patience now .initial answers sink
    polls.map (fun step => step.poll.result) =
      script.map (fun (_, outcome) => some (outcome.map fun _ => ())) ∧
    (∀ k ≤ script.length, ∃ history t, Reached watcher answers sink history t ∧
      (outcomes history).length = k) ∧
    ∀ history t, Reached watcher answers sink history t →
      let known := (outcomes history).length
      let done := polls.take known
      (t.Exhausted → done = polls) ∧
      t.run.state = leftBy .initial done ∧
      deeds t.actions = done.flatMap PollStep.deeds ++
        (if t.run.phase = .querying then [.query (watcher.query t.run.state)] else []) ∧
      t.run.consulted = (deeds t.actions).count .consult ∧
      ∀ next, polls[known]? = some next → next.query = watcher.query t.run.state := by
  intro answers sink polls
  have whole : scripted answers = script.map Prod.snd := scripted_after script
  have reliable : ∀ delay, .breaks delay ∉ answers := by simp [answers]
  have unbreakable : .breaks ∉ sink := by simp [sink]
  have unbroken (history : List Event) (t : Timeline)
      (reached : Reached watcher answers sink history t) : t.run.phase ≠ .broken :=
    (reached_sound reliable unbreakable reached).phase
  refine ⟨results_of_polls watcher patience now .initial script ended, ?_, ?_⟩
  · intro k few
    obtain ⟨history, t, reached, exhausted⟩ := exhausted_reached reliable unbreakable
      (by simp [answers]) (by simp [sink]) (.start : Reached watcher answers sink [] _)
    have all := exhausted_outcomes answers history t (reached_staged reached)
      (unbroken history t reached) exhausted
    refine reached_each reached k ?_
    rw [← all, whole, List.length_map]
    exact few
  · intro history t reached known done
    have part : outcomes history = (script.take known).map Prod.snd := by
      rw [List.map_take, ← whole, (reached_staged reached).script (unbroken history t reached),
        List.take_left]
    have turned : done = watcher.pollsAt patience now .initial
        ((script.take known).map fun (delay, outcome) => .after delay outcome) sink := by
      rw [List.map_take]
      exact take_polls watcher patience now .initial answers sink known
    have state : t.run.state = settled watcher.config (arrived (answers.take known)) := by
      rw [← List.map_take, arrived_scripted, ← part]
      exact (reached_booked reached).settles
    obtain ⟨told, consulted⟩ := reached_told reliable unbreakable reached
    refine ⟨?_, ?_, ?_, consulted, ?_⟩
    · intro exhausted
      have all := exhausted_outcomes answers history t (reached_staged reached)
        (unbroken history t reached) exhausted
      refine List.take_of_length_le (Nat.le_of_eq ?_)
      rw [length_polls, List.length_map, ← List.length_map Prod.snd, ← whole, all]
    · rw [state, turned, left_by_polls, List.map_take]
      rfl
    · rw [told, turned, polls_turns, ← part]
      rfl
    · intro next found
      have inside : known < answers.length := by
        rw [← length_polls watcher patience now .initial answers sink]
        exact (List.getElem?_eq_some_iff.1 found).1
      have polled := polled_found watcher patience now .initial answers sink known answers[known]
        next (List.getElem?_eq_getElem inside) found
      rw [polled.asks, state]
      rfl

theorem polls_agree_past_failures :
    let watcher : Watcher :=
      ⟨⟨"localhost", 8500, "svc", by decide, by decide⟩, .default, Backoff.fixed .zero⟩
    let entry : ServiceEntry := ⟨"svc-1", "svc", "10.0.0.1", "", 9000, ["svc"], .passing⟩
    let script : List (Nat × Except Failure HealthResponse) :=
      [(4, .error (.internal "refused")), (0, .ok ⟨[entry], 9⟩), (2, .ok ⟨[], 4⟩)]
    let ended : List (Nat × Except Failure Unit) := [(7, .error (.internal "rejected"))]
    let query (index : UInt64) : Deed := .query ⟨"svc", some "svc", true, index⟩
    ∃ history t,
      Reached watcher (script.map fun (delay, outcome) => .after delay outcome)
        (ended.map fun (delay, result) => .after delay result) history t ∧
      t.run.state = ⟨9, .empty⟩ ∧
      [query 0, .consult, query 0, .push (.ofList [⟨"10.0.0.1", 9000⟩]), query 9, .push .empty] <+:
        deeds t.actions := by
  intro watcher entry script ended query
  obtain ⟨_, each, law⟩ := polls_agree_with_loop watcher 5 0 script ended
  obtain ⟨history, t, reached, known⟩ := each 3 (Nat.le_refl 3)
  obtain ⟨_, state, told, _⟩ := law history t reached
  rw [known] at state told
  exact ⟨history, t, reached, state, _, told.symm⟩

end ServiceDiscovery.Watcher
