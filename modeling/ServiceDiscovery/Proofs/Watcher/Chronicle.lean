import Mathlib.Data.List.Basic
import ServiceDiscovery.Proofs.Watcher.Cancellation
import ServiceDiscovery.Proofs.Watcher.Pacing

namespace ServiceDiscovery.Watcher

open Timeline

inductive Note where
  | started
  | failed (error : String) (attempt millis : Nat)
  | fellBack (current received : UInt64)
  | updated (index : UInt64) (instances : Nat)
  | unchanged (index : UInt64)
  | unpushed (error : String)
  | stopped (index : UInt64) (instances : Nat)

def Note.line (target : Target) : Note → Log.Event
  | .started =>
    ⟨.info, "👀 Watching service",
      [("service", .text target.service), ("registry", .text target.registryAddress)]⟩
  | .failed error attempt millis =>
    ⟨.warn, "⚠️ Failed to retrieve instances from registry, keeping last known addresses",
      [("service", .text target.service), ("registry", .text target.registryAddress),
        ("error", .text error), ("attempt", .count attempt), ("delay_ms", .count millis)]⟩
  | .fellBack current received =>
    ⟨.warn, "Registry index went backwards, keeping watermark",
      [("service", .text target.service), ("current", .count current.toNat),
        ("received", .count received.toNat)]⟩
  | .updated index instances =>
    ⟨.info, "🔄 Service addresses updated",
      [("service", .text target.service), ("index", .count index.toNat),
        ("instances", .count instances)]⟩
  | .unchanged index =>
    ⟨.debug, "Service addresses unchanged",
      [("service", .text target.service), ("index", .count index.toNat)]⟩
  | .unpushed error =>
    ⟨.warn, "⚠️ Failed to push address snapshot",
      [("service", .text target.service), ("error", .text error)]⟩
  | .stopped index instances =>
    ⟨.info, "🛑 Watcher stopped",
      [("service", .text target.service), ("index", .count index.toNat),
        ("instances", .count instances)]⟩

def refusal : Option (Except Failure Unit) → List Note
  | some (.error failure) => [.unpushed failure.message]
  | some (.ok ()) | none => []

def arrival (config : WatchConfig) (earlier : List HealthResponse) (response : HealthResponse) :
    List Note :=
  let watermark := max (highest earlier) response.index
  let snapshot := WatchState.accepted config response.entries
  (if response.index < highest earlier then [.fellBack (highest earlier) response.index] else []) ++
    [if snapshot = latest config earlier then .unchanged watermark
      else .updated watermark snapshot.size]

-- What is told of a poll after others, and of its push if that has ended. A streak is counted up to
-- the longest one that 32 bits hold.
def account (watcher : Watcher) (earlier : Heard) (ended : Option (Except Failure Unit)) :
    Except Failure HealthResponse → List Note
  | .ok response =>
    arrival watcher.config (responses (earlier.map Prod.snd)) response ++ refusal ended
  | .error failure =>
    let attempt := min (streak earlier + 1) (2 ^ 32 - 1)
    [.failed failure.message attempt (watcher.policy (failed earlier) attempt).millis]

-- Only a poll that succeeds is followed by a push, so the push of one comes after as many others as
-- there are successes before it.
def chapter (watcher : Watcher) (polls : Heard) (ends : List (Except Failure Unit)) (k : Nat) :
    List Note :=
  match polls[k]? with
  | some (_, outcome) =>
    watcher.account (polls.take k) ends[succeeded (polls.take k)]? outcome
  | none => []

def story (watcher : Watcher) (polls : Heard) (ends : List (Except Failure Unit)) : List Note :=
  (List.range polls.length).flatMap (watcher.chapter polls ends)

def Action.log? : Action → Option Log.Event
  | .log event => some event
  | _ => none

def logged (actions : List Action) : List Log.Event := actions.filterMap Action.log?

@[simp] theorem logged_append (a b : List Action) : logged (a ++ b) = logged a ++ logged b :=
  List.filterMap_append

@[simp] theorem logged_cons (action : Action) (rest : List Action) :
    logged (action :: rest) = action.log?.toList ++ logged rest := by
  cases action <;> rfl

@[simp] theorem logged_nil : logged [] = [] := rfl

@[simp] theorem logged_logs (logs : List Log.Event) : logged (logs.map .log) = logs := by
  simp [logged, List.filterMap_map, Function.comp_def, Action.log?]

theorem outcomes_heard (moments : List (Nat × Event)) :
    outcomes (moments.map Prod.snd) = (heard moments).map Prod.snd := by
  rw [outcomes, heard, List.filterMap_map, List.map_filterMap]
  refine congrArg (moments.filterMap ·) (funext fun moment => ?_)
  obtain ⟨time, event⟩ := moment
  cases event <;> rfl

theorem length_ends (moments : List (Nat × Event)) :
    (ends (moments.map Prod.snd)).length = (returned moments).length := by
  rw [ends, returned, List.filterMap_map, List.length_filterMap_eq_countP,
    List.length_filterMap_eq_countP]
  refine congrArg (moments.countP ·) (funext fun moment => ?_)
  obtain ⟨time, event⟩ := moment
  cases event <;> rfl

section

variable (watcher : Watcher) (polls : Heard) (ends : List (Except Failure Unit))

theorem chapter_append (more : Heard) (k : Nat) (inside : k < polls.length) :
    watcher.chapter (polls ++ more) ends k = watcher.chapter polls ends k := by
  rw [chapter, chapter, List.getElem?_append_left inside,
    List.take_append_of_le_length (Nat.le_of_lt inside)]

theorem story_append (time : Nat) (outcome : Except Failure HealthResponse) :
    watcher.story (polls ++ [(time, outcome)]) ends =
      watcher.story polls ends ++ watcher.account polls ends[succeeded polls]? outcome := by
  have last : watcher.chapter (polls ++ [(time, outcome)]) ends polls.length =
      watcher.account polls ends[succeeded polls]? outcome := by
    rw [chapter, List.getElem?_concat_length, List.take_left]
  rw [story, List.length_append, List.length_singleton, List.range_succ, List.flatMap_append,
    List.flatMap_singleton, last]
  refine congrArg (· ++ _) (List.flatMap_congr fun k inside => ?_)
  exact chapter_append watcher polls ends _ k (List.mem_range.1 inside)

theorem succeeded_take_lt (k time : Nat) (response : HealthResponse)
    (found : polls[k]? = some (time, .ok response)) :
    succeeded (polls.take k) < succeeded polls := by
  have next : polls.take (k + 1) = polls.take k ++ [(time, .ok response)] := by
    rw [List.take_add_one, found, Option.toList_some]
  calc
    succeeded (polls.take k) < succeeded (polls.take k) + 1 := Nat.lt_succ_self _
    _ = succeeded (polls.take (k + 1)) := by rw [next, (counts_ok _ time response).2.1]
    _ ≤ succeeded polls := (List.take_sublist _ _).countP_le

-- A push that ends later than those known is one of a later poll.
theorem story_ends (more : List (Except Failure Unit)) (all : ends.length = succeeded polls) :
    watcher.story polls (ends ++ more) = watcher.story polls ends := by
  refine List.flatMap_congr fun k _ => ?_
  rw [chapter, chapter]
  cases found : polls[k]? with
  | none => rfl
  | some poll =>
      obtain ⟨time, outcome⟩ := poll
      cases outcome with
      | error failure => rfl
      | ok response =>
          have known := succeeded_take_lt polls k time response found
          dsimp only
          rw [List.getElem?_append_left (by omega)]

theorem story_answer (time : Nat) (outcome : Except Failure HealthResponse)
    (all : ends.length = succeeded polls) :
    watcher.story (polls ++ [(time, outcome)]) ends =
      watcher.story polls ends ++ watcher.account polls none outcome := by
  rw [story_append, List.getElem?_eq_none (Nat.le_of_eq all)]

theorem story_pushed (time : Nat) (response : HealthResponse) (result : Except Failure Unit)
    (all : ends.length = succeeded polls) :
    watcher.story (polls ++ [(time, .ok response)]) (ends ++ [result]) =
      watcher.story (polls ++ [(time, .ok response)]) ends ++ refusal (some result) := by
  rw [story_append, story_answer watcher polls ends time (.ok response) all,
    story_ends watcher polls ends [result] all, ← all, List.getElem?_concat_length, account,
    account, refusal, List.append_nil, List.append_assoc]

end

theorem lines_answer (watcher : Watcher) (earlier : List HealthResponse)
    (response : HealthResponse) :
    (settled watcher.config earlier).applyLogs watcher.target.service watcher.config response =
      (arrival watcher.config earlier response).map (Note.line watcher.target) := by
  rw [settled_eq]
  have watermark : max (highest earlier) response.index =
      if highest earlier ≤ response.index then response.index else highest earlier := rfl
  simp only [WatchState.applyLogs, WatchState.apply, arrival, List.map_append, watermark]
  refine congrArg₂ (· ++ ·) ?_ ?_
  · by_cases forward : highest earlier ≤ response.index
    · rw [if_pos forward, if_neg (UInt64.not_lt.2 forward)]
      rfl
    · rw [if_neg forward, if_pos (UInt64.not_le.1 forward)]
      rfl
  · by_cases same : WatchState.accepted watcher.config response.entries =
        latest watcher.config earlier
    · rw [if_pos same, if_pos same]
      rfl
    · rw [if_neg same, if_neg same]
      rfl

theorem line_failure (watcher : Watcher) (failure : Failure) (attempt : Nat) (delay : Duration)
    (short : delay.millis < 2 ^ 64) :
    Run.failureLog watcher failure attempt delay =
      Note.line watcher.target (.failed failure.message attempt delay.millis) := by
  rw [Run.failureLog, Nat.mod_eq_of_lt short]
  rfl

theorem lines_ended (watcher : Watcher) (ended : Except Failure Unit) :
    watcher.pushLogs ended = (refusal (some ended)).map (Note.line watcher.target) := by
  cases ended <;> rfl

section

variable (watcher : Watcher) (run : Run)

theorem step_answer (response : HealthResponse) (querying : run.phase = .querying) :
    (run.step watcher (.answered (.ok response))).1.phase = .pushing ∧
      logged (run.step watcher (.answered (.ok response))).2 =
        run.state.applyLogs watcher.target.service watcher.config response := by
  simp [Run.step, querying, Action.log?]

theorem step_failure (failure : Failure) (querying : run.phase = .querying) :
    let attempt := min (run.failures + 1) Run.maxFailures
    (run.step watcher (.answered (.error failure))).1.phase = .waiting ∧
      logged (run.step watcher (.answered (.error failure))).2 =
        [Run.failureLog watcher failure attempt (watcher.policy run.consulted attempt)] := by
  simp [Run.step, querying, Action.log?]

theorem step_pushed (result : Except Failure Unit) (pushing : run.phase = .pushing) :
    (run.step watcher (.pushed result)).1.phase = .querying ∧
      logged (run.step watcher (.pushed result)).2 = watcher.pushLogs result := by
  simp [Run.step, Run.ask, pushing, Action.log?]

theorem step_woke (waiting : run.phase = .waiting) :
    (run.step watcher .woke).1.phase = .querying ∧
      logged (run.step watcher .woke).2 = [] := by
  simp [Run.step, Run.ask, waiting, Action.log?]

theorem step_started (ready : run.phase = .ready) :
    (run.step watcher .started).1.phase = .querying ∧
      logged (run.step watcher .started).2 = [Note.line watcher.target .started] := by
  rw [Run.step, if_pos ready]
  exact ⟨rfl, rfl⟩

end

def chronicle (watcher : Watcher) (moments : List (Nat × Event)) : Phase → List Note
  | .ready => []
  | _ => .started :: watcher.story (heard moments) (ends (moments.map Prod.snd))

def Chronicled (watcher : Watcher) (moments : List (Nat × Event)) (t : Timeline) : Prop :=
  logged t.actions = (watcher.chronicle moments t.run.phase).map (Note.line watcher.target)

theorem chronicled_take (watcher : Watcher) (moments : List (Nat × Event)) (t : Timeline)
    (event : Event) (short : ∀ earlier attempt, (watcher.policy earlier attempt).millis < 2 ^ 64)
    (brings : t.run.phase ∈ event.phases) (paced : OnPace watcher moments t)
    (settles : t.run.state = settled watcher.config (responses ((heard moments).map Prod.snd)))
    (chronicled : Chronicled watcher moments t) :
    Chronicled watcher (moments ++ [(t.now, event)]) (t.take watcher event) := by
  unfold Chronicled at chronicled ⊢
  rw [actions_take, run_take, logged_append, chronicled]
  have standing := paced.standing
  have ended := length_ends moments
  cases event with
  | started =>
      have ready : t.run.phase = .ready := List.mem_singleton.1 brings
      obtain ⟨phase, lines⟩ := step_started watcher t.run ready
      rw [ready] at standing
      rw [ready, phase, lines]
      simp [chronicle, standing.1, story, Event.outcome?]
  | answered outcome =>
      have querying : t.run.phase = .querying := List.mem_singleton.1 brings
      rw [querying] at standing
      have more := story_answer watcher (heard moments) _ t.now outcome (ended.trans standing.2)
      cases outcome with
      | ok response =>
          obtain ⟨phase, lines⟩ := step_answer watcher t.run response querying
          rw [querying, phase, lines, settles, lines_answer]
          simp [chronicle, Event.outcome?, Event.ended?, more, account, refusal]
      | error failure =>
          obtain ⟨phase, lines⟩ := step_failure watcher t.run failure querying
          have streaks : min (t.run.failures + 1) Run.maxFailures =
              min (streak (heard moments) + 1) (2 ^ 32 - 1) := by
            rw [paced.failures, Run.maxFailures]
            omega
          rw [querying, phase, lines, streaks, paced.consulted, line_failure _ _ _ _ (short _ _)]
          simp [chronicle, Event.outcome?, Event.ended?, more, account]
  | pushed result =>
      have pushing : t.run.phase = .pushing := List.mem_singleton.1 brings
      rw [pushing] at standing
      obtain ⟨_, earlier, since, response, polls, known⟩ := standing
      have more := story_pushed watcher earlier _ since response result (ended.trans known)
      rw [← polls] at more
      obtain ⟨phase, lines⟩ := step_pushed watcher t.run result pushing
      rw [pushing, phase, lines, lines_ended]
      simp [chronicle, Event.outcome?, Event.ended?, more]
  | woke =>
      have waiting : t.run.phase = .waiting := List.mem_singleton.1 brings
      obtain ⟨phase, lines⟩ := step_woke watcher t.run waiting
      rw [waiting, phase, lines]
      simp [chronicle, Event.outcome?, Event.ended?]
  | cancelled => cases brings
  | broke =>
      have working := phase_of_broke _ brings
      rw [Run.step, if_pos working]
      rcases working with phase | phase <;>
        simp [phase, chronicle, Event.outcome?, Event.ended?]

theorem clocked_settled (watcher : Watcher) (answers : List Answer) (sink : List SinkEnd)
    (moments : List (Nat × Event)) (t : Timeline)
    (clocked : Clocked watcher answers sink moments t) :
    t.run.state = settled watcher.config (responses ((heard moments).map Prod.snd)) := by
  have booked := reached_booked (clocked_reached watcher answers sink moments t clocked)
  rw [← outcomes_heard]
  exact booked.settles

theorem clocked_chronicled (watcher : Watcher) (answers : List Answer) (sink : List SinkEnd)
    (moments : List (Nat × Event)) (t : Timeline)
    (short : ∀ earlier attempt, (watcher.policy earlier attempt).millis < 2 ^ 64)
    (clocked : Clocked watcher answers sink moments t) : Chronicled watcher moments t := by
  induction clocked with
  | start => rfl
  | passed _ _ _ _ ih => exact ih
  | @taken moments t event before due ih =>
      have staged := reached_staged (clocked_reached watcher answers sink moments t before)
      exact chronicled_take watcher moments t event short (staged.brings t.now event due).2
        (clocked_on_pace watcher answers sink moments t before)
        (clocked_settled watcher answers sink moments t before) ih

theorem logged_cancel (watcher : Watcher) (moments : List (Nat × Event)) (t : Timeline)
    (working : t.run.phase ≠ .stopped ∧ t.run.phase ≠ .broken) (paced : OnPace watcher moments t)
    (chronicled : Chronicled watcher moments t) :
    logged (t.cancel watcher).actions =
      (Note.started :: watcher.story (heard moments) (ends (moments.map Prod.snd)) ++
        [Note.stopped t.run.state.lastIndex t.run.state.addresses.size]).map
          (Note.line watcher.target) := by
  have standing := paced.standing
  rw [cancel, actions_take, logged_append, chronicled, List.map_append]
  cases phase : t.run.phase with
  | ready =>
      rw [phase] at standing
      simp only [Run.step, Run.stop, phase, chronicle, standing.1]
      rfl
  | querying | pushing | waiting =>
      simp only [Run.step, Run.stop, phase, chronicle]
      rfl
  | stopped => exact absurd phase working.1
  | broken => exact absurd phase working.2

/-- However the polls and the pushes end, and whenever the loop is cancelled, its log is the line of
its start, what there is to tell of each outcome that it has processed, in order, and the line of
its stop with the state that it returns; and nothing is logged after that. -/
theorem log_tells_whole_run (watcher : Watcher) (answers : List Answer) (sink : List SinkEnd)
    (moments : List (Nat × Event)) (t : Timeline) (unbroken : t.run.phase ≠ .broken)
    (short : ∀ earlier attempt, (watcher.policy earlier attempt).millis < 2 ^ 64)
    (clocked : Clocked watcher answers sink moments t) :
    let last := t.cancel watcher
    let polls := heard moments
    let returned := last.run.state
    polls.map Prod.snd <+: scripted answers ∧
    last.run.phase = .stopped ∧
    logged last.actions =
      (Note.started :: watcher.story polls (ends (moments.map Prod.snd)) ++
        [Note.stopped returned.lastIndex returned.addresses.size]).map
          (Note.line watcher.target) ∧
    ∀ late : List Event, logged (late.foldl (take watcher) last).actions = logged last.actions := by
  intro last polls returned
  have reached := clocked_reached watcher answers sink moments t clocked
  have working := And.intro (reached_unstopped reached) unbroken
  have stopped : last.run = { t.run with phase := .stopped } := (cancel_working watcher t working).1
  refine ⟨?_, congrArg Run.phase stopped, ?_, fun late => ?_⟩
  · rw [← outcomes_heard]
    exact (reached_staged reached).told
  · have kept : returned = t.run.state := by
      simp only [returned, stopped]
    rw [kept]
    exact logged_cancel watcher moments t working
      (clocked_on_pace watcher answers sink moments t clocked)
      (clocked_chronicled watcher answers sink moments t short clocked)
  · rw [actions, (late_events watcher late last (congrArg Run.phase stopped)).2]
    rfl

-- A failure, a snapshot that the sink refuses, an index that falls back under the same addresses,
-- and a cancellation while the second push is under way.
theorem log_of_troubled_run :
    let watcher : Watcher :=
      ⟨⟨"localhost", 8500, "svc", by decide, by decide⟩, .default, fun earlier attempt =>
        .ofMillis (UInt64.ofNat (100 * attempt + earlier))⟩
    let entry : ServiceEntry := ⟨"svc-1", "svc", "10.0.0.1", "", 9000, ["svc"], .passing⟩
    let answers : List Answer :=
      [.after 2 (.error (.internal "refused")), .after 3 (.ok ⟨[entry], 9⟩),
        .after 4 (.ok ⟨[entry], 5⟩)]
    let sink : List SinkEnd := [.after 7 (.error (.internal "rejected")), .never]
    (∀ earlier attempt, (watcher.policy earlier attempt).millis < 2 ^ 64) ∧
    ∃ moments t, Clocked watcher answers sink moments t ∧ t.run.phase = .pushing ∧
      logged (t.cancel watcher).actions =
        [Note.started, .failed "[INTERNAL_ERROR] refused" 1 100, .updated 9 1,
          .unpushed "[INTERNAL_ERROR] rejected", .fellBack 9 5, .unchanged 9,
          .stopped 9 1].map (Note.line watcher.target) := by
  intro watcher entry answers sink
  have short : ∀ earlier attempt, (watcher.policy earlier attempt).millis < 2 ^ 64 := by
    intro earlier attempt
    calc
      (watcher.policy earlier attempt).millis = (UInt64.ofNat (100 * attempt + earlier)).toNat :=
        Nat.mul_div_cancel _ (by decide)
      _ < 2 ^ 64 := UInt64.toNat_lt _
  have started : Clocked watcher answers sink _ _ := Clocked.start.taken rfl
  have law := log_tells_whole_run watcher answers sink
  -- the times below are computed, which needs closed terms
  subst watcher answers sink entry
  have failed := clocked_next _ _ _ _ _ 2 _ started rfl
  have again := clocked_next _ _ _ _ _ 102 _ failed rfl
  have first := clocked_next _ _ _ _ _ 105 _ again rfl
  have rejected := clocked_next _ _ _ _ _ 112 _ first rfl
  have second := clocked_next _ _ _ _ _ 116 _ rejected rfl
  have unbroken : Phase.pushing ≠ .broken := by decide
  obtain ⟨_, _, lines, _⟩ := law _ _ unbroken short second
  exact ⟨short, _, _, second, rfl, lines⟩

end ServiceDiscovery.Watcher
