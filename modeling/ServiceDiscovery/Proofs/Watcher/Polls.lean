import ServiceDiscovery.Proofs.Watcher.Ledger
import ServiceDiscovery.Watcher.Polls

namespace ServiceDiscovery.Watcher

def Answer.response? : Answer → Option HealthResponse
  | .after _ (.ok response) => some response
  | .after _ (.error _) | .never | .breaks _ => none

-- A poll that is given up, or breaks down, while its query is in flight is one to which no answer
-- comes.
def arrived (answers : List Answer) : List HealthResponse := answers.filterMap Answer.response?

def leftBy (state : WatchState) (polls : List PollStep) : WatchState :=
  (polls.getLast?.map fun step => step.poll.state).getD state

@[simp] theorem arrived_append (a b : List Answer) : arrived (a ++ b) = arrived a ++ arrived b :=
  List.filterMap_append

theorem arrived_cons (answer : Answer) (rest : List Answer) :
    arrived (answer :: rest) = answer.response?.toList ++ arrived rest := by
  rw [arrived, List.filterMap_cons]
  cases answer.response? <;> rfl

theorem arrived_next (answers : List Answer) (answer : Answer) (k : Nat)
    (found : answers[k]? = some answer) :
    arrived (answers.take (k + 1)) = arrived (answers.take k) ++ answer.response?.toList := by
  rw [List.take_add_one, found, arrived_append, Option.toList_some, arrived_cons]
  simp [arrived]

structure Polled (watcher : Watcher) (state : WatchState) (answer : Answer) (step : PollStep) :
    Prop where
  asks : step.query = watcher.query state
  leaves : step.poll.state =
    answer.response?.toList.foldl (WatchState.apply watcher.config) state
  pushes : step.poll.pushed = answer.response?.map fun response =>
    WatchState.accepted watcher.config response.entries
  fails : ∀ failure, step.poll.result = some (.error failure) ↔
    ∃ delay, answer = .after delay (.error failure)

theorem polled_poll_at (watcher : Watcher) (patience now : Nat) (state : WatchState)
    (answer : Answer) (sink : List SinkEnd) :
    Polled watcher state answer (watcher.pollAt patience now state answer sink) := by
  cases answer with
  | never | breaks _ => exact ⟨rfl, rfl, rfl, by simp [pollAt, poll]⟩
  | after delay outcome =>
      cases outcome with
      | error failure => exact ⟨rfl, rfl, rfl, by simp [pollAt, poll]⟩
      | ok response =>
          -- the end of the push shows in nothing but the result
          cases sink with
          | nil => exact ⟨rfl, rfl, rfl, by simp [pollAt, poll]⟩
          | cons ended rest => cases ended <;> exact ⟨rfl, rfl, rfl, by simp [pollAt, poll]⟩

theorem length_polls (watcher : Watcher) (patience now : Nat) (state : WatchState)
    (answers : List Answer) (sink : List SinkEnd) :
    (watcher.pollsAt patience now state answers sink).length = answers.length := by
  induction answers generalizing now state sink with
  | nil => rfl
  | cons answer rest ih => exact congrArg (· + 1) (ih _ _ _)

theorem take_polls (watcher : Watcher) (patience now : Nat) (state : WatchState)
    (answers : List Answer) (sink : List SinkEnd) (k : Nat) :
    (watcher.pollsAt patience now state answers sink).take k =
      watcher.pollsAt patience now state (answers.take k) sink := by
  induction answers generalizing now state sink k with
  | nil => simp only [pollsAt, List.take_nil]
  | cons answer rest ih =>
      cases k with
      | zero => rfl
      | succ k => exact congrArg (_ :: ·) (ih _ _ _ k)

theorem left_by_cons (state : WatchState) (step : PollStep) (rest : List PollStep) :
    leftBy state (step :: rest) = leftBy step.poll.state rest := by
  cases rest with
  | nil => rfl
  | cons next rest => rw [leftBy, List.getLast?_cons_cons]; rfl

theorem left_by_polls (watcher : Watcher) (patience now : Nat) (state : WatchState)
    (answers : List Answer) (sink : List SinkEnd) :
    leftBy state (watcher.pollsAt patience now state answers sink) =
      (arrived answers).foldl (WatchState.apply watcher.config) state := by
  induction answers generalizing now state sink with
  | nil => rfl
  | cons answer rest ih =>
      have polled := polled_poll_at watcher patience now state answer sink
      rw [pollsAt, left_by_cons, ih, polled.leaves, arrived_cons, List.foldl_append]

theorem polled_found (watcher : Watcher) (patience now : Nat) (state : WatchState)
    (answers : List Answer) (sink : List SinkEnd) (k : Nat) (answer : Answer) (step : PollStep)
    (answered : answers[k]? = some answer)
    (found : (watcher.pollsAt patience now state answers sink)[k]? = some step) :
    Polled watcher ((arrived (answers.take k)).foldl (WatchState.apply watcher.config) state)
      answer step := by
  induction answers generalizing now state sink k with
  | nil => cases answered
  | cons first rest ih =>
      cases k with
      | zero =>
          cases answered
          cases found
          exact polled_poll_at watcher patience now state answer sink
      | succ k =>
          have polled := polled_poll_at watcher patience now state first sink
          have later := ih _ _ _ k answered found
          rw [polled.leaves, ← List.foldl_append, ← arrived_cons] at later
          exact later

/-- A poll that fails, breaks down or is given up before an answer has come changes nothing; one to
which a response came has changed both, the watermark and the addresses, however its push ends, or
if it never does. -/
theorem polls_all_or_nothing (watcher : Watcher) (patience now : Nat) (answers : List Answer)
    (sink : List SinkEnd) :
    let polls := watcher.pollsAt patience now .initial answers sink
    let after (k : Nat) : WatchState := leftBy .initial (polls.take k)
    polls.length = answers.length ∧
    (∀ k, after k = ⟨highest (arrived (answers.take k)),
      latest watcher.config (arrived (answers.take k))⟩) ∧
    ∀ k answer step, answers[k]? = some answer → polls[k]? = some step →
      step.query = {
        service := watcher.target.service
        tag := if watcher.config.filterByServiceTag then some watcher.target.service else none
        passingOnly := watcher.config.passingOnly
        waitIndex := highest (arrived (answers.take k)) } ∧
      step.poll.state = after (k + 1) ∧
      (answer = .never ∨ (∃ delay, answer = .breaks delay) ∨
          (∃ delay failure, answer = .after delay (.error failure)) →
        after (k + 1) = after k ∧ step.poll.pushed = none) ∧
      ∀ delay response, answer = .after delay (.ok response) →
        let snapshot := WatchState.accepted watcher.config response.entries
        after (k + 1) = ⟨max (after k).lastIndex response.index, snapshot⟩ ∧
          step.poll.pushed = some snapshot := by
  intro polls after
  have left (k : Nat) : after k = settled watcher.config (arrived (answers.take k)) := by
    simp only [after, polls, take_polls, left_by_polls]
    rfl
  refine ⟨length_polls watcher patience now .initial answers sink,
    fun k => (left k).trans (settled_eq _ _), ?_⟩
  intro k answer step answered found
  have polled :=
    polled_found watcher patience now .initial answers sink k answer step answered found
  have next : after (k + 1) =
      answer.response?.toList.foldl (WatchState.apply watcher.config) (after k) := by
    rw [left, left, arrived_next answers answer k answered, settled, List.foldl_append]
    rfl
  have leaves : step.poll.state = after (k + 1) := by
    rw [polled.leaves, next, left]
    rfl
  refine ⟨?_, leaves, ?_, ?_⟩
  · rw [polled.asks, query]
    exact congrArg _ (congrArg WatchState.lastIndex (settled_eq watcher.config _))
  · intro unanswered
    have silent : answer.response? = none := by
      rcases unanswered with rfl | ⟨delay, rfl⟩ | ⟨delay, failure, rfl⟩ <;> rfl
    rw [next, polled.pushes, silent]
    exact ⟨rfl, rfl⟩
  · rintro delay response rfl
    rw [next, polled.pushes]
    exact ⟨rfl, rfl⟩

-- The push of the last response never returns, and its index is lower than the one before.
theorem polls_given_up_midway :
    let watcher : Watcher :=
      ⟨⟨"localhost", 8500, "svc", by decide, by decide⟩, .default, Backoff.fixed .zero⟩
    let entry : ServiceEntry := ⟨"svc-1", "svc", "10.0.0.1", "", 9000, ["svc"], .passing⟩
    let answers : List Answer :=
      [.after 4 (.ok ⟨[entry], 9⟩), .never, .after 1 (.error (.internal "refused")),
        .after 2 (.ok ⟨[], 4⟩)]
    let sink : List SinkEnd := [.after 7 (.error (.internal "rejected")), .never]
    let polls := watcher.pollsAt 30 0 .initial answers sink
    leftBy .initial (polls.take 3) = ⟨9, .ofList [⟨"10.0.0.1", 9000⟩]⟩ ∧
    ∃ step, polls[3]? = some step ∧ step.query.waitIndex = 9 ∧
      step.poll.pushed = some .empty ∧ step.poll.result.isNone ∧
      step.poll.state = ⟨9, .empty⟩ := by
  intro watcher entry answers sink polls
  obtain ⟨_, left, law⟩ := polls_all_or_nothing watcher 30 0 answers sink
  obtain ⟨asks, leaves, _, changes⟩ := law 3 (.after 2 (.ok ⟨[], 4⟩)) _ rfl rfl
  refine ⟨left 3, _, rfl, congrArg HealthQuery.waitIndex asks, (changes 2 _ rfl).2, rfl, ?_⟩
  exact leaves.trans (left 4)

end ServiceDiscovery.Watcher
