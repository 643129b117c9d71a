import ServiceDiscovery.Proofs.Watcher.Clocked

namespace ServiceDiscovery.Watcher

open Timeline

def isFailure (poll : Nat × Except Failure HealthResponse) : Bool :=
  match poll.2 with
  | .error _ => true
  | .ok _ => false

def failed (polls : Heard) : Nat := polls.countP isFailure

def succeeded (polls : Heard) : Nat := polls.countP (!isFailure ·)

def streak (polls : Heard) : Nat := (polls.reverse.takeWhile isFailure).length

theorem counts_ok (polls : Heard) (time : Nat) (response : HealthResponse) :
    failed (polls ++ [(time, .ok response)]) = failed polls ∧
      succeeded (polls ++ [(time, .ok response)]) = succeeded polls + 1 ∧
      streak (polls ++ [(time, .ok response)]) = 0 := by
  simp [failed, streak, succeeded, isFailure]

theorem counts_error (polls : Heard) (time : Nat) (failure : Failure) :
    failed (polls ++ [(time, .error failure)]) = failed polls + 1 ∧
      succeeded (polls ++ [(time, .error failure)]) = succeeded polls ∧
      streak (polls ++ [(time, .error failure)]) = streak polls + 1 := by
  simp [failed, streak, succeeded, isFailure, List.takeWhile_cons]

-- The policy is asked once for each failure, at its time, with the failures in a row up to it.
def Consulted (policy : RetryPolicy) (polls : Heard) (waits : List (Nat × Nat × Duration)) :
    Prop :=
  waits.length = failed polls ∧
    ∀ k time failure, polls[k]? = some (time, .error failure) →
      let earlier := failed (polls.take k)
      let attempt := min (streak (polls.take (k + 1))) Run.maxFailures
      waits[earlier]? = some (time, attempt, policy earlier attempt)

-- What follows the k-th poll, a wait or a push, is over at a time.
def OverAt (polls : Heard) (returned : List Nat) (waits : List (Nat × Nat × Duration)) (k : Nat)
    (time : Nat) : Prop :=
  (∀ since failure, polls[k]? = some (since, .error failure) →
    ∃ attempt delay, waits[failed (polls.take k)]? = some (since, attempt, delay) ∧
      time = since + millisFor delay) ∧
  ∀ since response, polls[k]? = some (since, .ok response) →
    returned[succeeded (polls.take k)]? = some time

def Asking (polls : Heard) (returned asks : List Nat) : Prop :=
  asks.length = polls.length + 1 ∧ returned.length = succeeded polls

def Pushing (polls : Heard) (returned asks : List Nat) : Prop :=
  asks.length = polls.length ∧
    ∃ earlier since response, polls = earlier ++ [(since, .ok response)] ∧
      returned.length = succeeded earlier

-- What is open in each phase. A wait is kept with the failure that it is for, since the time at
-- which it is over is fixed when it begins; when a push will be over is not known.
def Standing (polls : Heard) (returned : List Nat) (waits : List (Nat × Nat × Duration))
    (asks : List Nat) (due : Option (Nat × Event)) : Phase → Prop
  | .ready => polls = [] ∧ asks = [] ∧ returned = []
  | .querying => Asking polls returned asks
  | .pushing => Pushing polls returned asks
  | .broken => Asking polls returned asks ∨ Pushing polls returned asks
  | .waiting => asks.length = polls.length ∧ returned.length = succeeded polls ∧
    ∃ earlier since failure attempt delay, polls = earlier ++ [(since, .error failure)] ∧
      waits[failed earlier]? = some (since, attempt, delay) ∧
      due = some (since + millisFor delay, .woke)
  | .stopped => False

structure Paced (policy : RetryPolicy) (polls : Heard) (returned : List Nat)
    (waits : List (Nat × Nat × Duration)) (asks : List Nat) (run : Run)
    (due : Option (Nat × Event)) : Prop where
  failures : run.failures = min (streak polls) Run.maxFailures
  consulted : run.consulted = failed polls
  consults : Consulted policy polls waits
  resumed : ∀ k time, asks[k + 1]? = some time → OverAt polls returned waits k time
  standing : Standing polls returned waits asks due run.phase

theorem asks_bounds (polls : Heard) (returned : List Nat) (waits : List (Nat × Nat × Duration))
    (asks : List Nat) (due : Option (Nat × Event)) (phase : Phase)
    (standing : Standing polls returned waits asks due phase) :
    polls.length ≤ asks.length ∧ asks.length ≤ polls.length + 1 := by
  cases phase with
  | ready => obtain ⟨rfl, rfl, _⟩ := standing; exact ⟨Nat.le_refl _, Nat.zero_le _⟩
  | querying => have := standing.1; omega
  | pushing | waiting => have := standing.1; omega
  | broken =>
      rcases standing with asking | pushing
      · have := asking.1; omega
      · have := pushing.1; omega
  | stopped => cases standing

theorem over_at_append (polls more : Heard) (returned later : List Nat)
    (waits others : List (Nat × Nat × Duration)) (k time : Nat) (inside : k < polls.length)
    (over_at : OverAt polls returned waits k time) :
    OverAt (polls ++ more) (returned ++ later) (waits ++ others) k time := by
  rw [OverAt, List.getElem?_append_left inside, List.take_append_of_le_length (Nat.le_of_lt inside)]
  refine ⟨fun since failure poll => ?_, fun since response poll => ?_⟩
  · obtain ⟨attempt, delay, asked, same⟩ := over_at.1 since failure poll
    exact ⟨attempt, delay, found_append others asked, same⟩
  · exact found_append later (over_at.2 since response poll)

theorem consulted_ok (policy : RetryPolicy) (polls : Heard) (waits : List (Nat × Nat × Duration))
    (since : Nat) (response : HealthResponse) (consulted : Consulted policy polls waits) :
    Consulted policy (polls ++ [(since, .ok response)]) waits := by
  refine ⟨consulted.1.trans (counts_ok polls since response).1.symm, ?_⟩
  intro k time failure found
  rcases found_snoc found with ⟨inside, earlier⟩ | ⟨_, same⟩
  · rw [List.take_append_of_le_length (Nat.le_of_lt inside), List.take_append_of_le_length inside]
    exact consulted.2 k time failure earlier
  · cases same

theorem consulted_error (policy : RetryPolicy) (polls : Heard)
    (waits : List (Nat × Nat × Duration)) (since attempt : Nat) (failure : Failure)
    (streaks : attempt = min (streak polls + 1) Run.maxFailures)
    (consulted : Consulted policy polls waits) :
    Consulted policy (polls ++ [(since, .error failure)])
      (waits ++ [(since, attempt, policy (failed polls) attempt)]) := by
  obtain ⟨counted, _, streaked⟩ := counts_error polls since failure
  refine ⟨by rw [List.length_append, consulted.1, counted]; rfl, ?_⟩
  intro k time other found
  rcases found_snoc found with ⟨inside, earlier⟩ | ⟨rfl, same⟩
  · rw [List.take_append_of_le_length (Nat.le_of_lt inside), List.take_append_of_le_length inside]
    exact found_append _ (consulted.2 k time other earlier)
  · cases same
    rw [List.take_left, List.take_of_length_le (by simp), streaked, ← streaks, ← consulted.1]
    exact List.getElem?_concat_length

section

variable {policy : RetryPolicy} {polls : Heard} {ended : List Nat}
  {waits : List (Nat × Nat × Duration)} {asks : List Nat} {run : Run} {due : Option (Nat × Event)}

theorem paced_initial (policy : RetryPolicy) (due : Option (Nat × Event)) :
    Paced policy [] [] [] [] .initial due where
  failures := rfl
  consulted := rfl
  consults := ⟨rfl, fun _ _ _ found => by cases found⟩
  resumed := fun _ _ found => by cases found
  standing := ⟨rfl, rfl, rfl⟩

theorem paced_ask (now : Nat) (later : List Nat) (next : Option (Nat × Event))
    (paced : Paced policy polls ended waits asks run due) (even : asks.length = polls.length)
    (all : (ended ++ later).length = succeeded polls)
    (over_at : ∀ k, k + 1 = polls.length → OverAt polls (ended ++ later) waits k now) :
    Paced policy polls (ended ++ later) waits (asks ++ [now]) { run with phase := .querying }
      next := by
  refine ⟨paced.failures, paced.consulted, paced.consults, ?_, ?_, all⟩
  · intro k time found
    rcases found_snoc found with ⟨inside, earlier⟩ | ⟨last, rfl⟩
    · have := over_at_append polls [] ended later waits [] k time (by omega)
        (paced.resumed k time earlier)
      simpa only [List.append_nil] using this
    · exact over_at k (by omega)
  · rw [List.length_append, even]
    rfl

theorem paced_started (now : Nat) (next : Option (Nat × Event))
    (paced : Paced policy polls ended waits asks run due) (ready : run.phase = .ready) :
    Paced policy polls ended waits (asks ++ [now]) { run with phase := .querying } next := by
  have standing := paced.standing
  rw [ready] at standing
  obtain ⟨rfl, rfl, rfl⟩ := standing
  exact paced_ask now [] next paced rfl rfl fun k last => absurd last (Nat.succ_ne_zero k)

theorem resumed_append (more : Heard) (others : List (Nat × Nat × Duration))
    (paced : Paced policy polls ended waits asks run due) (querying : run.phase = .querying)
    (k time : Nat) (found : asks[k + 1]? = some time) :
    OverAt (polls ++ more) ended (waits ++ others) k time := by
  have standing := paced.standing
  rw [querying] at standing
  have inside : k < polls.length := by
    have := (List.getElem?_eq_some_iff.1 found).1
    have := standing.1
    omega
  have := over_at_append polls more ended [] waits others k time inside
    (paced.resumed k time found)
  simpa only [List.append_nil] using this

theorem paced_answer (now : Nat) (response : HealthResponse) (state : WatchState)
    (next : Option (Nat × Event)) (paced : Paced policy polls ended waits asks run due)
    (querying : run.phase = .querying) :
    Paced policy (polls ++ [(now, .ok response)]) ended waits asks
      { run with state, failures := 0, phase := .pushing } next := by
  obtain ⟨counted, _, streaked⟩ := counts_ok polls now response
  have standing := paced.standing
  rw [querying] at standing
  refine ⟨by rw [streaked]; rfl, by rw [counted]; exact paced.consulted,
    consulted_ok policy polls waits now response paced.consults, ?_, ?_⟩
  · intro k time found
    have := resumed_append [(now, .ok response)] [] paced querying k time found
    simpa only [List.append_nil] using this
  · refine ⟨?_, polls, now, response, rfl, standing.2⟩
    rw [standing.1, List.length_append]
    rfl

theorem paced_failure (now : Nat) (failure : Failure)
    (paced : Paced policy polls ended waits asks run due) (querying : run.phase = .querying) :
    let failures := min (run.failures + 1) Run.maxFailures
    let delay := policy run.consulted failures
    Paced policy (polls ++ [(now, .error failure)]) ended (waits ++ [(now, failures, delay)]) asks
      { run with failures, consulted := run.consulted + 1, phase := .waiting }
      (some (now + millisFor delay, .woke)) := by
  intro failures delay
  obtain ⟨counted, ends, streaked⟩ := counts_error polls now failure
  have standing := paced.standing
  rw [querying] at standing
  have streaks : failures = min (streak polls + 1) Run.maxFailures := by
    simp only [failures, paced.failures]
    omega
  have asked : delay = policy (failed polls) failures := by
    simp only [delay, paced.consulted]
  refine ⟨by rw [streaked]; exact streaks, by rw [counted, paced.consulted], ?_,
    resumed_append _ _ paced querying, ?_, ?_, polls, now, failure, failures, delay, rfl, ?_, rfl⟩
  · rw [asked]
    exact consulted_error policy polls waits now failures failure streaks paced.consults
  · rw [standing.1, List.length_append]
    rfl
  · rw [ends]
    exact standing.2
  · rw [← paced.consults.1]
    exact List.getElem?_concat_length

theorem paced_pushed (now : Nat) (next : Option (Nat × Event))
    (paced : Paced policy polls ended waits asks run due) (pushing : run.phase = .pushing) :
    Paced policy polls (ended ++ [now]) waits (asks ++ [now]) { run with phase := .querying }
      next := by
  have standing := paced.standing
  rw [pushing] at standing
  obtain ⟨even, earlier, since, response, rfl, known⟩ := standing
  refine paced_ask now [now] next paced even ?_ ?_
  · rw [(counts_ok earlier since response).2.1, List.length_append, known]
    rfl
  · intro k last
    have same : k = earlier.length := by simpa using last
    subst same
    rw [OverAt, List.getElem?_concat_length, List.take_left, ← known, List.getElem?_concat_length]
    refine ⟨?_, fun _ _ _ => rfl⟩
    intro _ _ other
    cases other

theorem paced_woke (now : Nat) (next : Option (Nat × Event))
    (paced : Paced policy polls ended waits asks run due) (waiting : run.phase = .waiting)
    (woken : due = some (now, .woke)) :
    Paced policy polls ended waits (asks ++ [now]) { run with phase := .querying } next := by
  have standing := paced.standing
  rw [waiting] at standing
  obtain ⟨even, all, earlier, since, failure, attempt, delay, rfl, asked, over_at⟩ := standing
  have time : now = since + millisFor delay := by
    rw [woken] at over_at
    exact congrArg Prod.fst (Option.some.inj over_at)
  rw [← List.append_nil ended]
  refine paced_ask now [] next paced even (by rw [List.append_nil]; exact all) ?_
  intro k last
  have same : k = earlier.length := by simpa using last
  subst same
  rw [OverAt, List.getElem?_concat_length, List.take_left]
  refine ⟨fun began _ poll => ?_, fun _ _ other => by cases other⟩
  cases poll
  exact ⟨attempt, delay, asked, time⟩

theorem paced_broke (next : Option (Nat × Event))
    (paced : Paced policy polls ended waits asks run due)
    (working : run.phase = .querying ∨ run.phase = .pushing) :
    Paced policy polls ended waits asks { run with phase := .broken } next := by
  have standing := paced.standing
  refine ⟨paced.failures, paced.consulted, paced.consults, paced.resumed, ?_⟩
  rcases working with phase | phase <;> rw [phase] at standing
  · exact .inl standing
  · exact .inr standing

theorem last_of_unasked (paced : Paced policy polls ended waits asks run due) (k : Nat)
    (poll : Nat × Except Failure HealthResponse) (found : polls[k]? = some poll)
    (unasked : asks[k + 1]? = none) :
    asks.length = polls.length ∧ asks.length = k + 1 ∧ polls = polls.take k ++ [poll] := by
  obtain ⟨inside, same⟩ := List.getElem?_eq_some_iff.1 found
  have few := List.getElem?_eq_none_iff.1 unasked
  have bounds := asks_bounds polls ended waits asks due run.phase paced.standing
  refine ⟨by omega, by omega, ?_⟩
  rw [← same, List.take_append_getElem, List.take_of_length_le (by omega)]

theorem standing_failure (phase : Phase) (earlier : Heard) (since : Nat) (failure : Failure)
    (standing : Standing (earlier ++ [(since, .error failure)]) ended waits asks due phase)
    (even : asks.length = (earlier ++ [(since, Except.error failure)]).length) :
    ∃ attempt delay, waits[failed earlier]? = some (since, attempt, delay) ∧
      due = some (since + millisFor delay, .woke) := by
  cases phase with
  | ready => exact absurd standing.1 (List.append_ne_nil_of_right_ne_nil _ (List.cons_ne_nil _ _))
  | querying => exact absurd (standing.1.symm.trans even) (Nat.succ_ne_self _)
  | pushing =>
      obtain ⟨_, others, began, response, same, _⟩ := standing
      cases (List.append_inj' same rfl).2
  | broken =>
      rcases standing with asking | ⟨_, others, began, response, same, _⟩
      · exact absurd (asking.1.symm.trans even) (Nat.succ_ne_self _)
      · cases (List.append_inj' same rfl).2
  | waiting =>
      obtain ⟨_, _, others, began, other, attempt, delay, same, asked, wakes⟩ := standing
      obtain ⟨rfl, last⟩ := List.append_inj' same rfl
      cases last
      exact ⟨attempt, delay, asked, wakes⟩
  | stopped => cases standing

theorem standing_success (phase : Phase) (earlier : Heard) (since : Nat)
    (response : HealthResponse)
    (standing : Standing (earlier ++ [(since, .ok response)]) ended waits asks due phase)
    (even : asks.length = (earlier ++ [(since, Except.ok response)]).length) :
    ended.length = succeeded earlier := by
  cases phase with
  | ready => exact absurd standing.1 (List.append_ne_nil_of_right_ne_nil _ (List.cons_ne_nil _ _))
  | querying => exact absurd (standing.1.symm.trans even) (Nat.succ_ne_self _)
  | pushing =>
      obtain ⟨_, others, began, other, same, known⟩ := standing
      rw [(List.append_inj' same rfl).1]
      exact known
  | broken =>
      rcases standing with asking | ⟨_, others, began, other, same, known⟩
      · exact absurd (asking.1.symm.trans even) (Nat.succ_ne_self _)
      · rw [(List.append_inj' same rfl).1]
        exact known
  | waiting =>
      obtain ⟨_, _, others, began, failure, attempt, delay, same, _⟩ := standing
      cases (List.append_inj' same rfl).2
  | stopped => cases standing

theorem paced_after_failure (paced : Paced policy polls ended waits asks run due)
    (k since : Nat) (failure : Failure) (found : polls[k]? = some (since, .error failure)) :
    let earlier := failed (polls.take k)
    let delay := policy earlier (min (streak (polls.take (k + 1))) Run.maxFailures)
    asks[k + 1]? = some (since + millisFor delay) ∨
      asks.length = k + 1 ∧ due = some (since + millisFor delay, .woke) := by
  intro earlier delay
  have consulted := paced.consults.2 k since failure found
  cases next : asks[k + 1]? with
  | some time =>
      obtain ⟨attempt, waited, asked, over_at⟩ := (paced.resumed k time next).1 since failure found
      rw [consulted] at asked
      cases asked
      exact .inl (congrArg some over_at)
  | none =>
      obtain ⟨even, last, split⟩ := last_of_unasked paced k _ found next
      have standing := paced.standing
      rw [split] at standing even
      obtain ⟨attempt, waited, asked, wakes⟩ :=
        standing_failure run.phase (polls.take k) since failure standing even
      rw [consulted] at asked
      cases asked
      exact .inr ⟨last, wakes⟩

theorem paced_after_success (paced : Paced policy polls ended waits asks run due)
    (k since : Nat) (response : HealthResponse) (found : polls[k]? = some (since, .ok response)) :
    asks[k + 1]? = ended[succeeded (polls.take k)]? := by
  cases next : asks[k + 1]? with
  | some time => exact ((paced.resumed k time next).2 since response found).symm
  | none =>
      obtain ⟨even, _, split⟩ := last_of_unasked paced k _ found next
      have standing := paced.standing
      rw [split] at standing even
      have known := standing_success run.phase (polls.take k) since response standing even
      exact (List.getElem?_eq_none (Nat.le_of_eq known)).symm

end

def OnPace (watcher : Watcher) (moments : List (Nat × Event)) (t : Timeline) : Prop :=
  Paced watcher.policy (heard moments) (returned moments) (consultations t.trace) (asksAt t.trace)
    t.run t.due

theorem due_of_failure (watcher : Watcher) (t : Timeline) (failure : Failure)
    (querying : t.run.phase = .querying) :
    let attempt := min (t.run.failures + 1) Run.maxFailures
    (t.take watcher (.answered (.error failure))).due =
      some (t.now + millisFor (watcher.policy t.run.consulted attempt), .woke) := by
  simp [take, Run.step, querying, perform]

theorem on_pace_take (watcher : Watcher) (moments : List (Nat × Event)) (t : Timeline)
    (event : Event) (due : t.due = some (t.now, event)) (brings : t.run.phase ∈ event.phases)
    (paced : OnPace watcher moments t) :
    OnPace watcher (moments ++ [(t.now, event)]) (t.take watcher event) := by
  unfold OnPace at paced ⊢
  rw [run_take, trace_take, asks_append, consultations_append]
  cases event with
  | started =>
      have ready : t.run.phase = .ready := List.mem_singleton.1 brings
      have started := paced_started t.now (t.take watcher .started).due paced ready
      simpa [Run.step, Run.ask, ready, Event.outcome?, Event.ended?, Action.query?, Action.wait?]
        using started
  | answered outcome =>
      have querying : t.run.phase = .querying := List.mem_singleton.1 brings
      cases outcome with
      | ok response =>
          have answered := paced_answer t.now response (t.run.state.apply watcher.config response)
            (t.take watcher (.answered (.ok response))).due paced querying
          simpa [Run.step, querying, Event.outcome?, Event.ended?, Action.query?, Action.wait?]
            using answered
      | error failure =>
          have failed := paced_failure t.now failure paced querying
          rw [due_of_failure watcher t failure querying]
          simpa [Run.step, querying, Event.outcome?, Event.ended?, Action.query?, Action.wait?]
            using failed
  | pushed result =>
      have pushing : t.run.phase = .pushing := List.mem_singleton.1 brings
      have resumed := paced_pushed t.now (t.take watcher (.pushed result)).due paced pushing
      simpa [Run.step, Run.ask, pushing, Event.outcome?, Event.ended?, Action.query?, Action.wait?]
        using resumed
  | woke =>
      have waiting : t.run.phase = .waiting := List.mem_singleton.1 brings
      have resumed := paced_woke t.now (t.take watcher .woke).due paced waiting due
      simpa [Run.step, Run.ask, waiting, Event.outcome?, Event.ended?, Action.query?, Action.wait?]
        using resumed
  | cancelled => cases brings
  | broke =>
      have working := phase_of_broke _ brings
      have broken := paced_broke (t.take watcher .broke).due paced working
      simpa [Run.step, working, Event.outcome?, Event.ended?] using broken

theorem clocked_on_pace (watcher : Watcher) (answers : List Answer) (sink : List SinkEnd)
    (moments : List (Nat × Event)) (t : Timeline)
    (clocked : Clocked watcher answers sink moments t) : OnPace watcher moments t := by
  induction clocked with
  | start => exact paced_initial watcher.policy _
  | passed _ _ _ _ ih => exact ih
  | @taken moments t event before due ih =>
      have staged := reached_staged (clocked_reached watcher answers sink moments t before)
      exact on_pace_take watcher moments t event due (staged.brings t.now event due).2 ih

theorem millis_exact (delay : Duration) (whole : 10 ^ 6 ∣ delay.nanos) :
    millisFor delay * 10 ^ 6 = delay.nanos := by
  unfold millisFor
  omega

/-- Whatever the outcomes, the policy and the sink: the clock of a loop can be run to any time, and
at every moment the consultations and the queries so far are those that the polls so far call
for. -/
theorem paced_by_policy (watcher : Watcher) (answers : List Answer) (sink : List SinkEnd)
    (whole : ∀ earlier attempt, 10 ^ 6 ∣ (watcher.policy earlier attempt).nanos) :
    (∀ limit, ∃ moments t, Clocked watcher answers sink moments t ∧ t.now = limit) ∧
    ∀ moments t, Clocked watcher answers sink moments t →
      let polls := heard moments
      let asks := asksAt t.trace
      let waits := consultations t.trace
      t.run.consulted = failed polls ∧ waits.length = failed polls ∧
      (∀ k time failure, polls[k]? = some (time, .error failure) →
        let earlier := failed (polls.take k)
        let attempt := min (streak (polls.take (k + 1))) (2 ^ 32 - 1)
        let delay := watcher.policy earlier attempt
        waits[earlier]? = some (time, attempt, delay) ∧
        ((∃ next, asks[k + 1]? = some next ∧ next * 10 ^ 6 = time * 10 ^ 6 + delay.nanos) ∨
          asks.length = k + 1 ∧ t.now * 10 ^ 6 ≤ time * 10 ^ 6 + delay.nanos)) ∧
      ∀ k time response, polls[k]? = some (time, .ok response) →
        asks[k + 1]? = (returned moments)[succeeded (polls.take k)]? := by
  refine ⟨?_, ?_⟩
  · intro limit
    have initial : Reached watcher answers sink [] (.start answers sink) := .start
    obtain ⟨_, reached⟩ := advance_reached false limit initial (Nat.zero_le limit)
    obtain ⟨moments, clocked⟩ := reached_clocked reached
    exact ⟨moments, _, clocked, now_advance watcher limit (.start answers sink)⟩
  · intro moments t clocked polls asks waits
    have paced := clocked_on_pace watcher answers sink moments t clocked
    have staged := reached_staged (clocked_reached watcher answers sink moments t clocked)
    refine ⟨paced.consulted, paced.consults.1, ?_, paced_after_success paced⟩
    intro k time failure found earlier attempt delay
    refine ⟨paced.consults.2 k time failure found, ?_⟩
    rcases paced_after_failure paced k time failure found with next | ⟨last, wakes⟩
    · refine .inl ⟨_, next, ?_⟩
      rw [Nat.add_mul, millis_exact _ (whole _ _)]
      rfl
    · have undue := (staged.brings _ _ wakes).1
      refine .inr ⟨last, ?_⟩
      rw [← millis_exact delay (whole _ _), ← Nat.add_mul]
      exact Nat.mul_le_mul_right _ undue

theorem paced_past_failing_sink :
    let watcher : Watcher :=
      ⟨⟨"localhost", 8500, "svc", by decide, by decide⟩, .default, fun earlier attempt =>
        .ofMillis (UInt64.ofNat (100 * attempt + earlier))⟩
    let refused : Except Failure HealthResponse := .error (.internal "refused")
    let answers : List Answer :=
      [.after 2 refused, .after 3 refused, .after 4 (.ok ⟨[], 5⟩), .after 5 refused]
    let sink : List SinkEnd := [.after 7 (.error (.internal "rejected"))]
    (∀ earlier attempt, 10 ^ 6 ∣ (watcher.policy earlier attempt).nanos) ∧
    ∃ moments t, Clocked watcher answers sink moments t ∧
      heard moments = [(2, refused), (105, refused), (310, .ok ⟨[], 5⟩), (322, refused)] ∧
      (consultations t.trace).length = 3 ∧
      (consultations t.trace)[1]? = some (105, 2, .ofMillis 201) ∧
      (asksAt t.trace)[3]? = some 317 ∧
      (consultations t.trace)[2]? = some (322, 1, .ofMillis 102) := by
  intro watcher refused answers sink
  have whole : ∀ earlier attempt, 10 ^ 6 ∣ (watcher.policy earlier attempt).nanos :=
    fun earlier attempt => Nat.dvd_mul_left _ _
  have started : Clocked watcher answers sink _ _ := Clocked.start.taken rfl
  obtain ⟨_, law⟩ := paced_by_policy watcher answers sink whole
  -- the times below are computed, which needs closed terms
  subst watcher answers sink refused
  have first := clocked_next _ _ _ _ _ 2 _ started rfl
  have again := clocked_next _ _ _ _ _ 102 _ first rfl
  have second := clocked_next _ _ _ _ _ 105 _ again rfl
  have third := clocked_next _ _ _ _ _ 306 _ second rfl
  have answered := clocked_next _ _ _ _ _ 310 _ third rfl
  have rejected := clocked_next _ _ _ _ _ 317 _ answered rfl
  have last := clocked_next _ _ _ _ _ 322 _ rejected rfl
  obtain ⟨_, counted, failures, successes⟩ := law _ _ last
  exact ⟨whole, _, _, last, rfl, counted, (failures 1 105 _ rfl).1, successes 2 310 _ rfl,
    (failures 3 322 _ rfl).1⟩

end ServiceDiscovery.Watcher
