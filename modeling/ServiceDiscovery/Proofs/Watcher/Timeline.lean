import ServiceDiscovery.Proofs.Watcher.Ledger
import ServiceDiscovery.Watcher.Timeline

namespace ServiceDiscovery.Watcher

-- A registry that once does not answer, or breaks the loop, is asked no more.
def scripted : List Answer → List (Except Failure HealthResponse)
  | .after _ outcome :: rest => outcome :: scripted rest
  | _ => []

namespace Timeline

def actions (t : Timeline) : List Action := t.trace.map Prod.snd

def coming (t : Timeline) : List (Except Failure HealthResponse) :=
  match t.run.phase, t.due with
  | .querying, some (_, .answered outcome) => outcome :: scripted t.answers
  | .querying, _ => []
  | _, _ => scripted t.answers

def Exhausted (t : Timeline) : Prop :=
  t.answers = [] ∧ ∀ time outcome, t.due ≠ some (time, .answered outcome)

structure Staged (answers : List Answer) (history : List Event) (t : Timeline) : Prop where
  brings : ∀ time event, t.due = some (time, event) → t.now ≤ time ∧ t.run.phase ∈ event.phases
  told : outcomes history <+: scripted answers
  script : t.run.phase ≠ .broken → scripted answers = outcomes history ++ t.coming

theorem staged_of_script (answers : List Answer) (history : List Event) (t : Timeline)
    (brings : ∀ time event, t.due = some (time, event) →
      t.now ≤ time ∧ t.run.phase ∈ event.phases)
    (script : scripted answers = outcomes history ++ t.coming) : Staged answers history t :=
  ⟨brings, ⟨t.coming, script.symm⟩, fun _ => script⟩

theorem perform_books (t : Timeline) (action : Action) :
    (t.perform action).run = t.run ∧ (t.perform action).now = t.now ∧
    (t.perform action).trace = t.trace ++ [(t.now, action)] := by
  unfold perform
  cases action with
  | log event => exact ⟨rfl, rfl, rfl⟩
  | wait attempt delay => exact ⟨rfl, rfl, rfl⟩
  | push snapshot => dsimp only; split <;> exact ⟨rfl, rfl, rfl⟩
  | query q => dsimp only; split <;> exact ⟨rfl, rfl, rfl⟩

theorem run_perform (t : Timeline) (action : Action) : (t.perform action).run = t.run :=
  (perform_books t action).1

theorem foldl_perform_books (actions : List Action) (t : Timeline) :
    (actions.foldl perform t).run = t.run ∧ (actions.foldl perform t).now = t.now ∧
    (actions.foldl perform t).trace = t.trace ++ actions.map (t.now, ·) := by
  induction actions generalizing t with
  | nil => exact ⟨rfl, rfl, (List.append_nil _).symm⟩
  | cons action rest ih =>
      obtain ⟨run, now, trace⟩ := perform_books t action
      obtain ⟨runs, nows, traces⟩ := ih (t.perform action)
      refine ⟨runs.trans run, nows.trans now, ?_⟩
      rw [List.foldl_cons, traces, trace, now, List.append_assoc]
      rfl

theorem foldl_perform_logs_eq (logs : List Log.Event) (t : Timeline) :
    (logs.map Action.log).foldl perform t =
      { t with trace := t.trace ++ logs.map fun log => (t.now, .log log) } := by
  induction logs generalizing t with
  | nil => simp
  | cons log rest ih =>
      rw [List.map_cons, List.foldl_cons, ih]
      simp [perform]

theorem run_take (watcher : Watcher) (t : Timeline) (event : Event) :
    (t.take watcher event).run = (t.run.step watcher event).1 :=
  (foldl_perform_books _ _).1

theorem now_take (watcher : Watcher) (t : Timeline) (event : Event) :
    (t.take watcher event).now = t.now :=
  (foldl_perform_books _ _).2.1

theorem trace_take (watcher : Watcher) (t : Timeline) (event : Event) :
    (t.take watcher event).trace = t.trace ++ (t.run.step watcher event).2.map (t.now, ·) :=
  (foldl_perform_books _ _).2.2

theorem actions_take (watcher : Watcher) (t : Timeline) (event : Event) :
    (t.take watcher event).actions = t.actions ++ (t.run.step watcher event).2 := by
  simp [actions, trace_take, Function.comp_def]

theorem staged_query (answers : List Answer) (history : List Event) (t : Timeline) (q : HealthQuery)
    (querying : t.run.phase = .querying)
    (script : scripted answers = outcomes history ++ scripted t.answers) :
    Staged answers history (t.perform (.query q)) := by
  unfold perform
  cases left : t.answers with
  | nil =>
      rw [left] at script
      refine staged_of_script answers history _ (fun _ _ due => (nomatch due)) ?_
      simpa only [coming, querying, scripted] using script
  | cons answer rest =>
      rw [left] at script
      cases answer with
      | never =>
          refine staged_of_script answers history _ (fun _ _ due => (nomatch due)) ?_
          simpa only [coming, querying, scripted] using script
      | after delay outcome =>
          refine staged_of_script answers history _ (fun time event due => ?_) ?_
          · cases due
            exact ⟨Nat.le_add_right _ _, List.mem_singleton.mpr querying⟩
          · simpa only [coming, querying, scripted] using script
      | breaks delay =>
          refine staged_of_script answers history _ (fun time event due => ?_) ?_
          · cases due
            exact ⟨Nat.le_add_right _ _, by rw [querying]; exact List.mem_cons_self⟩
          · simpa only [coming, querying, scripted] using script

theorem coming_eq (t : Timeline) (elsewhere : t.run.phase ≠ .querying) :
    t.coming = scripted t.answers := by
  unfold coming
  split
  · exact absurd ‹_› elsewhere
  · exact absurd ‹_› elsewhere
  · rfl

theorem staged_push (answers : List Answer) (history : List Event) (t : Timeline)
    (snapshot : AddressSet) (pushing : t.run.phase = .pushing)
    (script : scripted answers = outcomes history ++ scripted t.answers) :
    Staged answers history (t.perform (.push snapshot)) := by
  have same : (t.perform (.push snapshot)).answers = t.answers := by
    unfold perform
    dsimp only
    split <;> rfl
  refine staged_of_script answers history _ ?_ ?_
  · rw [run_perform, (perform_books t _).2.1, pushing]
    unfold perform
    intro time event due
    cases left : t.sink with
    | nil =>
        rw [left] at due
        cases due
        exact ⟨Nat.le_refl _, List.mem_cons_self⟩
    | cons ended rest =>
        rw [left] at due
        cases ended with
        | never => cases due
        | breaks =>
            cases due
            exact ⟨Nat.le_refl _, List.mem_cons_of_mem _ List.mem_cons_self⟩
        | after delay result =>
            cases due
            exact ⟨Nat.le_add_right _ _, List.mem_cons_self⟩
  · rw [coming_eq _ (by rw [run_perform, pushing]; decide), same]
    exact script

theorem staged_wait (answers : List Answer) (history : List Event) (t : Timeline) (attempt : Nat)
    (delay : Duration) (waiting : t.run.phase = .waiting)
    (script : scripted answers = outcomes history ++ scripted t.answers) :
    Staged answers history (t.perform (.wait attempt delay)) := by
  refine staged_of_script answers history _ (fun time event due => ?_) ?_
  · cases due
    exact ⟨Nat.le_add_right _ _, List.mem_singleton.mpr waiting⟩
  · rw [coming_eq _ (by rw [run_perform, waiting]; decide)]
    exact script

theorem script_quiet (answers : List Answer) (history : List Event) (t : Timeline) (event : Event)
    (quiet : event.outcome? = none) (elsewhere : t.run.phase ≠ .querying)
    (script : scripted answers = outcomes history ++ t.coming) :
    scripted answers = outcomes (history ++ [event]) ++ scripted t.answers := by
  rw [outcomes_append, quiet, script, coming_eq t elsewhere, Option.toList_none, List.append_nil]

theorem script_outcome (answers : List Answer) (history : List Event) (t : Timeline) (time : Nat)
    (outcome : Except Failure HealthResponse) (querying : t.run.phase = .querying)
    (due : t.due = some (time, .answered outcome))
    (script : scripted answers = outcomes history ++ t.coming) :
    scripted answers = outcomes (history ++ [.answered outcome]) ++ scripted t.answers := by
  rw [outcomes_append, script]
  simp only [coming, querying, due, Event.outcome?, Option.toList_some, List.append_assoc,
    List.singleton_append]

theorem script_take (answers : List Answer) (history : List Event) (t : Timeline) (event : Event)
    (due : t.due = some (t.now, event)) (brings : t.run.phase ∈ event.phases)
    (whole : event ≠ .broke) (script : scripted answers = outcomes history ++ t.coming) :
    scripted answers = outcomes (history ++ [event]) ++ scripted t.answers := by
  -- an outcome can only be due while the loop queries
  by_cases querying : t.run.phase = .querying
  · cases event with
    | answered outcome => exact script_outcome answers history t t.now outcome querying due script
    | broke => exact absurd rfl whole
    | started | pushed _ | woke =>
        rw [querying] at brings
        cases List.mem_singleton.mp brings
    | cancelled => cases brings
  · refine script_quiet answers history t event ?_ querying script
    cases event with
    | answered outcome => exact absurd (List.mem_singleton.mp brings) querying
    | started | pushed _ | woke | cancelled | broke => rfl

-- The clock and the records are left out: no invariant below looks at them.
structure Handed (t u : Timeline) (phase : Phase) : Prop where
  phase : u.run.phase = phase
  answers : u.answers = t.answers
  sink : u.sink = t.sink

theorem take_broke (watcher : Watcher) (t : Timeline)
    (working : t.run.phase = .querying ∨ t.run.phase = .pushing) :
    t.take watcher .broke = { t with run := { t.run with phase := .broken }, due := none } := by
  simp only [take, Run.step, if_pos working, List.foldl_nil]

-- Every event ends in one request to the world, and all that follows is read off that request.
theorem take_cases (watcher : Watcher) (t : Timeline) (event : Event)
    (brings : t.run.phase ∈ event.phases) :
    (∃ u q, t.take watcher event = u.perform (.query q) ∧ Handed t u .querying) ∨
    (∃ u snapshot, t.take watcher event = u.perform (.push snapshot) ∧ Handed t u .pushing) ∨
    (∃ u attempt delay,
      t.take watcher event = u.perform (.wait attempt delay) ∧ Handed t u .waiting) ∨
    (event = .broke ∧ t.take watcher event =
      { t with run := { t.run with phase := .broken }, due := none }) := by
  cases event with
  | started =>
      have ready : t.run.phase = .ready := List.mem_singleton.mp brings
      simp only [take, Run.step, if_pos ready, Run.ask, List.foldl_cons, List.foldl_nil]
      exact .inl ⟨_, _, rfl, rfl, rfl, rfl⟩
  | answered outcome =>
      have querying : t.run.phase = .querying := List.mem_singleton.mp brings
      cases outcome with
      | ok response =>
          simp only [take, Run.step, if_pos querying, List.foldl_append, foldl_perform_logs_eq,
            List.foldl_cons, List.foldl_nil]
          exact .inr (.inl ⟨_, _, rfl, rfl, rfl, rfl⟩)
      | error failure =>
          simp only [take, Run.step, if_pos querying, List.foldl_cons, List.foldl_nil]
          exact .inr (.inr (.inl ⟨_, _, _, rfl, rfl, rfl, rfl⟩))
  | pushed result =>
      have pushing : t.run.phase = .pushing := List.mem_singleton.mp brings
      simp only [take, Run.step, if_pos pushing, Run.ask, List.foldl_append, foldl_perform_logs_eq,
        List.foldl_cons, List.foldl_nil]
      exact .inl ⟨_, _, rfl, rfl, rfl, rfl⟩
  | woke =>
      have waiting : t.run.phase = .waiting := List.mem_singleton.mp brings
      simp only [take, Run.step, if_pos waiting, Run.ask, List.foldl_cons, List.foldl_nil]
      exact .inl ⟨_, _, rfl, rfl, rfl, rfl⟩
  | cancelled => cases brings
  | broke =>
      exact .inr (.inr (.inr ⟨rfl, take_broke watcher t (phase_of_broke _ brings)⟩))

theorem staged_take (watcher : Watcher) (answers : List Answer) (history : List Event)
    (t : Timeline) (event : Event) (staged : Staged answers history t)
    (due : t.due = some (t.now, event)) :
    Staged answers (history ++ [event]) (t.take watcher event) := by
  have brings := (staged.brings t.now event due).2
  by_cases whole : event = .broke
  · subst whole
    rw [take_broke watcher t (phase_of_broke _ brings)]
    refine ⟨fun _ _ due => (nomatch due), ?_, fun unbroken => absurd rfl unbroken⟩
    rw [outcomes_append]
    exact (List.append_nil _).symm ▸ staged.told
  have script := script_take answers history t event due brings whole
    (staged.script (working_of_due brings).2)
  rcases take_cases watcher t event brings with
    ⟨u, q, same, handed⟩ | ⟨u, snapshot, same, handed⟩ | ⟨u, attempt, delay, same, handed⟩ |
    ⟨broke, _⟩
  · rw [← handed.answers] at script
    exact same ▸ staged_query answers _ u q handed.phase script
  · rw [← handed.answers] at script
    exact same ▸ staged_push answers _ u snapshot handed.phase script
  · rw [← handed.answers] at script
    exact same ▸ staged_wait answers _ u attempt delay handed.phase script
  · exact absurd broke whole

theorem sink_perform (t : Timeline) (action : Action) : (t.perform action).sink <:+ t.sink := by
  unfold perform
  cases action with
  | log event => exact List.suffix_refl _
  | wait attempt delay => exact List.suffix_refl _
  | query q => dsimp only; split <;> exact List.suffix_refl _
  | push snapshot =>
      dsimp only
      split
      · exact List.suffix_refl _
      all_goals
        rename_i left
        exact left ▸ List.suffix_cons _ _

theorem answers_perform (t : Timeline) (action : Action) :
    (t.perform action).answers <:+ t.answers := by
  unfold perform
  cases action with
  | log event => exact List.suffix_refl _
  | wait attempt delay => exact List.suffix_refl _
  | push snapshot => dsimp only; split <;> exact List.suffix_refl _
  | query q =>
      dsimp only
      split
      · exact List.suffix_refl _
      all_goals
        rename_i left
        exact left ▸ List.suffix_cons _ _

theorem push_broke (t : Timeline) (snapshot : AddressSet) (time : Nat)
    (due : (t.perform (.push snapshot)).due = some (time, .broke)) : .breaks ∈ t.sink := by
  unfold perform at due
  cases left : t.sink with
  | nil => rw [left] at due; cases due
  | cons ended rest =>
      rw [left] at due
      cases ended with
      | never => cases due
      | after delay result => cases due
      | breaks => exact List.mem_cons_self

theorem push_blocked (t : Timeline) (snapshot : AddressSet)
    (undue : (t.perform (.push snapshot)).due = none) : .never ∈ t.sink := by
  unfold perform at undue
  cases left : t.sink with
  | nil => rw [left] at undue; cases undue
  | cons ended rest =>
      rw [left] at undue
      cases ended with
      | never => exact List.mem_cons_self
      | after delay result => cases undue
      | breaks => cases undue

theorem query_broke (t : Timeline) (q : HealthQuery) (time : Nat)
    (due : (t.perform (.query q)).due = some (time, .broke)) :
    ∃ delay, .breaks delay ∈ t.answers := by
  unfold perform at due
  cases left : t.answers with
  | nil => rw [left] at due; cases due
  | cons answer rest =>
      rw [left] at due
      cases answer with
      | never => cases due
      | after delay outcome => cases due
      | breaks delay => exact ⟨delay, List.mem_cons_self⟩

theorem query_unanswered (t : Timeline) (q : HealthQuery)
    (undue : (t.perform (.query q)).due = none) :
    .never ∈ t.answers ∨ (t.perform (.query q)).answers = [] := by
  unfold perform at undue ⊢
  cases left : t.answers with
  | nil => exact .inr rfl
  | cons answer rest =>
      rw [left] at undue
      cases answer with
      | never => exact .inl List.mem_cons_self
      | after delay outcome => cases undue
      | breaks delay => cases undue

structure Sound (t : Timeline) : Prop where
  answers : ∀ delay, .breaks delay ∉ t.answers
  sink : .breaks ∉ t.sink
  due : ∀ time, t.due ≠ some (time, .broke)
  phase : t.run.phase ≠ .broken

theorem sound_take (watcher : Watcher) (t : Timeline) (event : Event) (sound : Sound t)
    (due : t.due = some (t.now, event)) (brings : t.run.phase ∈ event.phases) :
    Sound (t.take watcher event) := by
  obtain ⟨answers, sink, unbroken, _⟩ := sound
  rcases take_cases watcher t event brings with
    ⟨u, q, same, handed⟩ | ⟨u, snapshot, same, handed⟩ | ⟨u, attempt, delay, same, handed⟩ |
    ⟨broke, _⟩
  · rw [← handed.sink] at sink
    rw [← handed.answers] at answers
    rw [same]
    refine ⟨fun delay there => answers delay ((answers_perform u _).subset there),
      fun there => sink ((sink_perform u _).subset there), fun time broke => ?_,
      by rw [run_perform, handed.phase]; decide⟩
    obtain ⟨delay, there⟩ := query_broke u q time broke
    exact answers delay there
  · rw [← handed.sink] at sink
    rw [← handed.answers] at answers
    rw [same]
    exact ⟨fun delay there => answers delay ((answers_perform u _).subset there),
      fun there => sink ((sink_perform u _).subset there),
      fun time broke => sink (push_broke u snapshot time broke),
      by rw [run_perform, handed.phase]; decide⟩
  · rw [← handed.sink] at sink
    rw [← handed.answers] at answers
    rw [same]
    exact ⟨answers, sink, fun _ => nofun, by rw [run_perform, handed.phase]; decide⟩
  · exact absurd (broke ▸ due) (unbroken t.now)

structure Prompt (t : Timeline) : Prop where
  answers : .never ∉ t.answers
  sink : .never ∉ t.sink
  idle : t.due = none → t.answers = []

theorem prompt_take (watcher : Watcher) (t : Timeline) (event : Event) (prompt : Prompt t)
    (sound : Sound t) (due : t.due = some (t.now, event))
    (brings : t.run.phase ∈ event.phases) : Prompt (t.take watcher event) := by
  obtain ⟨answers, sink, _⟩ := prompt
  rcases take_cases watcher t event brings with
    ⟨u, q, same, handed⟩ | ⟨u, snapshot, same, handed⟩ | ⟨u, attempt, delay, same, handed⟩ |
    ⟨broke, _⟩
  · rw [← handed.sink] at sink
    rw [← handed.answers] at answers
    rw [same]
    exact ⟨fun there => answers ((answers_perform u _).subset there),
      fun there => sink ((sink_perform u _).subset there),
      fun undue => (query_unanswered u q undue).resolve_left answers⟩
  · rw [← handed.sink] at sink
    rw [← handed.answers] at answers
    rw [same]
    exact ⟨fun there => answers ((answers_perform u _).subset there),
      fun there => sink ((sink_perform u _).subset there),
      fun undue => absurd (push_blocked u snapshot undue) sink⟩
  · rw [← handed.sink] at sink
    rw [← handed.answers] at answers
    rw [same]
    exact ⟨answers, sink, nofun⟩
  · exact absurd (broke ▸ due) (sound.due t.now)

end Timeline

end ServiceDiscovery.Watcher
