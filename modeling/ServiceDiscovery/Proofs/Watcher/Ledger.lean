import Mathlib.Data.List.Induction
import ServiceDiscovery.Watcher

namespace ServiceDiscovery.Watcher

def Event.outcome? : Event → Option (Except Failure HealthResponse)
  | .answered outcome => some outcome
  | _ => none

def Event.ended? : Event → Option (Except Failure Unit)
  | .pushed ended => some ended
  | _ => none

def Action.query? : Action → Option HealthQuery
  | .query asked => some asked
  | _ => none

def Action.push? : Action → Option AddressSet
  | .push snapshot => some snapshot
  | _ => none

def outcomes (history : List Event) : List (Except Failure HealthResponse) :=
  history.filterMap Event.outcome?

def ends (history : List Event) : List (Except Failure Unit) := history.filterMap Event.ended?

def asked (actions : List Action) : List HealthQuery := actions.filterMap Action.query?

def pushed (actions : List Action) : List AddressSet := actions.filterMap Action.push?

def responses (outcomes : List (Except Failure HealthResponse)) : List HealthResponse :=
  outcomes.filterMap Except.toOption

def highest (responses : List HealthResponse) : UInt64 :=
  (responses.map HealthResponse.index).max?.getD 0

def latest (config : WatchConfig) (responses : List HealthResponse) : AddressSet :=
  (responses.getLast?.map fun response => WatchState.accepted config response.entries).getD .empty

def settled (config : WatchConfig) (responses : List HealthResponse) : WatchState :=
  responses.foldl (WatchState.apply config) .initial

theorem highest_append (responses : List HealthResponse) (response : HealthResponse) :
    highest (responses ++ [response]) = max (highest responses) response.index := by
  cases responses with
  | nil => exact (if_pos (UInt64.zero_le (a := response.index))).symm
  | cons first rest =>
      simp only [highest, List.cons_append, List.map_cons, List.map_append, List.map_nil,
        List.max?_cons', List.foldl_append, List.foldl_cons, List.foldl_nil, Option.getD_some]

theorem settled_append (config : WatchConfig) (responses : List HealthResponse)
    (response : HealthResponse) :
    settled config (responses ++ [response]) =
      (settled config responses).apply config response := by
  simp only [settled, List.foldl_append, List.foldl_cons, List.foldl_nil]

theorem settled_eq (config : WatchConfig) (responses : List HealthResponse) :
    settled config responses = ⟨highest responses, latest config responses⟩ := by
  induction responses using List.reverseRecOn with
  | nil => rfl
  | append_singleton responses response ih =>
      have last : latest config (responses ++ [response]) =
          WatchState.accepted config response.entries := by
        simp only [latest, List.getLast?_append, List.getLast?_singleton, Option.some_or,
          Option.map_some, Option.getD_some]
      rw [settled_append, ih, highest_append, last]
      rfl

theorem responses_ok (outcomes : List (Except Failure HealthResponse)) (response : HealthResponse) :
    responses (outcomes ++ [.ok response]) = responses outcomes ++ [response] := by
  simp [responses, Except.toOption]

theorem responses_error (outcomes : List (Except Failure HealthResponse)) (failure : Failure) :
    responses (outcomes ++ [.error failure]) = responses outcomes := by
  simp [responses, Except.toOption]

@[simp] theorem outcomes_append (history : List Event) (event : Event) :
    outcomes (history ++ [event]) = outcomes history ++ event.outcome?.toList := by
  cases event <;> simp [outcomes, Event.outcome?]

@[simp] theorem ends_append (history : List Event) (event : Event) :
    ends (history ++ [event]) = ends history ++ event.ended?.toList := by
  cases event <;> simp [ends, Event.ended?]

@[simp] theorem asked_append (a b : List Action) : asked (a ++ b) = asked a ++ asked b :=
  List.filterMap_append

@[simp] theorem pushed_append (a b : List Action) : pushed (a ++ b) = pushed a ++ pushed b :=
  List.filterMap_append

@[simp] theorem asked_cons (action : Action) (rest : List Action) :
    asked (action :: rest) = action.query?.toList ++ asked rest := by
  cases action <;> rfl

@[simp] theorem pushed_cons (action : Action) (rest : List Action) :
    pushed (action :: rest) = action.push?.toList ++ pushed rest := by
  cases action <;> rfl

@[simp] theorem asked_nil : asked [] = [] := rfl

@[simp] theorem pushed_nil : pushed [] = [] := rfl

@[simp] theorem asked_logs (logs : List Log.Event) : asked (logs.map .log) = [] := by
  simp [asked, Action.query?]

@[simp] theorem pushed_logs (logs : List Log.Event) : pushed (logs.map .log) = [] := by
  simp [pushed, Action.push?]

theorem found_append {α : Type} {list : List α} {k : Nat} {a : α} (more : List α)
    (found : list[k]? = some a) : (list ++ more)[k]? = some a := by
  rw [List.getElem?_append_left (List.getElem?_eq_some_iff.1 found).1]
  exact found

theorem found_snoc {α : Type} {list : List α} {k : Nat} {last a : α}
    (found : (list ++ [last])[k]? = some a) :
    k < list.length ∧ list[k]? = some a ∨ k = list.length ∧ a = last := by
  rcases Nat.lt_trichotomy k list.length with before | same | beyond
  · rw [List.getElem?_append_left before] at found
    exact .inl ⟨before, found⟩
  · rw [same, List.getElem?_concat_length] at found
    exact .inr ⟨same, (Option.some.inj found).symm⟩
  · rw [List.getElem?_eq_none (by simp only [List.length_append, List.length_singleton]; omega)]
      at found
    cases found

-- The k-th query is made when k outcomes are known, failures among them.
def InTurn (watcher : Watcher) (outcomes : List (Except Failure HealthResponse))
    (queries : List HealthQuery) : Prop :=
  ∀ k query, queries[k]? = some query →
    query = watcher.query (settled watcher.config (responses (outcomes.take k)))

-- In each phase the books differ from even ones by what the loop waits for; a loop that has
-- stopped may have left either open.
def Owed (asked answered pushed ended : Nat) : Phase → Prop
  | .ready | .waiting => asked = answered ∧ pushed = ended
  | .querying => asked = answered + 1 ∧ pushed = ended
  | .pushing => asked = answered ∧ pushed = ended + 1
  | .stopped | .broken =>
    (asked = answered ∨ asked = answered + 1) ∧ (pushed = ended ∨ pushed = ended + 1)

structure Ledger (watcher : Watcher) (outcomes : List (Except Failure HealthResponse))
    (ends : List (Except Failure Unit)) (queries : List HealthQuery) (pushes : List AddressSet)
    (state : WatchState) (phase : Phase) : Prop where
  settles : state = settled watcher.config (responses outcomes)
  inTurn : InTurn watcher outcomes queries
  shown : pushes = (responses outcomes).map fun response =>
    WatchState.accepted watcher.config response.entries
  owed : Owed queries.length outcomes.length pushes.length ends.length phase

theorem owed_bounds (asked answered pushed ended : Nat) (phase : Phase)
    (owed : Owed asked answered pushed ended phase) :
    (asked = answered ∨ asked = answered + 1) ∧ (pushed = ended ∨ pushed = ended + 1) := by
  cases phase <;> simp only [Owed] at owed <;> omega

theorem in_turn_outcome (watcher : Watcher) (outcomes : List (Except Failure HealthResponse))
    (outcome : Except Failure HealthResponse) (queries : List HealthQuery)
    (inTurn : InTurn watcher outcomes queries) (few : queries.length ≤ outcomes.length + 1) :
    InTurn watcher (outcomes ++ [outcome]) queries := by
  intro k query found
  obtain ⟨inside, _⟩ := List.getElem?_eq_some_iff.mp found
  rw [List.take_append_of_le_length (by omega)]
  exact inTurn k query found

theorem in_turn_query (watcher : Watcher) (outcomes : List (Except Failure HealthResponse))
    (queries : List HealthQuery) (inTurn : InTurn watcher outcomes queries)
    (all : queries.length = outcomes.length) :
    InTurn watcher outcomes
      (queries ++ [watcher.query (settled watcher.config (responses outcomes))]) := by
  intro k query found
  rcases found_snoc found with ⟨_, earlier⟩ | ⟨rfl, same⟩
  · exact inTurn k query earlier
  · rw [all, List.take_length]
    exact same

section

variable {watcher : Watcher} {outcomes : List (Except Failure HealthResponse)}
  {ends : List (Except Failure Unit)} {queries : List HealthQuery} {pushes : List AddressSet}
  {state : WatchState} {phase : Phase}

theorem ledger_initial (watcher : Watcher) : Ledger watcher [] [] [] [] .initial .ready where
  settles := rfl
  inTurn := by simp [InTurn]
  shown := rfl
  owed := ⟨rfl, rfl⟩

theorem ledger_ask (ledger : Ledger watcher outcomes ends queries pushes state phase)
    (idle : phase = .ready ∨ phase = .waiting) :
    Ledger watcher outcomes ends (queries ++ [watcher.query state]) pushes state .querying := by
  obtain ⟨settles, inTurn, shown, owed⟩ := ledger
  have even : queries.length = outcomes.length ∧ pushes.length = ends.length := by
    rcases idle with rfl | rfl <;> exact owed
  refine ⟨settles, ?_, shown, ?_⟩
  · rw [settles]
    exact in_turn_query watcher outcomes queries inTurn even.1
  · rw [List.length_append]
    exact ⟨congrArg (· + 1) even.1, even.2⟩

theorem ledger_answer (response : HealthResponse)
    (ledger : Ledger watcher outcomes ends queries pushes state .querying) :
    Ledger watcher (outcomes ++ [.ok response]) ends queries
      (pushes ++ [WatchState.accepted watcher.config response.entries])
      (state.apply watcher.config response) .pushing := by
  obtain ⟨settles, inTurn, shown, answered, ended⟩ := ledger
  refine ⟨?_, in_turn_outcome watcher outcomes _ queries inTurn (Nat.le_of_eq answered), ?_, ?_⟩
  · rw [responses_ok, settled_append, settles]
  · rw [responses_ok, List.map_append, shown]
    rfl
  · rw [List.length_append, List.length_append]
    exact ⟨answered, congrArg (· + 1) ended⟩

theorem ledger_failure (failure : Failure)
    (ledger : Ledger watcher outcomes ends queries pushes state .querying) :
    Ledger watcher (outcomes ++ [.error failure]) ends queries pushes state .waiting := by
  obtain ⟨settles, inTurn, shown, answered, ended⟩ := ledger
  refine ⟨?_, in_turn_outcome watcher outcomes _ queries inTurn (Nat.le_of_eq answered), ?_, ?_⟩
  · rw [responses_error, settles]
  · rw [responses_error, shown]
  · rw [List.length_append]
    exact ⟨answered, ended⟩

theorem ledger_ended (result : Except Failure Unit)
    (ledger : Ledger watcher outcomes ends queries pushes state .pushing) :
    Ledger watcher outcomes (ends ++ [result]) queries pushes state .waiting := by
  obtain ⟨settles, inTurn, shown, answered, ended⟩ := ledger
  refine ⟨settles, inTurn, shown, ?_⟩
  rw [List.length_append]
  exact ⟨answered, ended⟩

theorem ledger_over (ledger : Ledger watcher outcomes ends queries pushes state phase)
    (last : Phase) (final : last = .stopped ∨ last = .broken) :
    Ledger watcher outcomes ends queries pushes state last := by
  refine ⟨ledger.settles, ledger.inTurn, ledger.shown, ?_⟩
  have bounds := owed_bounds _ _ _ _ _ ledger.owed
  rcases final with rfl | rfl <;> exact bounds

end

def Booked (watcher : Watcher) (history : List Event) (run : Run) (actions : List Action) : Prop :=
  Ledger watcher (outcomes history) (ends history) (asked actions) (pushed actions)
    run.state run.phase

-- Where an event comes of itself; a cancellation comes from outside, in any phase.
def Event.phases : Event → List Phase
  | .started => [.ready]
  | .answered _ => [.querying]
  | .pushed _ => [.pushing]
  | .broke => [.querying, .pushing]
  | .woke => [.waiting]
  | .cancelled => []

def Event.Awaited (event : Event) (phase : Phase) : Prop :=
  match event with
  | .cancelled => phase ≠ .stopped ∧ phase ≠ .broken
  | event => phase ∈ event.phases

theorem awaited_of_phase (event : Event) (phase : Phase) (due : phase ∈ event.phases) :
    event.Awaited phase := by
  cases event with
  | cancelled => cases due
  | _ => exact due

theorem working_of_due {event : Event} {phase : Phase} (due : phase ∈ event.phases) :
    phase ≠ .stopped ∧ phase ≠ .broken := by
  constructor <;> rintro rfl <;> cases event <;> simp [Event.phases] at due

theorem phase_of_broke (phase : Phase) (due : phase ∈ Event.broke.phases) :
    phase = .querying ∨ phase = .pushing := by
  simpa [Event.phases] using due

theorem booked_initial (watcher : Watcher) : Booked watcher [] .initial [] := ledger_initial watcher

theorem booked_step (watcher : Watcher) (history : List Event) (run : Run) (actions : List Action)
    (event : Event) (booked : Booked watcher history run actions)
    (awaited : event.Awaited run.phase) :
    Booked watcher (history ++ [event]) (run.step watcher event).1
      (actions ++ (run.step watcher event).2) := by
  unfold Booked at booked ⊢
  cases event with
  | started =>
      have ready : run.phase = .ready := List.mem_singleton.mp awaited
      simpa [Run.step, Run.ask, ready, Event.outcome?, Event.ended?, Action.query?, Action.push?]
        using ledger_ask booked (.inl ready)
  | answered outcome =>
      have querying : run.phase = .querying := List.mem_singleton.mp awaited
      rw [querying] at booked
      cases outcome with
      | ok response =>
          simpa [Run.step, querying, Event.outcome?, Event.ended?, Action.query?, Action.push?,
            WatchState.apply] using ledger_answer response booked
      | error failure =>
          simpa [Run.step, querying, Event.outcome?, Event.ended?, Action.query?, Action.push?]
            using ledger_failure failure booked
  | pushed result =>
      have pushing : run.phase = .pushing := List.mem_singleton.mp awaited
      rw [pushing] at booked
      simpa [Run.step, Run.ask, pushing, Event.outcome?, Event.ended?, Action.query?, Action.push?]
        using ledger_ask (ledger_ended result booked) (.inr rfl)
  | woke =>
      have waiting : run.phase = .waiting := List.mem_singleton.mp awaited
      simpa [Run.step, Run.ask, waiting, Event.outcome?, Event.ended?, Action.query?, Action.push?]
        using ledger_ask booked (.inr waiting)
  | cancelled =>
      obtain ⟨unstopped, unbroken⟩ : run.phase ≠ .stopped ∧ run.phase ≠ .broken := awaited
      have stopped := ledger_over booked .stopped (.inl rfl)
      cases phase : run.phase <;>
        simp only [phase, ne_eq, not_true_eq_false] at unstopped unbroken <;>
        simpa [Run.step, Run.stop, phase, Event.outcome?, Event.ended?, Action.query?,
          Action.push?] using stopped
  | broke =>
      have working := phase_of_broke run.phase awaited
      simpa [Run.step, working, Event.outcome?, Event.ended?] using
        ledger_over booked .broken (.inr rfl)

end ServiceDiscovery.Watcher
