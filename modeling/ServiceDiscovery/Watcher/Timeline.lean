import ServiceDiscovery.Watcher

/-!
A watch loop on a clock of milliseconds, between a registry and a sink whose answers and delays are
known beforehand. Time passes only while the loop waits.
-/
namespace ServiceDiscovery.Watcher

-- What comes of a query: an answer after a delay, none ever, or after a delay the client breaks
-- down, or the policy over the failure that it is given.
inductive Answer where
  | after (delay : Nat) (answer : Except Failure HealthResponse)
  | never
  | breaks (delay : Nat)

inductive SinkEnd where
  | after (delay : Nat) (ended : Except Failure Unit)
  | never
  | breaks

structure Timeline where
  run : Run
  now : Nat
  due : Option (Nat × Event)
  answers : List Answer
  sink : List SinkEnd
  drained : Bool
  trace : List (Nat × Action)

namespace Timeline

def start (answers : List Answer) (sink : List SinkEnd) : Timeline :=
  ⟨.initial, 0, some (0, .started), answers, sink, false, []⟩

def millisFor (d : Duration) : Nat := (d.nanos + (10 ^ 6 - 1)) / 10 ^ 6

-- Does one action and notes when it will be over. A sink without further answers takes every push
-- at once.
def perform (t : Timeline) (action : Action) : Timeline :=
  let t := { t with trace := t.trace ++ [(t.now, action)] }
  match action with
  | .log _ => t
  | .wait _ delay => { t with due := some (t.now + millisFor delay, .woke) }
  | .push _ =>
    match t.sink with
    | [] => { t with due := some (t.now, .pushed (.ok ())) }
    | .after delay ended :: sink => { t with sink, due := some (t.now + delay, .pushed ended) }
    | .never :: sink => { t with sink, due := none }
    | .breaks :: sink => { t with sink, due := some (t.now, .broke) }
  | .query _ =>
    match t.answers with
    | [] => { t with drained := true, due := none }
    | .after delay answer :: answers =>
      { t with answers, due := some (t.now + delay, .answered answer) }
    | .never :: answers => { t with answers, due := none }
    | .breaks delay :: answers => { t with answers, due := some (t.now + delay, .broke) }

def take (watcher : Watcher) (t : Timeline) (event : Event) : Timeline :=
  let (run, actions) := t.run.step watcher event
  actions.foldl perform { t with run, due := none }

def weight (t : Timeline) : Nat :=
  2 * t.answers.length +
    match t.due with
    | none => 0
    | some (_, .answered _) => 2
    | some _ => 1

theorem perform_log (t : Timeline) (event : Log.Event) :
    (t.perform (.log event)).answers = t.answers ∧ (t.perform (.log event)).due = t.due := by
  simp [perform]

theorem foldl_perform_logs (events : List Log.Event) (t : Timeline) :
    ((events.map Action.log).foldl perform t).answers = t.answers ∧
      ((events.map Action.log).foldl perform t).due = t.due := by
  induction events generalizing t with
  | nil => simp
  | cons e rest ih => simp [ih, perform_log]

theorem weight_perform_query (t : Timeline) (q : HealthQuery) :
    (t.perform (.query q)).weight ≤ 2 * t.answers.length := by
  unfold perform weight
  cases t.answers with
  | nil => simp
  | cons a rest =>
    cases a with
    | after _ _ | never | breaks _ => simp only [List.length_cons]; omega

theorem weight_perform_push (t : Timeline) (set : AddressSet) :
    (t.perform (.push set)).weight ≤ 2 * t.answers.length + 1 := by
  unfold perform weight
  cases t.sink with
  | nil => simp
  | cons a rest => cases a <;> simp

theorem weight_perform_wait (t : Timeline) (attempt : Nat) (delay : Duration) :
    (t.perform (.wait attempt delay)).weight ≤ 2 * t.answers.length + 1 := by
  simp [perform, weight]

-- What is due is over once the loop has taken it.
theorem weight_take_lt (watcher : Watcher) (t : Timeline) (n now : Nat) (event : Event)
    (due : t.due = some (n, event)) : weight (take watcher { t with now } event) < weight t := by
  have start : 2 * t.answers.length < weight t := by
    cases event <;> simp [weight, due]
  cases event with
  | started =>
    simp only [take, Run.step, Run.ask]
    split
    · exact Nat.lt_of_le_of_lt (weight_perform_query _ _) (by simpa [perform] using start)
    · simpa [weight] using start
  | woke =>
    simp only [take, Run.step, Run.ask]
    split
    · exact Nat.lt_of_le_of_lt (weight_perform_query _ _) start
    · simpa [weight] using start
  | cancelled =>
    simp only [take, Run.step, Run.stop]
    split <;> simpa [weight, perform] using start
  | broke =>
    simp only [take, Run.step]
    split <;> simpa [weight] using start
  | pushed ended =>
    simp only [take, Run.step, Run.ask]
    split
    · simp only [List.foldl_append, List.foldl_cons, List.foldl_nil]
      exact Nat.lt_of_le_of_lt (weight_perform_query _ _)
        (by simpa only [foldl_perform_logs] using start)
    · simpa [weight] using start
  | answered answer =>
    have two : weight t = 2 * t.answers.length + 2 := by simp [weight, due]
    cases answer with
    | ok answer =>
      simp only [take, Run.step]
      split
      · simp only [List.foldl_append, List.foldl_cons, List.foldl_nil]
        exact Nat.lt_of_le_of_lt (weight_perform_push _ _)
          (by simp only [foldl_perform_logs]; omega)
      · simpa [weight] using start
    | error f =>
      simp only [take, Run.step]
      split
      · simp only [List.foldl_cons, List.foldl_nil]
        exact Nat.lt_of_le_of_lt (weight_perform_wait _ _ _)
          (by simp only [perform_log]; omega)
      · simpa [weight] using start

-- Lets all happen that is due by a time, or up to the moment at which the registry is asked more
-- than it has answers.
def advance (watcher : Watcher) (untilDrained : Bool) (limit : Nat) (t : Timeline) : Timeline :=
  if untilDrained ∧ t.drained then t
  else
    match _due : t.due with
    | some (n, event) =>
      if n ≤ limit then advance watcher untilDrained limit (take watcher { t with now := n } event)
      else { t with now := limit }
    | none => { t with now := limit }
termination_by t.weight
decreasing_by exact weight_take_lt watcher t _ n event _due

def cancel (watcher : Watcher) (t : Timeline) : Timeline := take watcher t .cancelled

end Timeline

end ServiceDiscovery.Watcher
