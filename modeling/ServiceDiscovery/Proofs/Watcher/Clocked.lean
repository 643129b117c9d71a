import ServiceDiscovery.Proofs.Watcher.Reached

namespace ServiceDiscovery.Watcher

open Timeline

inductive Clocked (watcher : Watcher) (answers : List Answer) (sink : List SinkEnd) :
    List (Nat × Event) → Timeline → Prop where
  | start : Clocked watcher answers sink [] (.start answers sink)
  | passed {moments : List (Nat × Event)} {t : Timeline} (now : Nat)
      (before : Clocked watcher answers sink moments t) (forward : t.now ≤ now)
      (undue : ∀ time event, t.due = some (time, event) → now ≤ time) :
      Clocked watcher answers sink moments { t with now }
  | taken {moments : List (Nat × Event)} {t : Timeline} {event : Event}
      (before : Clocked watcher answers sink moments t) (due : t.due = some (t.now, event)) :
      Clocked watcher answers sink (moments ++ [(t.now, event)]) (t.take watcher event)

theorem clocked_reached (watcher : Watcher) (answers : List Answer) (sink : List SinkEnd)
    (moments : List (Nat × Event)) (t : Timeline)
    (clocked : Clocked watcher answers sink moments t) :
    Reached watcher answers sink (moments.map Prod.snd) t := by
  induction clocked with
  | start => exact .start
  | passed now _ forward undue ih => exact ih.passed now forward undue
  | taken _ due ih =>
      rw [List.map_append]
      exact ih.taken due

theorem clocked_next (watcher : Watcher) (answers : List Answer) (sink : List SinkEnd)
    (moments : List (Nat × Event)) (t : Timeline) (time : Nat) (event : Event)
    (clocked : Clocked watcher answers sink moments t) (due : t.due = some (time, event)) :
    Clocked watcher answers sink (moments ++ [(time, event)])
      (take watcher { t with now := time } event) := by
  have staged := reached_staged (clocked_reached watcher answers sink moments t clocked)
  have there := clocked.passed time (staged.brings time event due).1
    (undue_before t time time event due (Nat.le_refl _))
  exact there.taken due

theorem reached_clocked {watcher : Watcher} {answers : List Answer} {sink : List SinkEnd}
    {history : List Event} {t : Timeline} (reached : Reached watcher answers sink history t) :
    ∃ moments, Clocked watcher answers sink moments t := by
  induction reached with
  | start => exact ⟨[], .start⟩
  | passed now _ forward undue ih =>
      obtain ⟨moments, before⟩ := ih
      exact ⟨moments, before.passed now forward undue⟩
  | taken _ due ih =>
      obtain ⟨moments, before⟩ := ih
      exact ⟨_, before.taken due⟩

theorem now_advance (watcher : Watcher) (limit : Nat) (t : Timeline) :
    (advance watcher false limit t).now = limit := by
  rw [advance, if_neg (by simp)]
  split
  · rename_i time event due
    split
    · have smaller := weight_take_lt watcher t time time event due
      exact now_advance watcher limit (take watcher { t with now := time } event)
    · rfl
  · rfl
termination_by t.weight

abbrev Heard := List (Nat × Except Failure HealthResponse)

def heard (moments : List (Nat × Event)) : Heard :=
  moments.filterMap fun (time, event) => event.outcome?.map (time, ·)

def returned (moments : List (Nat × Event)) : List Nat :=
  moments.filterMap fun (time, event) => event.ended?.map fun _ => time

def asksAt (trace : List (Nat × Action)) : List Nat :=
  trace.filterMap fun (time, action) => action.query?.map fun _ => time

def Action.wait? : Action → Option (Nat × Duration)
  | .wait attempt delay => some (attempt, delay)
  | _ => none

def waited (actions : List Action) : List (Nat × Duration) := actions.filterMap Action.wait?

-- The consultations of the policy: when, with which number of failures, and the delay it gave.
def consultations (trace : List (Nat × Action)) : List (Nat × Nat × Duration) :=
  trace.filterMap fun (time, action) => action.wait?.map (time, ·)

@[simp] theorem heard_append (moments : List (Nat × Event)) (time : Nat) (event : Event) :
    heard (moments ++ [(time, event)]) =
      heard moments ++ (event.outcome?.map (time, ·)).toList := by
  cases event <;> simp [heard, Event.outcome?]

@[simp] theorem returned_append (moments : List (Nat × Event)) (time : Nat) (event : Event) :
    returned (moments ++ [(time, event)]) =
      returned moments ++ (event.ended?.map fun _ => time).toList := by
  cases event <;> simp [returned, Event.ended?]

@[simp] theorem asks_append (trace : List (Nat × Action)) (now : Nat) (actions : List Action) :
    asksAt (trace ++ actions.map (now, ·)) =
      asksAt trace ++ (asked actions).map fun _ => now := by
  rw [asksAt, asksAt, asked, List.filterMap_append, List.filterMap_map, List.map_filterMap]
  rfl

@[simp] theorem consultations_append (trace : List (Nat × Action)) (now : Nat)
    (actions : List Action) :
    consultations (trace ++ actions.map (now, ·)) =
      consultations trace ++ (waited actions).map (now, ·) := by
  rw [consultations, consultations, waited, List.filterMap_append, List.filterMap_map,
    List.map_filterMap]
  rfl

@[simp] theorem waited_append (a b : List Action) : waited (a ++ b) = waited a ++ waited b :=
  List.filterMap_append

@[simp] theorem waited_cons (action : Action) (rest : List Action) :
    waited (action :: rest) = action.wait?.toList ++ waited rest := by
  cases action <;> rfl

@[simp] theorem waited_nil : waited [] = [] := rfl

@[simp] theorem waited_logs (logs : List Log.Event) : waited (logs.map .log) = [] := by
  simp [waited, Action.wait?]

end ServiceDiscovery.Watcher
