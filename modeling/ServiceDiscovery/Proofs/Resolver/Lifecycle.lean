import Mathlib.Data.List.Induction
import Mathlib.Data.List.TakeWhile
import ServiceDiscovery.Proofs.Watcher.Reached
import ServiceDiscovery.Resolver.Lifetime

namespace ServiceDiscovery

open Watcher

def isClosing (event : Log.Event) : Bool := event.message == "Resolver closed"

namespace Watcher

theorem step_quiet (watcher : Watcher) (run : Run) (event : Event) (log : Log.Event)
    (logged : .log log ∈ (run.step watcher event).2) : isClosing log = false := by
  have started : isClosing (Run.startLog watcher) = false := rfl
  have stopped (state : WatchState) : isClosing (Run.stopLog watcher state) = false := rfl
  cases event with
  | started =>
      by_cases ready : run.phase = .ready
      · simp only [Run.step, if_pos ready, Run.ask, List.mem_cons, Action.log.injEq, reduceCtorEq,
          List.not_mem_nil, or_false] at logged
        rw [logged, started]
      · simp [Run.step, ready] at logged
  | answered outcome =>
      by_cases querying : run.phase = .querying
      · cases outcome with
        | ok response =>
            simp only [Run.step, if_pos querying, List.mem_append, List.mem_map, Action.log.injEq,
              exists_eq_right, List.mem_singleton, reduceCtorEq, or_false] at logged
            simp only [WatchState.applyLogs, List.mem_append] at logged
            rcases logged with backwards | outcome
            · split at backwards
              · cases backwards
              · rw [List.mem_singleton.1 backwards]
                rfl
            · split at outcome
              · rw [List.mem_singleton.1 outcome]
                rfl
              · rw [List.mem_singleton.1 outcome]
                rfl
        | error failure =>
            simp only [Run.step, if_pos querying, List.mem_cons, Action.log.injEq, reduceCtorEq,
              List.not_mem_nil, or_false] at logged
            rw [logged]
            rfl
      · cases outcome with
        | ok response => simp [Run.step, querying] at logged
        | error failure => simp [Run.step, querying] at logged
  | pushed ended =>
      by_cases pushing : run.phase = .pushing
      · simp only [Run.step, if_pos pushing, Run.ask, List.mem_append, List.mem_map,
          Action.log.injEq, exists_eq_right, List.mem_singleton, reduceCtorEq, or_false] at logged
        cases ended with
        | ok _ => cases logged
        | error failure =>
            rw [List.mem_singleton.1 logged]
            rfl
      · simp [Run.step, pushing] at logged
  | woke =>
      by_cases waiting : run.phase = .waiting
      · simp [Run.step, waiting, Run.ask] at logged
      · simp [Run.step, waiting] at logged
  | cancelled =>
      cases phase : run.phase with
      | ready =>
          simp only [Run.step, phase, Run.stop, List.mem_cons, Action.log.injEq, List.not_mem_nil,
            or_false] at logged
          rcases logged with rfl | rfl
          · exact started
          · exact stopped run.state
      | querying | pushing | waiting =>
          simp only [Run.step, phase, Run.stop, List.mem_singleton, Action.log.injEq] at logged
          rw [logged]
          exact stopped run.state
      | stopped | broken => simp [Run.step, phase] at logged
  | broke =>
      by_cases working : run.phase = .querying ∨ run.phase = .pushing
      · simp [Run.step, working] at logged
      · simp [Run.step, working] at logged

namespace Timeline

def pass (t : Timeline) (now : Nat) : Timeline :=
  match t.due with
  | some (time, _) => { t with now := max t.now (min now time) }
  | none => { t with now := max t.now now }

def turn (watcher : Watcher) (t : Timeline) : Timeline :=
  match t.due with
  | some (time, event) => if time ≤ t.now then t.take watcher event else t
  | none => t

def logged (t : Timeline) : List Log.Event :=
  t.actions.filterMap fun
    | .log event => some event
    | _ => none

-- The run of a loop that is over, as far as anybody sees it afterwards.
structure Kept (t u : Timeline) : Prop where
  state : u.run.state = t.run.state
  broken : u.run.phase = .broken ↔ t.run.phase = .broken

theorem kept_of_run {t u : Timeline} (same : u.run = t.run) : Kept t u :=
  ⟨congrArg Run.state same, by rw [same]⟩

theorem kept_trans {t u v : Timeline} (first : Kept t u) (second : Kept u v) : Kept t v :=
  ⟨second.state.trans first.state, second.broken.trans first.broken⟩

def Quiet (t : Timeline) : Prop := ∀ log, .log log ∈ t.actions → isClosing log = false

theorem mem_logged {t : Timeline} {log : Log.Event} :
    log ∈ t.logged ↔ .log log ∈ t.actions := by
  simp only [logged, List.mem_filterMap]
  constructor
  · rintro ⟨action, there, known⟩
    cases action with
    | log event =>
        cases known
        exact there
    | _ => cases known
  · intro there
    exact ⟨_, there, rfl⟩

theorem pass_books (t : Timeline) (now : Nat) :
    (t.pass now).run = t.run ∧ (t.pass now).due = t.due ∧ (t.pass now).actions = t.actions := by
  unfold pass
  split
  · exact ⟨rfl, rfl, rfl⟩
  · exact ⟨rfl, rfl, rfl⟩

theorem quiet_take (watcher : Watcher) (t : Timeline) (event : Event) (quiet : t.Quiet) :
    (t.take watcher event).Quiet := by
  intro log there
  rw [actions_take, List.mem_append] at there
  rcases there with before | fresh
  · exact quiet log before
  · exact step_quiet watcher t.run event log fresh

theorem quiet_turn (watcher : Watcher) (t : Timeline) (quiet : t.Quiet) :
    (t.turn watcher).Quiet := by
  unfold turn
  split
  · split
    · exact quiet_take watcher t _ quiet
    · exact quiet
  · exact quiet

theorem quiet_advance (watcher : Watcher) (untilDrained : Bool) (limit : Nat) (t : Timeline)
    (quiet : t.Quiet) : (advance watcher untilDrained limit t).Quiet := by
  rw [advance]
  split
  · exact quiet
  · split
    · rename_i time event due
      split
      · have smaller := weight_take_lt watcher t time time event due
        exact quiet_advance watcher untilDrained limit _
          (quiet_take watcher { t with now := time } event quiet)
      · exact quiet
    · exact quiet
termination_by t.weight

theorem due_cancel (watcher : Watcher) (t : Timeline) : (t.cancel watcher).due = none := by
  rw [cancel, take]
  cases phase : t.run.phase <;> simp [Run.step, phase, Run.stop, perform]

theorem kept_cancel (watcher : Watcher) (t : Timeline) : Kept t (t.cancel watcher) := by
  rw [cancel]
  refine ⟨?_, ?_⟩
  · rw [run_take]
    cases phase : t.run.phase <;> simp [Run.step, phase, Run.stop]
  · rw [run_take]
    cases phase : t.run.phase <;> simp [Run.step, phase, Run.stop]

theorem run_advance_undue (watcher : Watcher) (untilDrained : Bool) (limit : Nat) (t : Timeline)
    (undue : t.due = none) : (advance watcher untilDrained limit t).run = t.run := by
  rw [advance]
  split
  · rfl
  · split
    · rename_i due
      rw [undue] at due
      cases due
    · rfl

end Timeline

end Watcher

namespace Resolver

theorem close_open (resolver : Resolver) (unclosed : resolver.state ≠ .closed) :
    resolver.close =
      ({ resolver with state := .closed, cancelled := true },
        [⟨.info, "Resolver closed", [resolver.serviceField]⟩]) := if_neg unclosed

theorem close_closed (resolver : Resolver) (closed : resolver.state = .closed) :
    resolver.close = (resolver, []) := if_pos closed

end Resolver

namespace Lifetime

-- A step of whoever owns the resolver; or time passes and the loop gets to run, for as little as
-- one event. A loop that is cancelled sees that before anything else.
inductive Move where
  | step (step : Step)
  | pass (now : Nat)
  | turn

namespace Move

def closes : Move → Bool
  | .step .close | .step .shutdown | .step .drop => true
  | _ => false

def ends : Move → Bool
  | .step .shutdown | .step .drop => true
  | _ => false

end Move

def move (life : Lifetime) : Move → Lifetime × List Log.Event
  | .step step => ((life.step step).1, (life.step step).2.2)
  | .pass now => ({ life with timeline := life.timeline.pass now }, [])
  | .turn =>
    ({ life with timeline :=
        if life.cancelled then life.timeline.cancel life.watcher
        else life.timeline.turn life.watcher }, [])

def course (watcher : Watcher) (answers : List Answer) (sink : List SinkEnd)
    (moves : List Move) : Lifetime × List Log.Event :=
  moves.foldl (fun past move => ((past.1.move move).1, past.2 ++ (past.1.move move).2))
    (start watcher answers sink)

def uptoClose (moves : List Move) : List Move := moves.takeWhile (!·.closes)

def resolverAfter (watcher : Watcher) (closed : Bool) : Resolver :=
  ⟨watcher.target, if closed then .closed else .watching, closed⟩

structure Stands (watcher : Watcher) (closed ended : Bool) (life : Lifetime)
    (logs : List Log.Event) : Prop where
  follows : life.watcher = watcher
  shut : ended = true → closed = true
  resolver : life.resolver = if ended then none else some (resolverAfter watcher closed)
  cancelled : life.cancelled = closed
  told : (logs.filter isClosing).length = if closed then 1 else 0
  quiet : life.timeline.Quiet

theorem course_append (watcher : Watcher) (answers : List Answer) (sink : List SinkEnd)
    (moves : List Move) (move : Move) :
    course watcher answers sink (moves ++ [move]) =
      (((course watcher answers sink moves).1.move move).1,
        (course watcher answers sink moves).2 ++
          ((course watcher answers sink moves).1.move move).2) := by
  rw [course, List.foldl_append]
  rfl

section

variable {watcher : Watcher} {closed ended : Bool} {life : Lifetime} {logs : List Log.Event}

theorem close_resolver_after (watcher : Watcher) (closed : Bool) :
    (resolverAfter watcher closed).close =
      (resolverAfter watcher true,
        if closed then []
        else [⟨.info, "Resolver closed", [(resolverAfter watcher closed).serviceField]⟩]) := by
  cases closed with
  | true => exact Resolver.close_closed _ rfl
  | false => exact Resolver.close_open _ nofun

theorem told_close (told : (logs.filter isClosing).length = if closed then 1 else 0) :
    ((logs ++ (resolverAfter watcher closed).close.2).filter isClosing).length = 1 := by
  rw [close_resolver_after]
  cases closed with
  | true => simpa using told
  | false =>
      rw [List.filter_append, List.length_append, told]
      rfl

theorem on_resolver_open (stands : Stands watcher closed false life logs)
    (change : Resolver → Resolver × List Log.Event) :
    life.onResolver change =
      ({ life with
          resolver := some (change (resolverAfter watcher closed)).1,
          cancelled := (change (resolverAfter watcher closed)).1.cancelled },
        (change (resolverAfter watcher closed)).2) := by
  have there : life.resolver = some (resolverAfter watcher closed) := stands.resolver
  rw [onResolver, there]

theorem on_resolver_gone (stands : Stands watcher closed true life logs)
    (change : Resolver → Resolver × List Log.Event) : life.onResolver change = (life, []) := by
  have gone : life.resolver = none := stands.resolver
  rw [onResolver, gone]

theorem resolve_now_stands (stands : Stands watcher closed ended life logs) :
    (life.step .resolveNow).1 = life := by
  cases ended with
  | true => simp only [step, on_resolver_gone stands]
  | false =>
      have there : life.resolver = some (resolverAfter watcher closed) := stands.resolver
      have token : life.cancelled = (resolverAfter watcher closed).cancelled := stands.cancelled
      simp only [step, on_resolver_open stands, Resolver.resolveNow, ← there, ← token]

theorem quiet_work (life : Lifetime) (untilDrained : Bool) (millis : Nat)
    (quiet : life.timeline.Quiet) : (life.work untilDrained millis).timeline.Quiet := by
  refine Timeline.quiet_advance _ _ _ _ ?_
  by_cases cancelled : life.cancelled = true
  · rw [if_pos cancelled]
    exact Timeline.quiet_take _ _ _ quiet
  · rw [if_neg cancelled]
    exact quiet

theorem kept_work (life : Lifetime) (untilDrained : Bool) (millis : Nat)
    (cancelled : life.cancelled = true) :
    Timeline.Kept life.timeline (life.work untilDrained millis).timeline := by
  have kept := Timeline.kept_cancel life.watcher life.timeline
  have same := Timeline.run_advance_undue life.watcher untilDrained (life.timeline.now + millis)
    (life.timeline.cancel life.watcher) (Timeline.due_cancel life.watcher life.timeline)
  simp only [work, cancelled, if_true]
  exact ⟨(congrArg Run.state same).trans kept.state, by rw [same]; exact kept.broken⟩

theorem closed_gone (stands : Stands watcher closed true life logs) :
    Stands watcher true true life logs := by
  have same := stands.shut rfl
  rw [same] at stands
  exact stands

theorem stands_working (stands : Stands watcher closed ended life logs) (t : Timeline)
    (quiet : t.Quiet) : Stands watcher closed ended { life with timeline := t } logs where
  follows := stands.follows
  shut := stands.shut
  resolver := stands.resolver
  cancelled := stands.cancelled
  told := stands.told
  quiet := quiet

theorem stands_resolve_now (stands : Stands watcher closed ended life logs) :
    Stands watcher closed ended (life.move (.step .resolveNow)).1
      (logs ++ (life.move (.step .resolveNow)).2) := by
  have same := resolve_now_stands stands
  have unclosing : (life.move (.step .resolveNow)).2.filter isClosing = [] := by
    cases ended with
    | true => simp only [move, step, on_resolver_gone stands, List.filter_nil]
    | false =>
        simp only [move, step, on_resolver_open stands, Resolver.resolveNow]
        rfl
  refine ⟨?_, stands.shut, ?_, ?_, ?_, ?_⟩
  · rw [move, same]
    exact stands.follows
  · rw [move, same]
    exact stands.resolver
  · rw [move, same]
    exact stands.cancelled
  · rw [List.filter_append, unclosing, List.append_nil]
    exact stands.told
  · rw [move, same]
    exact stands.quiet

theorem stands_close (stands : Stands watcher closed ended life logs) :
    Stands watcher true ended (life.onResolver Resolver.close).1
      (logs ++ (life.onResolver Resolver.close).2) := by
  cases ended with
  | true =>
      rw [on_resolver_gone stands, List.append_nil]
      exact closed_gone stands
  | false =>
      rw [on_resolver_open stands]
      refine ⟨stands.follows, fun _ => rfl, ?_, ?_, told_close stands.told, stands.quiet⟩
      · rw [close_resolver_after]
        rfl
      · rw [close_resolver_after]
        rfl

theorem stands_gone (stands : Stands watcher true ended life logs) :
    Stands watcher true true { life with resolver := none } logs where
  follows := stands.follows
  shut := fun _ => rfl
  resolver := rfl
  cancelled := stands.cancelled
  told := stands.told
  quiet := stands.quiet

theorem stands_shutdown (stands : Stands watcher closed ended life logs) :
    Stands watcher true true (life.move (.step .shutdown)).1
      (logs ++ (life.move (.step .shutdown)).2) := by
  cases ended with
  | true =>
      have gone : life.resolver = none := stands.resolver
      simp only [move, step, gone, List.append_nil]
      exact closed_gone stands
  | false =>
      have there : life.resolver = some (resolverAfter watcher closed) := stands.resolver
      simp only [move, step, there]
      have ended := stands_gone (stands_close stands)
      exact stands_working ended _ (Timeline.quiet_take _ _ _ ended.quiet)

theorem stands_move (stands : Stands watcher closed ended life logs) (m : Move) :
    Stands watcher (closed || m.closes) (ended || m.ends) (life.move m).1
      (logs ++ (life.move m).2) := by
  cases m with
  | pass now =>
      simp only [Move.closes, Move.ends, Bool.or_false, move, List.append_nil]
      refine stands_working stands _ fun log there => stands.quiet log ?_
      rwa [(Timeline.pass_books _ now).2.2] at there
  | turn =>
      simp only [Move.closes, Move.ends, Bool.or_false, move, List.append_nil]
      refine stands_working stands _ ?_
      by_cases cancelled : life.cancelled = true
      · rw [if_pos cancelled]
        exact Timeline.quiet_take _ _ _ stands.quiet
      · rw [if_neg cancelled]
        exact Timeline.quiet_turn _ _ stands.quiet
  | step s =>
      cases s with
      | resolveNow =>
          simp only [Move.closes, Move.ends, Bool.or_false]
          exact stands_resolve_now stands
      | close =>
          simp only [Move.closes, Move.ends, Bool.or_true, Bool.or_false]
          exact stands_close stands
      | advance millis =>
          simp only [Move.closes, Move.ends, Bool.or_false, move, step, List.append_nil]
          exact stands_working stands _ (quiet_work life false millis stands.quiet)
      | drained patience =>
          simp only [Move.closes, Move.ends, Bool.or_false, move, step, List.append_nil]
          by_cases drained : life.timeline.drained = true
          · rw [if_pos drained]
            exact stands_working stands _ stands.quiet
          · rw [if_neg drained]
            exact stands_working stands _ (quiet_work life true patience stands.quiet)
      | shutdown =>
          simp only [Move.closes, Move.ends, Bool.or_true]
          exact stands_shutdown stands
      | drop =>
          simp only [Move.closes, Move.ends, Bool.or_true]
          exact stands_gone (stands_close stands)

theorem stands_course (watcher : Watcher) (answers : List Answer) (sink : List SinkEnd)
    (moves : List Move) :
    Stands watcher (moves.any Move.closes) (moves.any Move.ends)
      (course watcher answers sink moves).1 (course watcher answers sink moves).2 := by
  induction moves using List.reverseRecOn with
  | nil => exact ⟨rfl, nofun, rfl, rfl, rfl, fun _ there => absurd there List.not_mem_nil⟩
  | append_singleton moves m ih =>
      rw [course_append, List.any_append, List.any_append]
      simpa using stands_move ih m

theorem timeline_on_resolver (life : Lifetime)
    (change : Resolver → Resolver × List Log.Event) :
    (life.onResolver change).1.timeline = life.timeline := by
  unfold onResolver
  split
  · rfl
  · rfl

theorem kept_move (life : Lifetime) (m : Move)
    (shut : life.cancelled = true ∨ m.closes = true) :
    Timeline.Kept life.timeline (life.move m).1.timeline := by
  cases m with
  | pass now => exact Timeline.kept_of_run (Timeline.pass_books life.timeline now).1
  | turn =>
      have cancelled : life.cancelled = true := shut.resolve_right (by simp [Move.closes])
      simp only [move, cancelled, if_true]
      exact Timeline.kept_cancel life.watcher life.timeline
  | step s =>
      cases s with
      | resolveNow =>
          simp only [move, step]
          exact Timeline.kept_of_run (congrArg Timeline.run (timeline_on_resolver life _))
      | close =>
          simp only [move, step]
          exact Timeline.kept_of_run (congrArg Timeline.run (timeline_on_resolver life _))
      | drop =>
          simp only [move, step]
          exact Timeline.kept_of_run (congrArg Timeline.run (timeline_on_resolver life _))
      | advance millis =>
          exact kept_work life false millis (shut.resolve_right (by simp [Move.closes]))
      | drained patience =>
          have cancelled : life.cancelled = true := shut.resolve_right (by simp [Move.closes])
          simp only [move, step]
          by_cases drained : life.timeline.drained = true
          · rw [if_pos drained]
            exact Timeline.kept_of_run rfl
          · rw [if_neg drained]
            exact Timeline.kept_trans (kept_work life true patience cancelled)
              (Timeline.kept_of_run rfl)
      | shutdown =>
          cases there : life.resolver with
          | none =>
              simp only [move, step, there]
              exact Timeline.kept_of_run rfl
          | some resolver =>
              simp only [move, step, there, timeline_on_resolver]
              exact Timeline.kept_cancel life.watcher life.timeline

theorem upto_close_open (moves : List Move) (unclosed : moves.any Move.closes = false) :
    uptoClose moves = moves := by
  refine List.takeWhile_eq_self_iff.2 fun m there => ?_
  rw [List.any_eq_false] at unclosed
  simpa using unclosed m there

theorem upto_close_snoc (moves : List Move) (m : Move)
    (shut : moves.any Move.closes = true ∨ m.closes = true) :
    uptoClose (moves ++ [m]) = uptoClose moves := by
  induction moves with
  | nil =>
      have closes : m.closes = true := shut.resolve_left (by simp)
      simp [uptoClose, closes]
  | cons head tail ih =>
      cases closes : head.closes with
      | true => simp [uptoClose, closes]
      | false =>
          have rest := ih (by simpa [closes] using shut)
          simpa [uptoClose, closes] using rest

theorem kept_course (watcher : Watcher) (answers : List Answer) (sink : List SinkEnd)
    (moves : List Move) :
    Timeline.Kept (course watcher answers sink (uptoClose moves)).1.timeline
      (course watcher answers sink moves).1.timeline := by
  induction moves using List.reverseRecOn with
  | nil => exact Timeline.kept_of_run rfl
  | append_singleton moves m ih =>
      by_cases shut : moves.any Move.closes = true ∨ m.closes = true
      · have token := (stands_course watcher answers sink moves).cancelled
        rw [upto_close_snoc moves m shut, course_append]
        exact Timeline.kept_trans ih (kept_move _ m (shut.imp_left token.trans))
      · have unclosed : (moves ++ [m]).any Move.closes = false := by
          simpa [not_or] using shut
        rw [upto_close_open _ unclosed]
        exact Timeline.kept_of_run rfl

theorem shutdown_ends (stands : Stands watcher closed false life logs) :
    (life.step .shutdown).2.1 =
      .ended (Resolver.finalState (life.timeline.cancel life.watcher).run) := by
  have there : life.resolver = some (resolverAfter watcher closed) := stands.resolver
  simp only [step, there, timeline_on_resolver]

theorem final_state_broken (run : Run) (broken : run.phase = .broken) :
    ∃ failure, Resolver.finalState run = .error failure ∧ failure.code = .internalError := by
  rw [Resolver.finalState, if_pos broken]
  exact ⟨_, rfl, rfl⟩

end

/-- Under any calls in any order, with the loop at work in between, a resolver is watching until it
is first closed and closed from then on, its token with it; it says so once, and hints change
nothing. Its loop ends with the state that it had when it was first told to. -/
theorem lifecycle (watcher : Watcher) (answers : List Answer) (sink : List SinkEnd)
    (moves : List Move) :
    let life := (course watcher answers sink moves).1
    let logs := (course watcher answers sink moves).2
    let closed := moves.any Move.closes
    let moment := (course watcher answers sink (uptoClose moves)).1.timeline.run
    (∀ resolver, life.resolver = some resolver →
      resolver.target = watcher.target ∧
      resolver.state = (if closed then .closed else .watching) ∧
      (life.cancelled = true ↔ resolver.state = .closed)) ∧
    (∀ more resolver later, life.resolver = some resolver →
      (course watcher answers sink (moves ++ more)).1.resolver = some later →
      resolver.state.stage ≤ later.state.stage) ∧
    life.cancelled = closed ∧
    (life.resolver = none ↔ moves.any Move.ends = true) ∧
    ((logs ++ life.timeline.logged).filter isClosing).length = (if closed then 1 else 0) ∧
    (life.step .resolveNow).1 = life ∧
    (moves.any Move.ends = false →
      (moment.phase ≠ .broken →
        (life.step .shutdown).2.1 = .ended (.ok moment.state)) ∧
      (moment.phase = .broken →
        ∃ failure, (life.step .shutdown).2.1 = .ended (.error failure) ∧
          failure.code = .internalError)) := by
  intro life logs closed moment
  have stands := stands_course watcher answers sink moves
  have observed (script : List Move) (resolver : Resolver)
      (there : (course watcher answers sink script).1.resolver = some resolver) :
      resolver = resolverAfter watcher (script.any Move.closes) := by
    have known := (stands_course watcher answers sink script).resolver
    rw [there] at known
    split at known
    · cases known
    · exact Option.some.inj known
  refine ⟨?_, ?_, stands.cancelled, ?_, ?_, resolve_now_stands stands, ?_⟩
  · intro resolver there
    rw [observed moves resolver there]
    refine ⟨rfl, rfl, ?_⟩
    rw [stands.cancelled, resolverAfter]
    cases moves.any Move.closes <;> simp
  · intro more resolver later there afterwards
    rw [observed moves resolver there, observed _ later afterwards, List.any_append]
    cases moves.any Move.closes <;> cases more.any Move.closes <;>
      simp [resolverAfter, ResolverState.stage]
  · rw [stands.resolver]
    cases moves.any Move.ends <;> simp
  · have unheard : life.timeline.logged.filter isClosing = [] := by
      rw [List.filter_eq_nil_iff]
      intro log there
      rw [stands.quiet log (Timeline.mem_logged.1 there)]
      decide
    rw [List.filter_append, unheard, List.append_nil]
    exact stands.told
  · intro unended
    rw [unended] at stands
    have kept := Timeline.kept_trans (kept_course watcher answers sink moves)
      (Timeline.kept_cancel life.watcher life.timeline)
    have ends := shutdown_ends stands
    refine ⟨fun working => ?_, fun broken => ?_⟩
    · rw [ends, Resolver.finalState, if_neg (mt kept.broken.1 working), kept.state]
    · rw [ends]
      obtain ⟨failure, fails, code⟩ := final_state_broken _ (kept.broken.2 broken)
      exact ⟨failure, congrArg Result.ended fails, code⟩

-- Closed twice while the second poll is in flight, then shut down; or before that the sink breaks
-- down over the first snapshot, or the client over the first query.
theorem lifecycle_of_three_loops :
    let watcher : Watcher :=
      ⟨⟨"localhost", 8500, "svc", by decide, by decide⟩, .default, Backoff.fixed .zero⟩
    let entry : ServiceEntry := ⟨"svc-1", "svc", "10.0.0.1", "", 9000, ["svc"], .passing⟩
    let answers : List Answer := [.after 2 (.ok ⟨[entry], 3⟩), .after 5 (.ok ⟨[], 4⟩)]
    let moves : List Move :=
      [.turn, .pass 2, .turn, .turn, .step .resolveNow, .step .close, .step .close, .pass 9, .turn]
    let after := fun answers sink => (course watcher answers sink moves).1
    moves.any Move.ends = false ∧
    ((after answers [.after 0 (.ok ())]).step .shutdown).2.1 =
      .ended (.ok ⟨3, .ofList [⟨"10.0.0.1", 9000⟩]⟩) ∧
    (∃ failure, ((after answers [.breaks]).step .shutdown).2.1 = .ended (.error failure) ∧
      failure.code = .internalError) ∧
    (∃ failure, ((after [.breaks 2] []).step .shutdown).2.1 = .ended (.error failure) ∧
      failure.code = .internalError) ∧
    ∃ resolver, (after [.breaks 2] []).resolver = some resolver ∧ resolver.state = .closed := by
  intro watcher entry answers moves after
  have unended : moves.any Move.ends = false := rfl
  obtain ⟨_, _, _, _, _, _, ends⟩ := lifecycle watcher answers [.after 0 (.ok ())] moves
  obtain ⟨_, _, _, _, _, _, unpushed⟩ := lifecycle watcher answers [.breaks] moves
  obtain ⟨observed, _, _, _, _, _, unasked⟩ := lifecycle watcher [.breaks 2] [] moves
  have there : (after [.breaks 2] []).resolver = some (resolverAfter watcher true) := rfl
  exact ⟨unended, (ends unended).1 (of_decide_eq_true rfl), (unpushed unended).2 rfl,
    (unasked unended).2 rfl, _, there, (observed _ there).2.1⟩

end Lifetime

end ServiceDiscovery
