import ServiceDiscovery.Proofs.Balance.Alignment

namespace ServiceDiscovery.Balance

open Watcher

section

variable (watcher : Watcher)

theorem foldl_perform_feed (actions : List Action) (line : Line) :
    (actions.foldl Line.perform line).feed.sink = line.feed.sink ∧
    (actions.foldl Line.perform line).feed.accepted = line.feed.accepted := by
  induction actions generalizing line with
  | nil => exact ⟨rfl, rfl⟩
  | cons action rest ih =>
      rw [List.foldl_cons, (ih _).1, (ih _).2]
      cases action with
      | push snapshot =>
          simp only [Line.perform, Feed.step]
          split <;> exact ⟨rfl, rfl⟩
      | query _ | wait _ _ | log _ => exact ⟨rfl, rfl⟩

theorem closed_take (line : Line) (event : Event) (shut : line.feed.sink.channel.isOpen = false) :
    (line.take watcher event).feed.sink.channel.isOpen = false ∧
    (line.take watcher event).feed.accepted = line.feed.accepted := by
  obtain ⟨sink, accepted⟩ := foldl_perform_feed (line.run.step watcher event).2
    { line with
      run := (line.run.step watcher event).1
      history := line.history ++ [event]
      actions := line.actions ++ (line.run.step watcher event).2 }
  rw [Line.take, sink, accepted]
  exact ⟨shut, rfl⟩

theorem closed_step (line : Line) (occurrence : Occurrence)
    (shut : line.feed.sink.channel.isOpen = false) :
    (line.step watcher occurrence).feed.sink.channel.isOpen = false ∧
    (line.step watcher occurrence).feed.accepted = line.feed.accepted := by
  cases occurrence with
  | brought event =>
      simp only [Line.step]
      split
      · exact closed_take watcher line event shut
      · exact ⟨shut, rfl⟩
  | cancelled =>
      simp only [Line.step]
      split <;> exact ⟨shut, rfl⟩
  | proceed =>
      have proceeds := proceed_proceeds line.feed
      simp only [Line.step]
      generalize line.feed.proceed = next at proceeds ⊢
      obtain ⟨feed, result⟩ := next
      dsimp only at proceeds
      cases proceeds with
      | idle _ | full _ _ _ _ _ _ _ | skipped _ _ _ _ => exact ⟨shut, rfl⟩
      | done _ | closed _ _ _ _ _ _ => exact closed_take watcher _ _ shut
      | sent _ _ _ _ _ live _ => cases live.symm.trans shut
  | receive n => exact ⟨shut, rfl⟩
  | drop => exact ⟨rfl, rfl⟩

theorem closed_run (occurrences : List Occurrence) (line : Line)
    (shut : line.feed.sink.channel.isOpen = false) :
    (occurrences.foldl (Line.step watcher) line).feed.sink.channel.isOpen = false ∧
    (occurrences.foldl (Line.step watcher) line).feed.accepted = line.feed.accepted := by
  induction occurrences generalizing line with
  | nil => exact ⟨shut, rfl⟩
  | cons occurrence rest ih =>
      obtain ⟨shut, accepted⟩ := closed_step watcher line occurrence shut
      obtain ⟨still, same⟩ := ih _ shut
      exact ⟨still, same.trans accepted⟩

-- Nothing holds up a push into a closed channel: addresses that form no endpoint are passed over,
-- and the first other one ends it.
theorem closed_ends (pending : List Difference) (line : Line)
    (shut : line.feed.sink.channel.isOpen = false) (busy : line.feed.pending = some pending) :
    ∃ n, (List.replicate n .proceed).foldl (Line.step watcher) line =
      line.ended watcher
        (if pending.filterMap (Difference.change? line.feed.sink.connectTimeout) = [] then .ok ()
          else .error Sink.closedFailure) := by
  induction pending generalizing line with
  | nil =>
      refine ⟨1, ?_⟩
      simp only [List.replicate_one, List.foldl_cons, List.foldl_nil, Line.step, Feed.proceed, busy,
        List.filterMap_nil, if_true, Line.ended]
  | cons difference rest ih =>
      cases makes : difference.change? line.feed.sink.connectTimeout with
      | none =>
          obtain ⟨log, attempt⟩ := attempt_skipped line.feed.sink difference makes
          have step : line.step watcher .proceed =
              { line with feed := { line.feed with pending := some rest } } := by
            simp only [Line.step, Feed.proceed, busy, attempt]
          obtain ⟨n, last⟩ :=
            ih { line with feed := { line.feed with pending := some rest } } shut rfl
          refine ⟨n + 1, ?_⟩
          rw [List.replicate_succ, List.foldl_cons, step, last, List.filterMap_cons_none makes]
          rfl
      | some change =>
          have attempt : line.feed.sink.attempt difference = .closed :=
            (attempt_made _ _ _ makes).trans (send_closed _ _ shut)
          refine ⟨1, ?_⟩
          rw [List.filterMap_cons_some makes, if_neg (List.cons_ne_nil _ _)]
          simp only [List.replicate_one, List.foldl_cons, List.foldl_nil, Line.step, Feed.proceed,
            busy, attempt, Line.ended]

theorem open_ends {capacity : Nat} {timeout : Option Duration} (room : 0 < capacity)
    (pending : List Difference) (line : Line) (built : Built capacity timeout line.feed)
    (live : line.feed.sink.channel.isOpen) (busy : line.feed.pending = some pending)
    (takes : List Nat) (enough : takes.length = pending.length + 1)
    (some_each : ∀ k ∈ takes, 0 < k) :
    ∃ feed, feed.accepted =
        line.feed.accepted ++ pending.filterMap (Difference.change? timeout) ∧
      (takes.flatMap fun k => [.receive k, .proceed]).foldl (Line.step watcher) line =
        Line.ended watcher { line with feed } (.ok ()) := by
  induction pending generalizing line takes with
  | nil =>
      obtain ⟨k, rfl⟩ := List.length_eq_one_iff.mp enough
      refine ⟨line.feed.step (.receive k), (List.append_nil _).symm, ?_⟩
      simp only [List.flatMap_cons, List.flatMap_nil, List.append_nil, List.foldl_cons,
        List.foldl_nil, Line.step, Feed.step, Feed.proceed, busy, Line.ended]
  | cons difference rest ih =>
      obtain ⟨k, takes, rfl⟩ := List.exists_cons_of_length_eq_add_one enough
      obtain ⟨positive, some_each⟩ := List.forall_mem_cons.mp some_each
      have received := built_step (.receive k) built
      have fits : (line.feed.step (.receive k)).sink.channel.buffer.length <
          (line.feed.step (.receive k)).sink.channel.capacity := by
        have bounded := built.bounded
        rw [received.sized, Feed.step, Channel.take, List.length_drop]
        omega
      obtain ⟨feed, step, left, still, accepted⟩ :=
        proceed_room (line.feed.step (.receive k)) difference rest busy live fits
      have next : (line.step watcher (.receive k)).step watcher .proceed = { line with feed } := by
        simp only [Line.step, step]
      have fed : (line.feed.step (.receive k)).step .proceed = feed := congrArg Prod.fst step
      obtain ⟨last, sends, ends⟩ := ih { line with feed } (fed ▸ built_step .proceed received)
        still left takes (Nat.succ.inj enough) some_each
      refine ⟨last, ?_, ?_⟩
      · rw [sends, accepted, received.timed, List.append_assoc, ← changes_cons]
        rfl
      · rw [List.flatMap_cons, List.foldl_append, List.foldl_cons, List.foldl_cons,
          List.foldl_nil, next, ends]

end

-- A push that has ended, and a loop that goes on to its next query with the state that it had.
structure GoesOn (watcher : Watcher) (line : Line) (push : Push) (result : Except Failure Unit)
    (later : Line) : Prop where
  ended : later.push = some { push with ended := some result }
  runs : later.run = { line.run with phase := .querying }
  asks : asked later.actions = asked line.actions ++ [watcher.query line.run.state]

section

variable {watcher : Watcher} {capacity : Nat} {timeout : Option Duration} {line : Line}
  {push : Push}

theorem goes_on_ended (feed : Feed) (result : Except Failure Unit) (last : line.push = some push)
    (pushing : line.run.phase = .pushing) :
    GoesOn watcher line push result (Line.ended watcher { line with feed } result) := by
  obtain ⟨run, asks⟩ := step_ended watcher line.run result pushing
  rw [ended_eq]
  refine ⟨?_, run, ?_⟩
  · rw [last]
    rfl
  · rw [asked_append, asks]

theorem replay_full (own : List Change) (covers : Covers timeout line push own)
    (all : own = push.full timeout) :
    replay line.feed.accepted = dialable line.run.state.addresses :=
  calc replay line.feed.accepted
    _ = (push.full timeout).foldl Change.apply (replay push.base) := by
      rw [covers.accepted, all, replay, List.foldl_append, ← replay]
    _ = dialable push.snapshot := foldl_diff _ _ _ covers.based
    _ = dialable line.run.state.addresses := by rw [covers.current]

theorem ends_in_open (aligned : Aligned watcher capacity timeout line)
    (last : line.push = some push) (pushing : line.run.phase = .pushing) (room : 0 < capacity)
    (live : line.feed.sink.channel.isOpen) :
    ∃ n, ∀ takes : List Nat, takes.length = n → (∀ k ∈ takes, 0 < k) →
      let later := (takes.flatMap fun k => [.receive k, .proceed]).foldl (Line.step watcher) line
      GoesOn watcher line push (.ok ()) later ∧
        later.feed.accepted = push.base ++ push.full timeout := by
  obtain ⟨pending, busy⟩ := Option.isSome_iff_exists.mp (aligned.busy.mpr pushing)
  obtain ⟨own, covers⟩ := aligned.covers push last
  refine ⟨pending.length + 1, fun takes enough some_each => ?_⟩
  obtain ⟨feed, accepted, ends⟩ :=
    open_ends watcher room pending line aligned.built live busy takes enough some_each
  intro later
  rw [show later = _ from ends]
  refine ⟨goes_on_ended feed (.ok ()) last pushing, ?_⟩
  rw [ended_eq, ← (covers.rest pending busy).2, ← List.append_assoc, ← covers.accepted]
  exact accepted

theorem ends_in_closed (aligned : Aligned watcher capacity timeout line)
    (last : line.push = some push) (pushing : line.run.phase = .pushing)
    (shut : line.feed.sink.channel.isOpen = false) :
    ∃ n result, GoesOn watcher line push result
        ((List.replicate n .proceed).foldl (Line.step watcher) line) ∧
      (line.feed.accepted = push.base ++ push.full timeout → result = .ok ()) ∧
      (line.feed.accepted ≠ push.base ++ push.full timeout →
        result = .error (.ofReason .sinkUnavailable "balance channel closed")) := by
  obtain ⟨pending, busy⟩ := Option.isSome_iff_exists.mp (aligned.busy.mpr pushing)
  obtain ⟨own, covers⟩ := aligned.covers push last
  -- what is missing among the accepted changes is still pending
  have left : line.feed.accepted = push.base ++ push.full timeout ↔
      pending.filterMap (Difference.change? timeout) = [] := by
    rw [covers.accepted, List.append_cancel_left_eq, ← (covers.rest pending busy).2,
      List.self_eq_append_right]
  obtain ⟨n, same⟩ := closed_ends watcher pending line shut busy
  rw [aligned.built.timed] at same
  refine ⟨n, _, same ▸ goes_on_ended line.feed _ last pushing, fun all => ?_, fun missing => ?_⟩
  · exact if_pos (left.mp all)
  · exact if_neg (mt left.mpr missing)

end

/-- Whatever the registry answers, the consumer takes, and the moment at which it goes away, the
client breaks down or the loop is cancelled: every push of the loop reaches the sink, in order, and
its result the loop. Nothing is lost or doubled on the way to the consumer, a push that returns
leaves it with the dialable part of the watched addresses, one that is cut short with an initial
part of its changes. A push ends as long as the consumer takes, and also once it is gone; and the
loop heeds the registry's answers alone. -/
theorem delivery_end_to_end (watcher : Watcher) (capacity : Nat) (timeout : Option Duration)
    (occurrences : List Occurrence) :
    let line := occurrences.foldl (Line.step watcher) (.start capacity timeout)
    (line.feed.sink.channel.isOpen →
      line.feed.received ++ line.feed.sink.channel.buffer = line.feed.accepted) ∧
    line.feed.sink.channel.buffer.length ≤ capacity ∧
    (line.pushes.map Push.snapshot = pushed line.actions ∧
      line.pushes.filterMap Push.ended = ends line.history ∧
      (∀ push ∈ line.earlier, push.ended.isSome) ∧
      (line.run.phase = .pushing → ∃ push, line.push = some push ∧ push.ended = none)) ∧
    (∀ push, line.push = some push →
      push.snapshot = line.run.state.addresses ∧
      ∃ own, line.feed.accepted = push.base ++ own ∧
        (push.ended = none → own <+: push.full timeout ∧
          (line.run.phase = .pushing ∨ line.run.phase = .stopped)) ∧
        (push.ended = some (.ok ()) →
          own = push.full timeout ∧
          replay line.feed.accepted = dialable line.run.state.addresses) ∧
        (∀ failure, push.ended = some (.error failure) →
          failure = .ofReason .sinkUnavailable "balance channel closed" ∧
          line.feed.sink.channel.isOpen = false ∧
          own <+: push.full timeout ∧ own ≠ push.full timeout)) ∧
    line.run.state = settled watcher.config (responses (outcomes line.history)) ∧
    InTurn watcher (outcomes line.history) (asked line.actions) ∧
    (line.run.phase ≠ .broken →
      let stopped := line.step watcher .cancelled
      stopped.run = { line.run with phase := .stopped } ∧ stopped.push = line.push ∧
        stopped.feed.accepted = line.feed.accepted) ∧
    (∀ push, line.push = some push → line.run.phase = .pushing →
      0 < capacity → line.feed.sink.channel.isOpen →
      ∃ n, ∀ takes : List Nat, takes.length = n → (∀ k ∈ takes, 0 < k) →
        let later := (takes.flatMap fun k => [.receive k, .proceed]).foldl (Line.step watcher) line
        GoesOn watcher line push (.ok ()) later ∧
          later.feed.accepted = push.base ++ push.full timeout) ∧
    (line.feed.sink.channel.isOpen = false →
      (∀ more : List Occurrence,
        let later := more.foldl (Line.step watcher) line
        later.feed.sink.channel.isOpen = false ∧ later.feed.accepted = line.feed.accepted) ∧
      (∀ push, line.push = some push → line.run.phase = .pushing →
        ∃ n result, GoesOn watcher line push result
            ((List.replicate n .proceed).foldl (Line.step watcher) line) ∧
          (line.feed.accepted = push.base ++ push.full timeout → result = .ok ()) ∧
          (line.feed.accepted ≠ push.base ++ push.full timeout →
            result = .error (.ofReason .sinkUnavailable "balance channel closed")))) := by
  intro line
  have aligned : Aligned watcher capacity timeout line :=
    aligned_run occurrences (aligned_start watcher capacity timeout)
  obtain ⟨begun, heard, past, underway⟩ := aligned.recorded
  refine ⟨aligned.tracked.delivered, aligned.built.bounded, ⟨begun, heard, past, underway⟩, ?_,
    aligned.booked.settles, aligned.booked.inTurn, ?_, ?_, ?_⟩
  · intro push last
    obtain ⟨own, covers⟩ := aligned.covers push last
    have standing := covers.standing
    refine ⟨covers.current, own, covers.accepted, ?_, ?_, ?_⟩
    · intro unended
      rwa [unended] at standing
    · intro returned
      rw [returned] at standing
      exact ⟨standing, replay_full own covers standing⟩
    · intro failure failed
      rwa [failed] at standing
  · exact fun unbroken => cancelled_line watcher line unbroken
  · exact fun push last pushing room live => ends_in_open aligned last pushing room live
  · exact fun shut => ⟨fun more => closed_run watcher more line shut,
      fun push last pushing => ends_in_closed aligned last pushing shut⟩

-- A channel with one place: the first snapshot gets through, and of the second the first change,
-- before the loop is stopped, or the consumer goes away.
theorem delivery_through_one_place :
    let watcher : Watcher :=
      ⟨⟨"localhost", 8500, "svc", by decide, by decide⟩, .default, Backoff.fixed .zero⟩
    let entry (port : UInt16) : ServiceEntry :=
      ⟨"svc-1", "svc", "10.0.0.1", "", port, ["svc"], .passing⟩
    let insert (port : UInt16) (authority : String) : Change :=
      .insert ⟨"10.0.0.1", port⟩ ⟨⟨false, authority.toList, [], none⟩, none⟩
    let first : List Change := [insert 9000 "10.0.0.1:9000", insert 9001 "10.0.0.1:9001"]
    let push : Push := ⟨first, .ofList [⟨"10.0.0.1", 9001⟩, ⟨"10.0.0.1", 9002⟩], none⟩
    let occurrences : List Occurrence :=
      [.brought .started, .brought (.answered (.ok ⟨[entry 9000, entry 9001], 5⟩)), .proceed,
        .proceed, .receive 1, .proceed, .proceed,
        .brought (.answered (.ok ⟨[entry 9001, entry 9002], 6⟩)), .receive 1, .proceed]
    ∃ stopped dropped,
      stopped = (occurrences ++ [Occurrence.cancelled]).foldl (Line.step watcher) (.start 1 none) ∧
      dropped = (occurrences ++ [Occurrence.drop]).foldl (Line.step watcher) (.start 1 none) ∧
      stopped.run.phase = .stopped ∧ stopped.push = some push ∧
      stopped.feed.received = first ∧
      stopped.feed.accepted = first ++ [.remove ⟨"10.0.0.1", 9000⟩] ∧
      [.remove ⟨"10.0.0.1", 9000⟩] <+: push.full none ∧
      push.snapshot = stopped.run.state.addresses ∧
      stopped.pushes.map Push.snapshot = pushed stopped.actions ∧
      ends stopped.history = [.ok ()] ∧
      ∃ n, GoesOn watcher dropped push
        (.error (.ofReason .sinkUnavailable "balance channel closed"))
        ((List.replicate n .proceed).foldl (Line.step watcher) dropped) := by
  intro watcher entry insert first push occurrences
  obtain ⟨stopped, stops⟩ : ∃ stopped, stopped =
      (occurrences ++ [Occurrence.cancelled]).foldl (Line.step watcher) (.start 1 none) := ⟨_, rfl⟩
  obtain ⟨dropped, drops⟩ : ∃ dropped, dropped =
      (occurrences ++ [Occurrence.drop]).foldl (Line.step watcher) (.start 1 none) := ⟨_, rfl⟩
  have cut := delivery_end_to_end watcher 1 none (occurrences ++ [Occurrence.cancelled])
  have lost := delivery_end_to_end watcher 1 none (occurrences ++ [Occurrence.drop])
  dsimp only at cut lost
  rw [← stops] at cut
  rw [← drops] at lost
  obtain ⟨_, _, ⟨begun, heard, _⟩, parts, _⟩ := cut
  obtain ⟨_, _, _, _, _, _, _, _, closed⟩ := lost
  have last : stopped.push = some push := by rw [stops]; decide +kernel
  have accepted : stopped.feed.accepted = first ++ [.remove ⟨"10.0.0.1", 9000⟩] := by
    rw [stops]
    decide +kernel
  obtain ⟨current, own, sends, part, _⟩ := parts push last
  have own_eq : own = [.remove ⟨"10.0.0.1", 9000⟩] :=
    List.append_cancel_left (sends.symm.trans accepted)
  obtain ⟨_, ended⟩ := closed (by rw [drops]; decide +kernel)
  obtain ⟨n, result, onward, _, fails⟩ :=
    ended push (by rw [drops]; decide +kernel) (by rw [drops]; decide +kernel)
  rw [fails (by rw [drops]; decide +kernel)] at onward
  refine ⟨stopped, dropped, stops, drops, ?_, last, ?_, accepted, own_eq ▸ (part rfl).1, current,
    begun, ?_, n, onward⟩
  · rw [stops]
    decide +kernel
  · rw [stops]
    decide +kernel
  · rw [← heard, stops]
    decide +kernel

end ServiceDiscovery.Balance
