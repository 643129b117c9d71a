import ServiceDiscovery.Proofs.Balance.Line

namespace ServiceDiscovery.Balance

open Watcher

def Push.full (timeout : Option Duration) (push : Push) : List Change :=
  diff timeout (replay push.base) push.snapshot

-- A push that has not ended is cut short only by the end of the loop, one that failed only by a
-- closed channel; in both cases its changes are an initial part of all that it was to send.
def Standing (full own : List Change) (isOpen : Bool) (phase : Phase) :
    Option (Except Failure Unit) → Prop
  | none => own <+: full ∧ (phase = .pushing ∨ phase = .stopped)
  | some (.ok ()) => own = full
  | some (.error f) => f = Sink.closedFailure ∧ isOpen = false ∧ own <+: full ∧ own ≠ full

structure Covers (timeout : Option Duration) (line : Line) (push : Push) (own : List Change) :
    Prop where
  based : ∀ address ∈ replay push.base, (uri? address).isSome
  current : push.snapshot = line.run.state.addresses
  accepted : line.feed.accepted = push.base ++ own
  standing : Standing (push.full timeout) own line.feed.sink.channel.isOpen line.run.phase
    push.ended
  rest : ∀ pending, line.feed.pending = some pending →
    push.ended = none ∧
    own ++ pending.filterMap (Difference.change? timeout) = push.full timeout

-- Every push of the loop reaches the sink, and every result of the sink the loop.
structure Recorded (line : Line) : Prop where
  begun : line.pushes.map Push.snapshot = pushed line.actions
  heard : line.pushes.filterMap Push.ended = ends line.history
  past : ∀ push ∈ line.earlier, push.ended.isSome
  underway : line.run.phase = .pushing → ∃ push, line.push = some push ∧ push.ended = none

structure Aligned (watcher : Watcher) (capacity : Nat) (timeout : Option Duration) (line : Line) :
    Prop where
  booked : Booked watcher line.history line.run line.actions
  tracked : Tracked line.feed
  built : Built capacity timeout line.feed
  recorded : Recorded line
  busy : line.feed.pending.isSome ↔ line.run.phase = .pushing
  covers : ∀ push, line.push = some push → ∃ own, Covers timeout line push own

section

variable {full own : List Change} {isOpen : Bool} {phase : Phase}
  {ended : Option (Except Failure Unit)}

theorem standing_phase (next : Phase) (standing : Standing full own isOpen phase ended)
    (held : phase = .pushing ∨ phase = .stopped → next = .pushing ∨ next = .stopped) :
    Standing full own isOpen next ended := by
  cases ended with
  | none => exact ⟨standing.1, held standing.2⟩
  | some result => cases result <;> exact standing

theorem standing_drop (standing : Standing full own isOpen phase ended) :
    Standing full own false phase ended := by
  cases ended with
  | none => exact standing
  | some result =>
      cases result with
      | ok _ => exact standing
      | error _ => exact ⟨standing.1, rfl, standing.2.2⟩

theorem standing_over (standing : Standing full own isOpen phase ended)
    (unpushing : phase ≠ .pushing) (unstopped : phase ≠ .stopped) : ended.isSome := by
  cases ended with
  | none => exact absurd standing.2 (not_or.mpr ⟨unpushing, unstopped⟩)
  | some result => rfl

end

theorem recorded_feed {line : Line} (feed : Feed) (recorded : Recorded line) :
    Recorded { line with feed } :=
  ⟨recorded.begun, recorded.heard, recorded.past, recorded.underway⟩

theorem aligned_start (watcher : Watcher) (capacity : Nat) (timeout : Option Duration) :
    Aligned watcher capacity timeout (.start capacity timeout) where
  booked := booked_initial watcher
  tracked := tracked_create capacity timeout
  built := built_create capacity timeout
  recorded := ⟨rfl, rfl, nofun, nofun⟩
  busy := (by decide : (none : Option (List Difference)).isSome ↔ Phase.ready = .pushing)
  covers := nofun

section

variable {watcher : Watcher} {capacity : Nat} {timeout : Option Duration} {line : Line}

theorem free_of_unpushing (aligned : Aligned watcher capacity timeout line)
    (unpushing : line.run.phase ≠ .pushing) : line.feed.pending = none := by
  have busy := aligned.busy
  cases pending : line.feed.pending with
  | none => rfl
  | some rest => exact absurd (busy.mp (by rw [pending]; rfl)) unpushing

theorem recorded_answer (response : HealthResponse)
    (aligned : Aligned watcher capacity timeout line) (querying : line.run.phase = .querying) :
    Recorded (line.take watcher (.answered (.ok response))) := by
  obtain ⟨begun, heard, past, _⟩ := aligned.recorded
  rw [take_answer watcher line response querying]
  refine ⟨?_, ?_, fun push there => ?_, fun _ => ⟨_, rfl, rfl⟩⟩
  · rw [Line.pushes, List.map_append, begun, pushed_append]
    simp [Run.step, querying, Action.push?, WatchState.apply]
  · rw [Line.pushes, List.filterMap_append, heard, ends_append]
    rfl
  · rcases List.mem_append.mp there with before | last
    · exact past push before
    · obtain ⟨own, covers⟩ := aligned.covers push (Option.mem_toList.mp last)
      exact standing_over covers.standing (by rw [querying]; decide) (by rw [querying]; decide)

theorem aligned_answer (response : HealthResponse)
    (aligned : Aligned watcher capacity timeout line) (querying : line.run.phase = .querying) :
    Aligned watcher capacity timeout (line.take watcher (.answered (.ok response))) := by
  have free := free_of_unpushing aligned (by rw [querying]; decide)
  have run : (line.run.step watcher (.answered (.ok response))).1 =
      { line.run with
        state := line.run.state.apply watcher.config response
        failures := 0
        phase := .pushing } := by
    simp only [Run.step, if_pos querying]
  have booked := booked_step watcher line.history line.run line.actions (.answered (.ok response))
    aligned.booked (awaited_of_phase _ _ (List.mem_singleton.mpr querying))
  have tracked := tracked_step line.feed
    (.update (WatchState.accepted watcher.config response.entries)) aligned.tracked
  have built := built_step (.update (WatchState.accepted watcher.config response.entries))
    aligned.built
  have recorded := recorded_answer response aligned querying
  rw [step_update _ _ free] at tracked built
  rw [take_answer watcher line response querying, step_update _ _ free] at recorded ⊢
  refine ⟨booked, tracked, built, recorded, ?_, ?_⟩
  · rw [run]
    exact ⟨fun _ => rfl, fun _ => rfl⟩
  · intro push same
    cases same
    refine ⟨[], ?_, ?_, (List.append_nil _).symm, ?_, ?_⟩
    · rw [← aligned.tracked.replayed]
      exact aligned.tracked.dialled
    · rw [run]
      rfl
    · rw [run]
      exact ⟨List.nil_prefix, .inl rfl⟩
    · intro rest there
      cases there
      exact ⟨rfl, by rw [Push.full, diff, aligned.tracked.replayed, List.nil_append]⟩

theorem recorded_quiet (event : Event) (recorded : Recorded line)
    (unanswered : response? event = none) (unended : event.ended? = none)
    (idle : (line.run.step watcher event).1.phase ≠ .pushing) :
    Recorded { line with
      run := (line.run.step watcher event).1
      history := line.history ++ [event]
      actions := line.actions ++ (line.run.step watcher event).2 } := by
  obtain ⟨begun, heard, past, _⟩ := recorded
  refine ⟨?_, ?_, past, fun pushing => absurd pushing idle⟩
  · rw [pushed_append, (step_unanswered watcher line.run event unanswered).2, List.append_nil]
    exact begun
  · rw [ends_append, unended, Option.toList_none, List.append_nil]
    exact heard

theorem aligned_waited (event : Event) (aligned : Aligned watcher capacity timeout line)
    (unanswered : response? event = none)
    (due : line.run.phase ∈ event.phases) (unpushing : line.run.phase ≠ .pushing) :
    Aligned watcher capacity timeout (line.take watcher event) := by
  have free := free_of_unpushing aligned unpushing
  obtain ⟨idle, unended⟩ := step_waited watcher line.run event unanswered due unpushing
  have booked := booked_step watcher line.history line.run line.actions event aligned.booked
    (awaited_of_phase _ _ due)
  have state := (step_unanswered watcher line.run event unanswered).1
  rw [take_unanswered watcher line event unanswered]
  refine ⟨booked, aligned.tracked, aligned.built,
    recorded_quiet event aligned.recorded unanswered unended idle, ?_, ?_⟩
  · rw [free]
    exact ⟨nofun, fun pushing => absurd pushing idle⟩
  · intro push same
    obtain ⟨own, covers⟩ := aligned.covers push same
    refine ⟨own, covers.based, covers.current.trans (congrArg _ state.symm), covers.accepted,
      standing_phase _ covers.standing ?_, covers.rest⟩
    -- a push that has not ended would have the loop push still, or have stopped it
    rintro (pushing | stopped)
    · exact absurd pushing unpushing
    · exact absurd stopped (working_of_due due).1

theorem aligned_cancelled (aligned : Aligned watcher capacity timeout line)
    (working : line.run.phase ≠ .stopped ∧ line.run.phase ≠ .broken) :
    Aligned watcher capacity timeout
      { line.take watcher .cancelled with feed := line.feed.step .abandon } := by
  have booked := booked_step watcher line.history line.run line.actions .cancelled aligned.booked
    working
  have state := (step_unanswered watcher line.run .cancelled rfl).1
  have phase : (line.run.step watcher .cancelled).1.phase = .stopped := by
    rw [step_stops watcher line.run working.2]
  have idle : (line.run.step watcher .cancelled).1.phase ≠ .pushing := by
    rw [phase]
    decide
  have recorded := recorded_quiet .cancelled aligned.recorded rfl rfl idle
  rw [take_unanswered watcher line .cancelled rfl]
  refine ⟨booked, tracked_step line.feed .abandon aligned.tracked,
    built_step .abandon aligned.built, recorded_feed _ recorded, ?_, ?_⟩
  · exact ⟨nofun, fun pushing => absurd pushing idle⟩
  · intro push same
    obtain ⟨own, covers⟩ := aligned.covers push same
    exact ⟨own, covers.based, covers.current.trans (congrArg _ state.symm), covers.accepted,
      standing_phase _ covers.standing fun _ => .inr phase,
      fun _ there => absurd there.symm (Option.some_ne_none _)⟩

theorem recorded_ended (result : Except Failure Unit) (recorded : Recorded line)
    (pushing : line.run.phase = .pushing) : Recorded (line.ended watcher result) := by
  obtain ⟨begun, heard, past, underway⟩ := recorded
  obtain ⟨push, last, unended⟩ := underway pushing
  have phase := congrArg Run.phase (step_ended watcher line.run result pushing).1
  rw [Line.pushes, last] at begun heard
  rw [ended_eq, last]
  refine ⟨?_, ?_, past, fun still => ?_⟩
  · rw [pushed_append, (step_unanswered watcher line.run (.pushed result) rfl).2, List.append_nil,
      ← begun]
    simp [Line.pushes]
  · rw [ends_append, ← heard]
    simp [Line.pushes, unended, Event.ended?]
  · rw [phase] at still
    cases still

theorem aligned_ended (result : Except Failure Unit)
    (aligned : Aligned watcher capacity timeout line) (pushing : line.run.phase = .pushing)
    (standing : ∀ push own, Covers timeout line push own →
      Standing (push.full timeout) own line.feed.sink.channel.isOpen .querying (some result)) :
    Aligned watcher capacity timeout (line.ended watcher result) := by
  have booked := booked_step watcher line.history line.run line.actions (.pushed result)
    aligned.booked (awaited_of_phase _ _ (List.mem_singleton.mpr pushing))
  have state := (step_unanswered watcher line.run (.pushed result) rfl).1
  have phase := congrArg Run.phase (step_ended watcher line.run result pushing).1
  have recorded : Recorded (line.ended watcher result) :=
    recorded_ended result aligned.recorded pushing
  rw [ended_eq] at recorded ⊢
  refine ⟨booked, tracked_step line.feed .abandon aligned.tracked,
    built_step .abandon aligned.built, recorded, ?_, ?_⟩
  · rw [phase]
    exact (by decide : (none : Option (List Difference)).isSome ↔ Phase.querying = .pushing)
  · intro later same
    obtain ⟨push, before, rfl⟩ := Option.map_eq_some_iff.mp same
    obtain ⟨own, covers⟩ := aligned.covers push before
    refine ⟨own, covers.based, covers.current.trans (congrArg _ state.symm), covers.accepted, ?_,
      fun _ there => absurd there.symm (Option.some_ne_none _)⟩
    have stands := standing push own covers
    cases result <;> exact stands

-- The difference at the head is made up for or left out. Either way its change, if it has one,
-- moves from what is pending to what the push has sent, so that both still make up all of the push.
theorem aligned_rest (feed : Feed) (difference : Difference) (rest : List Difference)
    (aligned : Aligned watcher capacity timeout line) (tracked : Tracked feed)
    (built : Built capacity timeout feed)
    (next : line.feed.pending = some (difference :: rest)) (pending : feed.pending = some rest)
    (accepted : feed.accepted = line.feed.accepted ++ (difference.change? timeout).toList) :
    Aligned watcher capacity timeout { line with feed } := by
  have pushing : line.run.phase = .pushing := aligned.busy.mp (by rw [next]; rfl)
  refine ⟨aligned.booked, tracked, built, recorded_feed feed aligned.recorded, ?_, ?_⟩
  · rw [pending]
    exact ⟨fun _ => pushing, fun _ => rfl⟩
  · intro push same
    obtain ⟨own, covers⟩ := aligned.covers push same
    obtain ⟨unended, all⟩ := covers.rest _ next
    have all : own ++ (difference.change? timeout).toList ++
        rest.filterMap (Difference.change? timeout) = push.full timeout := by
      rw [← all, List.append_assoc, changes_cons]
    refine ⟨own ++ (difference.change? timeout).toList, covers.based, covers.current, ?_, ?_, ?_⟩
    · rw [accepted, covers.accepted, List.append_assoc]
    · rw [unended]
      exact ⟨⟨_, all⟩, .inl pushing⟩
    · intro left there
      cases pending.symm.trans there
      exact ⟨unended, all⟩

theorem aligned_proceed (aligned : Aligned watcher capacity timeout line) :
    Aligned watcher capacity timeout (line.step watcher .proceed) := by
  have proceeds := proceed_proceeds line.feed
  have tracked := tracked_step line.feed .proceed aligned.tracked
  have built := built_step .proceed aligned.built
  have timed := aligned.built.timed
  have pushing : ∀ rest, line.feed.pending = some rest → line.run.phase = .pushing :=
    fun rest there => aligned.busy.mp (by rw [there]; rfl)
  simp only [Line.step]
  simp only [Feed.step] at tracked built
  -- only a push that ends goes back to the loop; the other cases concern the sink alone
  generalize line.feed.proceed = next at proceeds tracked built ⊢
  obtain ⟨feed, result⟩ := next
  dsimp only at proceeds tracked built
  cases proceeds with
  | idle _ | full _ _ _ _ _ _ _ => exact aligned
  | done all =>
      refine aligned_ended (.ok ()) aligned (pushing _ all) fun push own covers => ?_
      exact (List.append_nil own).symm.trans (covers.rest _ all).2
  | skipped difference rest next unmade =>
      refine aligned_rest _ difference rest aligned tracked built next rfl ?_
      rw [timed] at unmade
      rw [unmade]
      exact (List.append_nil _).symm
  | closed difference rest change next makes shut =>
      refine aligned_ended (.error Sink.closedFailure) aligned (pushing _ next)
        fun push own covers => ?_
      have all := (covers.rest _ next).2
      rw [timed] at makes
      rw [List.filterMap_cons_some makes] at all
      refine ⟨rfl, shut, ⟨_, all⟩, fun same => ?_⟩
      rw [← same] at all
      exact absurd (List.append_right_eq_self.mp all) (List.cons_ne_nil _ _)
  | sent difference rest change next makes live room =>
      refine aligned_rest _ difference rest aligned tracked built next rfl ?_
      rw [timed] at makes
      rw [makes]
      rfl

theorem aligned_step (occurrence : Occurrence) (aligned : Aligned watcher capacity timeout line) :
    Aligned watcher capacity timeout (line.step watcher occurrence) := by
  cases occurrence with
  | brought event =>
      simp only [Line.step]
      split
      next awaited =>
        obtain ⟨due, unpushing⟩ := awaited
        cases answer : response? event with
        | none => exact aligned_waited event aligned answer due unpushing
        | some response =>
            obtain rfl := response?_eq_some event response answer
            exact aligned_answer response aligned (List.mem_singleton.mp due)
      next => exact aligned
  | cancelled =>
      simp only [Line.step]
      split
      next => exact aligned
      next working => exact aligned_cancelled aligned (not_or.mp working)
  | proceed => exact aligned_proceed aligned
  | receive n =>
      refine ⟨aligned.booked, tracked_step line.feed (.receive n) aligned.tracked,
        built_step (.receive n) aligned.built, recorded_feed _ aligned.recorded, aligned.busy,
        fun push same => ?_⟩
      obtain ⟨own, covers⟩ := aligned.covers push same
      exact ⟨own, covers.based, covers.current, covers.accepted, covers.standing, covers.rest⟩
  | drop =>
      refine ⟨aligned.booked, tracked_step line.feed .drop aligned.tracked,
        built_step .drop aligned.built, recorded_feed _ aligned.recorded, aligned.busy,
        fun push same => ?_⟩
      obtain ⟨own, covers⟩ := aligned.covers push same
      exact ⟨own, covers.based, covers.current, covers.accepted, standing_drop covers.standing,
        covers.rest⟩

theorem aligned_run (occurrences : List Occurrence)
    (aligned : Aligned watcher capacity timeout line) :
    Aligned watcher capacity timeout (occurrences.foldl (Line.step watcher) line) := by
  induction occurrences generalizing line with
  | nil => exact aligned
  | cons occurrence rest ih => exact ih (aligned_step occurrence aligned)

end

end ServiceDiscovery.Balance
