import ServiceDiscovery.Sink.Balance

namespace ServiceDiscovery.Balance

def replay (changes : List Change) : AddressSet := changes.foldl Change.apply .empty

-- The changes of a whole update. A new address that forms no endpoint never gets to the channel.
def diff (timeout : Option Duration) (applied snapshot : AddressSet) : List Change :=
  (Sink.differences applied snapshot).filterMap (Difference.change? timeout)

def dialable (set : AddressSet) : AddressSet :=
  ⟨set.toList.filter fun address => (uri? address).isSome, set.ascending.filter _⟩

-- The sink's lock is held exactly while something is pending. The accepted and the received
-- changes are records only: nothing that a sink does depends on them.
structure Feed where
  sink : Sink
  pending : Option (List Difference)
  accepted : List Change
  received : List Change

inductive Move where
  | update (snapshot : AddressSet)
  | proceed
  | abandon
  | receive (n : Nat)
  | drop

namespace Feed

def create (capacity : Nat) (timeout : Option Duration) : Feed :=
  ⟨.create capacity timeout, none, [], []⟩

-- One change at a time, so that an update can be abandoned, and its receiver lost, at any of them.
-- A change that the channel refuses has not been enqueued.
def proceed (feed : Feed) : Feed × Option (Except Failure Unit) :=
  match feed.pending with
  | none => (feed, none)
  | some [] => ({ feed with pending := none }, some (.ok ()))
  | some (difference :: rest) =>
    match feed.sink.attempt difference with
    | .sent sink change =>
      ({ feed with sink, pending := some rest, accepted := feed.accepted ++ [change] }, none)
    | .skipped _ => ({ feed with pending := some rest }, none)
    | .full => (feed, none)
    | .closed => ({ feed with pending := none }, some (.error Sink.closedFailure))

-- Other callers wait for the lock, so an update asked for meanwhile does not begin.
def step (feed : Feed) : Move → Feed
  | .update snapshot =>
    if feed.pending.isNone then
      { feed with pending := some (Sink.differences feed.sink.applied snapshot) }
    else feed
  | .proceed => feed.proceed.1
  | .abandon => { feed with pending := none }
  | .receive n =>
    let (taken, channel) := feed.sink.channel.take n
    { feed with sink := { feed.sink with channel }, received := feed.received ++ taken }
  | .drop => { feed with sink := { feed.sink with channel := feed.sink.channel.close } }

end Feed

theorem step_update (feed : Feed) (snapshot : AddressSet) (free : feed.pending = none) :
    feed.step (.update snapshot) =
      { feed with pending := some (Sink.differences feed.sink.applied snapshot) } := by
  simp only [Feed.step, free, Option.isNone_none, if_true]

theorem replay_append (changes : List Change) (change : Change) :
    replay (changes ++ [change]) = change.apply (replay changes) := by
  simp only [replay, List.foldl_append, List.foldl_cons, List.foldl_nil]

theorem mem_apply_of_ne (set : AddressSet) (timeout : Option Duration) (difference : Difference)
    (change : Change) (x : NetworkAddress) (makes : difference.change? timeout = some change)
    (other : x ≠ difference.address) : x ∈ change.apply set ↔ x ∈ set := by
  cases difference with
  | removed address =>
      cases makes
      exact AddressSet.mem_erase.trans (and_iff_left other)
  | added address =>
      obtain ⟨uri, _, rfl⟩ := Option.map_eq_some_iff.mp makes
      exact AddressSet.mem_insert.trans (or_iff_right other)

theorem mem_foldl_remove (list : List NetworkAddress) (set : AddressSet) (x : NetworkAddress) :
    x ∈ (list.map Change.remove).foldl Change.apply set ↔ x ∈ set ∧ x ∉ list := by
  induction list generalizing set with
  | nil => simp
  | cons address rest ih =>
      simp only [List.map_cons, List.foldl_cons, ih, Change.apply, AddressSet.mem_erase,
        List.mem_cons, not_or, and_assoc]

def insertions (timeout : Option Duration) (added : List NetworkAddress) : List Change :=
  added.filterMap fun address => Difference.change? timeout (.added address)

theorem mem_foldl_insert (timeout : Option Duration) (list : List NetworkAddress)
    (set : AddressSet) (x : NetworkAddress) :
    x ∈ (insertions timeout list).foldl Change.apply set ↔
      x ∈ set ∨ x ∈ list ∧ (uri? x).isSome := by
  induction list generalizing set with
  | nil => simp [insertions]
  | cons address rest ih =>
      rw [insertions] at ih ⊢
      cases uri : uri? address with
      | none =>
          rw [List.filterMap_cons_none (by rw [Difference.change?, uri]; rfl), ih, List.mem_cons]
          refine or_congr_right (and_congr_left fun forms => (or_iff_right ?_).symm)
          rintro rfl
          rw [uri] at forms
          cases forms
      | some found =>
          rw [List.filterMap_cons_some (by rw [Difference.change?, uri]; rfl), List.foldl_cons, ih,
            Change.apply, AddressSet.mem_insert, List.mem_cons]
          have forms : (uri? address).isSome := by rw [uri]; rfl
          grind

theorem mem_dialable (set : AddressSet) (x : NetworkAddress) :
    x ∈ dialable set ↔ x ∈ set ∧ (uri? x).isSome := by
  simp [dialable, AddressSet.mem_def]

theorem mem_removed (removed added : List NetworkAddress) (x : NetworkAddress) :
    .removed x ∈ removed.map Difference.removed ++ added.map Difference.added ↔ x ∈ removed := by
  simp

theorem mem_added (removed added : List NetworkAddress) (x : NetworkAddress) :
    .added x ∈ removed.map Difference.removed ++ added.map Difference.added ↔ x ∈ added := by
  simp

theorem changes_cons (timeout : Option Duration) (difference : Difference)
    (rest : List Difference) :
    (difference :: rest).filterMap (Difference.change? timeout) =
      (difference.change? timeout).toList ++ rest.filterMap (Difference.change? timeout) := by
  cases makes : difference.change? timeout with
  | none => exact List.filterMap_cons_none makes
  | some change => exact List.filterMap_cons_some makes

theorem diff_eq (timeout : Option Duration) (applied snapshot : AddressSet) :
    diff timeout applied snapshot = (applied.without snapshot).map .remove ++
      insertions timeout (snapshot.without applied) := by
  simp only [diff, Sink.differences, List.filterMap_append, List.filterMap_map]
  congr 1
  exact congrFun (List.filterMap_eq_map (f := Change.remove)) _

theorem foldl_diff (timeout : Option Duration) (applied snapshot : AddressSet)
    (dialled : ∀ address ∈ applied, (uri? address).isSome) :
    (diff timeout applied snapshot).foldl Change.apply applied = dialable snapshot := by
  apply AddressSet.ext_mem
  intro x
  rw [diff_eq, List.foldl_append, mem_foldl_insert, mem_foldl_remove, mem_dialable]
  simp only [AddressSet.mem_without]
  have known := dialled x
  grind

theorem attempt_skipped (sink : Sink) (difference : Difference)
    (unmade : difference.change? sink.connectTimeout = none) :
    ∃ log, sink.attempt difference = .skipped log := by
  rw [Sink.attempt, unmade]
  exact ⟨_, rfl⟩

theorem attempt_made (sink : Sink) (difference : Difference) (change : Change)
    (makes : difference.change? sink.connectTimeout = some change) :
    sink.attempt difference = sink.send change := by
  rw [Sink.attempt, makes]

theorem send_closed (sink : Sink) (change : Change) (shut : sink.channel.isOpen = false) :
    sink.send change = .closed := by
  simp [Sink.send, shut]

theorem send_full (sink : Sink) (change : Change) (live : sink.channel.isOpen)
    (room : sink.channel.capacity ≤ sink.channel.buffer.length) : sink.send change = .full := by
  simp [Sink.send, live, room]

def Sink.sent (sink : Sink) (change : Change) : Sink :=
  { sink with
    channel := { sink.channel with buffer := sink.channel.buffer ++ [change] }
    applied := change.apply sink.applied }

theorem send_sent (sink : Sink) (change : Change) (live : sink.channel.isOpen)
    (room : sink.channel.buffer.length < sink.channel.capacity) :
    sink.send change = .sent (sink.sent change) change := by
  simp [Sink.send, Sink.sent, live, Nat.not_le.mpr room]

inductive Proceeds (feed : Feed) : Feed → Option (Except Failure Unit) → Prop where
  | idle (free : feed.pending = none) : Proceeds feed feed none
  | done (all : feed.pending = some []) :
      Proceeds feed { feed with pending := none } (some (.ok ()))
  | skipped (difference : Difference) (rest : List Difference)
      (next : feed.pending = some (difference :: rest))
      (unmade : difference.change? feed.sink.connectTimeout = none) :
      Proceeds feed { feed with pending := some rest } none
  | closed (difference : Difference) (rest : List Difference) (change : Change)
      (next : feed.pending = some (difference :: rest))
      (makes : difference.change? feed.sink.connectTimeout = some change)
      (shut : feed.sink.channel.isOpen = false) :
      Proceeds feed { feed with pending := none } (some (.error Sink.closedFailure))
  | full (difference : Difference) (rest : List Difference) (change : Change)
      (next : feed.pending = some (difference :: rest))
      (makes : difference.change? feed.sink.connectTimeout = some change)
      (live : feed.sink.channel.isOpen)
      (room : feed.sink.channel.capacity ≤ feed.sink.channel.buffer.length) :
      Proceeds feed feed none
  | sent (difference : Difference) (rest : List Difference) (change : Change)
      (next : feed.pending = some (difference :: rest))
      (makes : difference.change? feed.sink.connectTimeout = some change)
      (live : feed.sink.channel.isOpen)
      (room : feed.sink.channel.buffer.length < feed.sink.channel.capacity) :
      Proceeds feed
        { feed with
          sink := feed.sink.sent change
          pending := some rest
          accepted := feed.accepted ++ [change] } none

theorem proceed_proceeds (feed : Feed) : Proceeds feed feed.proceed.1 feed.proceed.2 := by
  cases next : feed.pending with
  | none =>
      simp only [Feed.proceed, next]
      exact .idle next
  | some pending =>
      cases pending with
      | nil =>
          simp only [Feed.proceed, next]
          exact .done next
      | cons difference rest =>
          cases makes : difference.change? feed.sink.connectTimeout with
          | none =>
              obtain ⟨log, attempt⟩ := attempt_skipped feed.sink difference makes
              simp only [Feed.proceed, next, attempt]
              exact .skipped difference rest next makes
          | some change =>
              have attempt := attempt_made feed.sink difference change makes
              cases live : feed.sink.channel.isOpen with
              | false =>
                  simp only [Feed.proceed, next, attempt, send_closed feed.sink change live]
                  exact .closed difference rest change next makes live
              | true =>
                  by_cases room : feed.sink.channel.capacity ≤ feed.sink.channel.buffer.length
                  · simp only [Feed.proceed, next, attempt, send_full feed.sink change live room]
                    exact .full difference rest change next makes live room
                  · have room := Nat.lt_of_not_le room
                    simp only [Feed.proceed, next, attempt, send_sent feed.sink change live room]
                    exact .sent difference rest change next makes live room

theorem proceed_room (feed : Feed) (difference : Difference) (rest : List Difference)
    (busy : feed.pending = some (difference :: rest)) (live : feed.sink.channel.isOpen)
    (room : feed.sink.channel.buffer.length < feed.sink.channel.capacity) :
    ∃ next, feed.proceed = (next, none) ∧ next.pending = some rest ∧
      next.sink.channel.isOpen ∧
      next.accepted =
        feed.accepted ++ (difference.change? feed.sink.connectTimeout).toList := by
  cases makes : difference.change? feed.sink.connectTimeout with
  | none =>
      obtain ⟨log, attempt⟩ := attempt_skipped feed.sink difference makes
      refine ⟨{ feed with pending := some rest }, ?_, rfl, live, (List.append_nil _).symm⟩
      simp only [Feed.proceed, busy, attempt]
  | some change =>
      have attempt := (attempt_made _ _ _ makes).trans (send_sent _ change live room)
      refine ⟨{ feed with
        sink := feed.sink.sent change
        pending := some rest
        accepted := feed.accepted ++ [change] }, ?_, rfl, live, rfl⟩
      simp only [Feed.proceed, busy, attempt]

structure Built (capacity : Nat) (timeout : Option Duration) (feed : Feed) : Prop where
  sized : feed.sink.channel.capacity = capacity
  timed : feed.sink.connectTimeout = timeout
  bounded : feed.sink.channel.buffer.length ≤ capacity

section

variable {capacity : Nat} {timeout : Option Duration} {feed : Feed}

theorem built_create (capacity : Nat) (timeout : Option Duration) :
    Built capacity timeout (.create capacity timeout) := ⟨rfl, rfl, Nat.zero_le _⟩

theorem built_proceed (next : Feed) (result : Option (Except Failure Unit))
    (built : Built capacity timeout feed) (proceeds : Proceeds feed next result) :
    Built capacity timeout next := by
  obtain ⟨sized, timed, bounded⟩ := built
  cases proceeds with
  | sent difference rest change next makes live room =>
      refine ⟨sized, timed, ?_⟩
      rw [Sink.sent, List.length_append, ← sized]
      exact room
  | _ => exact ⟨sized, timed, bounded⟩

theorem built_step (move : Move) (built : Built capacity timeout feed) :
    Built capacity timeout (feed.step move) := by
  cases move with
  | proceed => exact built_proceed _ _ built (proceed_proceeds feed)
  | update snapshot =>
      rw [Feed.step]
      split <;> exact ⟨built.sized, built.timed, built.bounded⟩
  | abandon => exact ⟨built.sized, built.timed, built.bounded⟩
  | receive n =>
      refine ⟨built.sized, built.timed, Nat.le_trans ?_ built.bounded⟩
      exact (List.drop_sublist n feed.sink.channel.buffer).length_le
  | drop => exact ⟨built.sized, built.timed, Nat.zero_le _⟩

theorem built_moves (moves : List Move) (feed : Feed) (built : Built capacity timeout feed) :
    Built capacity timeout (moves.foldl Feed.step feed) := by
  induction moves generalizing feed with
  | nil => exact built
  | cons move rest ih => exact ih (feed.step move) (built_step move built)

end

-- The sink's own update is a run of single steps, up to the change that holds it up.
theorem resume_proceeds (pending : List Difference) (feed : Feed)
    (busy : feed.pending = some pending) :
    ∃ n, ((List.replicate n Move.proceed).foldl Feed.step feed).sink =
        (feed.sink.resume pending).sink ∧
      ((List.replicate n Move.proceed).foldl Feed.step feed).pending =
        if (feed.sink.resume pending).result.isSome then none
        else some (feed.sink.resume pending).pending := by
  induction pending generalizing feed with
  | nil =>
      refine ⟨1, ?_, ?_⟩ <;>
        simp [Feed.step, Feed.proceed, busy, Sink.resume]
  | cons difference rest ih =>
      cases attempt : feed.sink.attempt difference with
      | sent sink change =>
          have step : feed.step .proceed = { feed with
              sink, pending := some rest, accepted := feed.accepted ++ [change] } := by
            simp only [Feed.step, Feed.proceed, busy, attempt]
          obtain ⟨n, sinks, pendings⟩ := ih (feed.step .proceed) (by rw [step])
          rw [step] at sinks pendings
          refine ⟨n + 1, ?_, ?_⟩ <;>
            simp only [List.replicate_succ, List.foldl_cons, step, Sink.resume, attempt]
          · exact sinks
          · exact pendings
      | skipped log =>
          have step : feed.step .proceed = { feed with pending := some rest } := by
            simp only [Feed.step, Feed.proceed, busy, attempt]
          obtain ⟨n, sinks, pendings⟩ := ih (feed.step .proceed) (by rw [step])
          rw [step] at sinks pendings
          refine ⟨n + 1, ?_, ?_⟩ <;>
            simp only [List.replicate_succ, List.foldl_cons, step, Sink.resume, attempt]
          · exact sinks
          · exact pendings
      | full =>
          refine ⟨0, ?_, ?_⟩ <;> simp [Sink.resume, attempt, busy]
      | closed =>
          refine ⟨1, ?_, ?_⟩ <;>
            simp [Feed.step, Feed.proceed, busy, Sink.resume, attempt]

end ServiceDiscovery.Balance
