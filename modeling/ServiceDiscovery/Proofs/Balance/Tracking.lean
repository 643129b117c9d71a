import ServiceDiscovery.Proofs.Balance.Feed

namespace ServiceDiscovery.Balance

def Fits (timeout : Option Duration) (set : AddressSet) : Change → Prop
  | .remove address => address ∈ set
  | .insert address endpoint =>
    address ∉ set ∧ uri? address = some endpoint.uri ∧ endpoint.connectTimeout = timeout

-- Each address is named once, so a change that is sent leaves the others as fresh as they were.
structure Fresh (applied : AddressSet) (pending : List Difference) : Prop where
  once : (pending.map Difference.address).Nodup
  removes : ∀ address, .removed address ∈ pending → address ∈ applied
  inserts : ∀ address, .added address ∈ pending → address ∉ applied

theorem fresh_differences (applied snapshot : AddressSet) :
    Fresh applied (Sink.differences applied snapshot) := by
  refine ⟨?_, ?_, ?_⟩
  · simp only [Sink.differences, List.map_append, List.map_map, Function.comp_def,
      Difference.address, List.map_id_fun']
    refine List.nodup_append.mpr ⟨(AddressSet.nodup_toList _).filter _,
      (AddressSet.nodup_toList _).filter _, fun a left b right same => ?_⟩
    subst same
    exact (AddressSet.mem_without.mp right).2 (AddressSet.mem_without.mp left).1
  · intro address there
    exact (AddressSet.mem_without.mp ((mem_removed _ _ address).mp there)).1
  · intro address there
    exact (AddressSet.mem_without.mp ((mem_added _ _ address).mp there)).2

theorem fresh_tail (applied : AddressSet) (difference : Difference) (rest : List Difference)
    (fresh : Fresh applied (difference :: rest)) : Fresh applied rest :=
  ⟨(List.nodup_cons.mp fresh.once).2, fun a there => fresh.removes a (List.mem_cons_of_mem _ there),
    fun a there => fresh.inserts a (List.mem_cons_of_mem _ there)⟩

section

variable {timeout : Option Duration} {difference : Difference} {change : Change}

theorem fresh_apply (applied : AddressSet) (rest : List Difference)
    (fresh : Fresh applied (difference :: rest))
    (makes : difference.change? timeout = some change) : Fresh (change.apply applied) rest := by
  obtain ⟨unnamed, once⟩ := List.nodup_cons.mp fresh.once
  obtain ⟨_, removes, inserts⟩ := fresh_tail applied difference rest fresh
  refine ⟨once, fun a there => ?_, fun a there => ?_⟩
  · have other : a ≠ difference.address := fun same =>
      unnamed (same ▸ List.mem_map_of_mem (f := Difference.address) there)
    exact (mem_apply_of_ne applied timeout difference change a makes other).mpr (removes a there)
  · have other : a ≠ difference.address := fun same =>
      unnamed (same ▸ List.mem_map_of_mem (f := Difference.address) there)
    exact fun member => inserts a there
      ((mem_apply_of_ne applied timeout difference change a makes other).mp member)

theorem fits_head (applied : AddressSet) (rest : List Difference)
    (fresh : Fresh applied (difference :: rest))
    (makes : difference.change? timeout = some change) : Fits timeout applied change := by
  cases difference with
  | removed address =>
      cases makes
      exact fresh.removes address List.mem_cons_self
  | added address =>
      obtain ⟨uri, forms, rfl⟩ := Option.map_eq_some_iff.mp makes
      exact ⟨fresh.inserts address List.mem_cons_self, forms, rfl⟩

theorem fresh_none (applied : AddressSet) (pending : List Difference)
    (there : (none : Option (List Difference)) = some pending) : Fresh applied pending := by
  cases there

-- Holds between any two changes, so an update cut short anywhere leaves the next one a sound base.
structure Tracked (feed : Feed) : Prop where
  replayed : feed.sink.applied = replay feed.accepted
  fits : ∀ before change after, feed.accepted = before ++ change :: after →
    Fits feed.sink.connectTimeout (replay before) change
  dialled : ∀ address ∈ feed.sink.applied, (uri? address).isSome
  fresh : ∀ pending, feed.pending = some pending → Fresh feed.sink.applied pending
  delivered : feed.sink.channel.isOpen → feed.received ++ feed.sink.channel.buffer = feed.accepted

theorem tracked_create (capacity : Nat) (timeout : Option Duration) :
    Tracked (.create capacity timeout) where
  replayed := rfl
  fits := by intro before change after same; simp [Feed.create] at same
  dialled := fun address member => absurd member (AddressSet.not_mem_empty address)
  fresh := fresh_none _
  delivered := fun _ => rfl

theorem fits_append (accepted : List Change) (change : Change)
    (fits : ∀ before c after, accepted = before ++ c :: after → Fits timeout (replay before) c)
    (next : Fits timeout (replay accepted) change) (before : List Change) (c : Change)
    (after : List Change) (same : accepted ++ [change] = before ++ c :: after) :
    Fits timeout (replay before) c := by
  -- the change in question is the new one, or an earlier one that fitted already
  rcases List.eq_nil_or_concat after with rfl | ⟨rest, last, rfl⟩
  · obtain ⟨front, back⟩ := List.append_inj' same rfl
    cases back
    exact front ▸ next
  · rw [List.concat_eq_append, ← List.cons_append, ← List.append_assoc] at same
    exact fits before c rest (List.append_inj' same rfl).1

theorem dialled_apply (set : AddressSet) (makes : difference.change? timeout = some change)
    (dialled : ∀ address ∈ set, (uri? address).isSome) :
    ∀ address ∈ change.apply set, (uri? address).isSome := by
  intro address member
  cases difference with
  | removed gone =>
      cases makes
      exact dialled address (AddressSet.mem_erase.mp member).1
  | added come =>
      obtain ⟨uri, forms, rfl⟩ := Option.map_eq_some_iff.mp makes
      rcases AddressSet.mem_insert.mp member with same | old
      · rw [same, forms]
        rfl
      · exact dialled address old

end

theorem tracked_proceed (feed next : Feed) (result : Option (Except Failure Unit))
    (tracked : Tracked feed) (proceeds : Proceeds feed next result) : Tracked next := by
  obtain ⟨replayed, fits, dialled, fresh, delivered⟩ := tracked
  cases proceeds with
  | idle free => exact ⟨replayed, fits, dialled, fresh, delivered⟩
  | done all => exact ⟨replayed, fits, dialled, fresh_none _, delivered⟩
  | skipped difference rest head unmade =>
      refine ⟨replayed, fits, dialled, fun pending same => ?_, delivered⟩
      cases same
      exact fresh_tail _ difference rest (fresh _ head)
  | closed difference rest change head makes shut =>
      exact ⟨replayed, fits, dialled, fresh_none _, delivered⟩
  | full difference rest change head makes live room =>
      exact ⟨replayed, fits, dialled, fresh, delivered⟩
  | sent difference rest change head makes live room =>
      have next := fits_head _ rest (fresh _ head) makes
      refine ⟨?_, fits_append _ change fits (replayed ▸ next),
        dialled_apply _ makes dialled, fun pending same => ?_, fun _ => ?_⟩
      · rw [replay_append, ← replayed]
        rfl
      · cases same
        exact fresh_apply _ rest (fresh _ head) makes
      · rw [← delivered live, List.append_assoc]
        rfl

theorem tracked_step (feed : Feed) (move : Move) (tracked : Tracked feed) :
    Tracked (feed.step move) := by
  obtain ⟨replayed, fits, dialled, fresh, delivered⟩ := tracked
  cases move with
  | update snapshot =>
      cases free : feed.pending with
      | none =>
          rw [step_update feed snapshot free]
          refine ⟨replayed, fits, dialled, fun pending same => ?_, delivered⟩
          cases same
          exact fresh_differences _ snapshot
      | some pending =>
          simp only [Feed.step, free, Option.isNone_some, Bool.false_eq_true, if_false]
          exact ⟨replayed, fits, dialled, fresh, delivered⟩
  | proceed =>
      exact tracked_proceed feed _ _ ⟨replayed, fits, dialled, fresh, delivered⟩
        (proceed_proceeds feed)
  | abandon => exact ⟨replayed, fits, dialled, fresh_none _, delivered⟩
  | receive n =>
      refine ⟨replayed, fits, dialled, fresh, fun live => ?_⟩
      simp only [Feed.step, Channel.take, List.append_assoc, List.take_append_drop]
      exact delivered live
  | drop => exact ⟨replayed, fits, dialled, fresh, fun live => absurd live Bool.false_ne_true⟩

theorem tracked_moves (moves : List Move) (feed : Feed) (tracked : Tracked feed) :
    Tracked (moves.foldl Feed.step feed) := by
  induction moves generalizing feed with
  | nil => exact tracked
  | cons move rest ih => exact ih (feed.step move) (tracked_step feed move tracked)

/-- Whatever updates, interruptions and losses went before: the sink's own set is what the changes
accepted so far make of the empty one, and each of them changed it. -/
theorem bookkeeping (capacity : Nat) (timeout : Option Duration) (moves : List Move) :
    let feed := moves.foldl Feed.step (.create capacity timeout)
    feed.sink.applied = replay feed.accepted ∧
    (∀ before address after, feed.accepted = before ++ .remove address :: after →
      address ∈ replay before) ∧
    (∀ before address endpoint after,
      feed.accepted = before ++ .insert address endpoint :: after → address ∉ replay before) ∧
    (∀ address ∈ feed.sink.applied, (uri? address).isSome) ∧
    (feed.sink.channel.isOpen → feed.received ++ feed.sink.channel.buffer = feed.accepted) ∧
    (∀ snapshot, feed.pending = none →
      ∃ more, ((moves ++ more).foldl Feed.step (.create capacity timeout)).sink =
        (feed.sink.update snapshot).sink) := by
  intro feed
  have tracked : Tracked feed := tracked_moves moves _ (tracked_create capacity timeout)
  refine ⟨tracked.replayed, ?_, ?_, tracked.dialled, tracked.delivered, ?_⟩
  · intro before address after same
    exact tracked.fits before (.remove address) after same
  · intro before address endpoint after same
    exact (tracked.fits before (.insert address endpoint) after same).1
  · intro snapshot free
    obtain ⟨n, same, _⟩ := resume_proceeds (Sink.differences feed.sink.applied snapshot)
      (feed.step (.update snapshot)) (by simp [Feed.step, free])
    refine ⟨.update snapshot :: List.replicate n .proceed, ?_⟩
    rw [List.foldl_append, List.foldl_cons, same]
    simp [Feed.step, free, Sink.update]

end ServiceDiscovery.Balance
