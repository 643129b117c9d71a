import Mathlib.Data.List.Basic
import ServiceDiscovery.Proofs.Balance.Tracking

namespace ServiceDiscovery.Balance

-- The moves while an update is under way, up to the one with which it returns. The consumer may
-- receive and go away meanwhile, and other callers wait.
inductive Returns : Feed → List Move → Except Failure Unit → Feed → Prop where
  | now (feed : Feed) (result : Except Failure Unit) (ended : feed.proceed.2 = some result) :
      Returns feed [] result feed.proceed.1
  | later (feed : Feed) (move : Move) (moves : List Move) (result : Except Failure Unit)
      (last : Feed) (busy : (feed.step move).pending.isSome)
      (rest : Returns (feed.step move) moves result last) :
      Returns feed (move :: moves) result last

structure Updates (feed : Feed) (snapshot : AddressSet) (moves : List Move)
    (result : Except Failure Unit) (last : Feed) : Prop where
  free : feed.pending = none
  returns : Returns (feed.step (.update snapshot)) moves result last

theorem returns_last {feed last : Feed} {moves : List Move} {result : Except Failure Unit}
    (returns : Returns feed moves result last) :
    last = (moves ++ [Move.proceed]).foldl Feed.step feed := by
  induction returns with
  | now feed result ended => rfl
  | later feed move moves result last busy rest ih => exact ih

def Owes (sent full : List Change) (feed : Feed) : Prop :=
  ∀ pending, feed.pending = some pending →
    ∃ own, feed.accepted = sent ++ own ∧
      own ++ pending.filterMap (Difference.change? feed.sink.connectTimeout) = full

section

variable {sent full : List Change} {feed last : Feed}

theorem owes_step (move : Move) (owes : Owes sent full feed) (busy : feed.pending.isSome) :
    Owes sent full (feed.step move) := by
  cases move with
  | update snapshot =>
      have held : feed.pending.isNone = false := by
        cases pending : feed.pending with
        | none => rw [pending] at busy; cases busy
        | some _ => rfl
      rw [Feed.step, held]
      exact owes
  | abandon => exact fun _ there => absurd there.symm (Option.some_ne_none _)
  | receive n => exact owes
  | drop => exact owes
  | proceed =>
      have proceeds := proceed_proceeds feed
      simp only [Feed.step]
      generalize feed.proceed = next at proceeds ⊢
      obtain ⟨after, result⟩ := next
      dsimp only at proceeds ⊢
      cases proceeds with
      | idle _ | full _ _ _ _ _ _ _ => exact owes
      | done _ | closed _ _ _ _ _ _ =>
          exact fun _ there => absurd there.symm (Option.some_ne_none _)
      | skipped difference rest next unmade =>
          intro pending same
          cases same
          obtain ⟨own, accepted, sum⟩ := owes _ next
          rw [List.filterMap_cons_none unmade] at sum
          exact ⟨own, accepted, sum⟩
      | sent difference rest change next makes live room =>
          intro pending same
          cases same
          obtain ⟨own, accepted, sum⟩ := owes _ next
          rw [List.filterMap_cons_some makes] at sum
          refine ⟨own ++ [change], ?_, ?_⟩
          · rw [accepted, List.append_assoc]
          · rw [List.append_assoc]
            exact sum

theorem owes_returned {moves : List Move} {result : Except Failure Unit}
    (returns : Returns feed moves result last) (owes : Owes sent full feed)
    (busy : feed.pending.isSome) :
    ∃ own, last.accepted = sent ++ own ∧ own <+: full ∧ (result = .ok () ↔ own = full) := by
  induction returns with
  | now feed result ended =>
      have proceeds := proceed_proceeds feed
      rw [ended] at proceeds
      generalize feed.proceed.1 = after at proceeds ⊢
      cases proceeds with
      | done all =>
          obtain ⟨own, accepted, sum⟩ := owes _ all
          rw [List.filterMap_nil, List.append_nil] at sum
          exact ⟨own, accepted, sum ▸ List.prefix_rfl, fun _ => sum, fun _ => rfl⟩
      | closed difference rest change next makes shut =>
          obtain ⟨own, accepted, sum⟩ := owes _ next
          rw [List.filterMap_cons_some makes] at sum
          refine ⟨own, accepted, ⟨_, sum⟩, fun failed => ?_, fun same => ?_⟩
          · cases failed
          · rw [← same] at sum
            exact absurd (List.append_right_eq_self.1 sum) (List.cons_ne_nil _ _)
  | later feed move moves result last still rest ih =>
      exact ih (owes_step move owes busy) still

end

section

variable {feed last : Feed} {snapshot : AddressSet} {moves : List Move}
  {result : Except Failure Unit}

theorem owes_update (free : feed.pending = none) :
    Owes feed.accepted (diff feed.sink.connectTimeout feed.sink.applied snapshot)
      (feed.step (.update snapshot)) := by
  rw [step_update feed snapshot free]
  intro pending same
  cases same
  exact ⟨[], (List.append_nil _).symm, rfl⟩

theorem updated_accepted (updates : Updates feed snapshot moves result last) :
    ∃ own, last.accepted = feed.accepted ++ own ∧
      own <+: diff feed.sink.connectTimeout feed.sink.applied snapshot ∧
      (result = .ok () ↔ own = diff feed.sink.connectTimeout feed.sink.applied snapshot) := by
  refine owes_returned updates.returns (owes_update updates.free) ?_
  rw [step_update feed snapshot updates.free]
  rfl

theorem tracked_updated (tracked : Tracked feed)
    (updates : Updates feed snapshot moves result last) : Tracked last := by
  rw [returns_last updates.returns]
  exact tracked_moves _ _ (tracked_step feed (.update snapshot) tracked)

theorem updated_applied (tracked : Tracked feed)
    (updates : Updates feed snapshot moves (.ok ()) last) :
    last.sink.applied = dialable snapshot := by
  obtain ⟨own, accepted, _, all⟩ := updated_accepted updates
  rw [(tracked_updated tracked updates).replayed, accepted, all.1 rfl, replay, List.foldl_append,
    ← replay, ← tracked.replayed]
  exact foldl_diff _ _ _ tracked.dialled

end

theorem diff_self (timeout : Option Duration) (set : AddressSet) : diff timeout set set = [] := by
  have nothing : set.without set = [] := List.eq_nil_iff_forall_not_mem.2 fun x inside =>
    (AddressSet.mem_without.1 inside).2 (AddressSet.mem_without.1 inside).1
  rw [diff_eq, nothing]
  rfl

theorem insertions_filter (timeout : Option Duration) (added : List NetworkAddress) :
    insertions timeout (added.filter fun address => (uri? address).isSome) =
      insertions timeout added := by
  rw [insertions, List.filterMap_filter]
  refine List.filterMap_congr fun address _ => ?_
  cases forms : uri? address with
  | none => rw [Difference.change?, forms]; rfl
  | some uri => rfl

-- Addresses that form no endpoint are neither in the sink's set nor sent, so they might as well be
-- missing from the snapshot.
theorem diff_dialable (timeout : Option Duration) (applied snapshot : AddressSet)
    (dialled : ∀ address ∈ applied, (uri? address).isSome) :
    diff timeout applied (dialable snapshot) = diff timeout applied snapshot := by
  have removed : applied.without (dialable snapshot) = applied.without snapshot := by
    refine List.filter_congr fun x here => decide_eq_decide.2 (not_congr ?_)
    exact (mem_dialable snapshot x).trans (and_iff_left (dialled x here))
  have added : (dialable snapshot).without applied =
      (snapshot.without applied).filter fun address => (uri? address).isSome := by
    simp only [AddressSet.without, dialable, List.filter_filter, Bool.and_comm]
  rw [diff_eq, diff_eq, removed, added, insertions_filter]

theorem endpoints (timeout : Option Duration) :
    ∃ endpoint : NetworkAddress → Endpoint, ∀ address, (uri? address).isSome →
      uri? address = some (endpoint address).uri ∧ (endpoint address).connectTimeout = timeout := by
  have each (address : NetworkAddress) : ∃ endpoint : Endpoint, (uri? address).isSome →
      uri? address = some endpoint.uri ∧ endpoint.connectTimeout = timeout := by
    cases forms : uri? address with
    | none => exact ⟨⟨⟨false, [], [], none⟩, timeout⟩, nofun⟩
    | some uri => exact ⟨⟨uri, timeout⟩, fun _ => ⟨rfl, rfl⟩⟩
  exact ⟨fun address => (each address).choose, fun address => (each address).choose_spec⟩

theorem insertions_eq_map (timeout : Option Duration) (endpoint : NetworkAddress → Endpoint)
    (made : ∀ address, (uri? address).isSome →
      uri? address = some (endpoint address).uri ∧ (endpoint address).connectTimeout = timeout)
    (added : List NetworkAddress) (dialled : ∀ address ∈ added, (uri? address).isSome) :
    insertions timeout added = added.map fun address => .insert address (endpoint address) := by
  refine List.filterMap_eq_map_iff_forall_eq_some.2 fun address here => ?_
  obtain ⟨forms, same⟩ := made address (dialled address here)
  rw [Difference.change?, forms, Option.map_some, ← same]

theorem diff_parts (timeout : Option Duration) (applied snapshot : AddressSet) :
    ∃ removed added : List NetworkAddress, ∃ endpoint : NetworkAddress → Endpoint,
      diff timeout applied snapshot =
        removed.map .remove ++ added.map (fun address => .insert address (endpoint address)) ∧
      removed.Pairwise NetworkAddress.Before ∧ (∀ x, x ∈ removed ↔ x ∈ applied ∧ x ∉ snapshot) ∧
      added.Pairwise NetworkAddress.Before ∧
      (∀ x, x ∈ added ↔ x ∈ snapshot ∧ x ∉ applied ∧
        ∃ uri, Http.Uri.parse? x.httpUri = some uri) ∧
      ∀ x ∈ added, Http.Uri.parse? x.httpUri = some (endpoint x).uri ∧
        (endpoint x).connectTimeout = timeout := by
  obtain ⟨endpoint, made⟩ := endpoints timeout
  have new (x : NetworkAddress) :
      x ∈ (snapshot.without applied).filter (fun address => (uri? address).isSome) ↔
        x ∈ snapshot ∧ x ∉ applied ∧ (uri? x).isSome := by
    rw [List.mem_filter, AddressSet.mem_without, and_assoc]
  refine ⟨applied.without snapshot,
    (snapshot.without applied).filter fun address => (uri? address).isSome, endpoint, ?_,
    applied.ascending.filter _, fun x => AddressSet.mem_without,
    (snapshot.ascending.filter _).filter _, fun x => ?_, fun x there => ?_⟩
  · rw [diff_eq, ← insertions_filter,
      insertions_eq_map timeout endpoint made _ fun x there => ((new x).1 there).2.2]
  · exact (new x).trans (and_congr_right fun _ => and_congr_right fun _ =>
      Option.isSome_iff_exists)
  · exact made x ((new x).1 there).2.2

theorem between_foldl (sent : List Change) (set applied snapshot : AddressSet)
    (removes : ∀ address, .remove address ∈ sent → address ∉ snapshot)
    (inserts : ∀ address endpoint, .insert address endpoint ∈ sent → address ∈ snapshot)
    (kept : ∀ x ∈ applied, x ∈ snapshot → x ∈ set) (known : ∀ x ∈ set, x ∈ applied ∨ x ∈ snapshot) :
    (∀ x ∈ applied, x ∈ snapshot → x ∈ sent.foldl Change.apply set) ∧
      ∀ x ∈ sent.foldl Change.apply set, x ∈ applied ∨ x ∈ snapshot := by
  induction sent generalizing set with
  | nil => exact ⟨kept, known⟩
  | cons change rest ih =>
      refine ih (change.apply set) (fun a there => removes a (List.mem_cons_of_mem _ there))
        (fun a endpoint there => inserts a endpoint (List.mem_cons_of_mem _ there)) ?_ ?_
      · intro x old new
        cases change with
        | remove gone =>
            refine AddressSet.mem_erase.2 ⟨kept x old new, fun same => ?_⟩
            exact removes gone List.mem_cons_self (same ▸ new)
        | insert come endpoint => exact AddressSet.mem_insert.2 (.inr (kept x old new))
      · intro x inside
        cases change with
        | remove gone => exact known x (AddressSet.mem_erase.1 inside).1
        | insert come endpoint =>
            rcases AddressSet.mem_insert.1 inside with rfl | old
            · exact .inr (inserts x endpoint List.mem_cons_self)
            · exact known x old

theorem between_part (applied snapshot : AddressSet) {removed added : List NetworkAddress}
    {endpoint : NetworkAddress → Endpoint} (gone : ∀ x ∈ removed, x ∉ snapshot)
    (come : ∀ x ∈ added, x ∈ snapshot) (sent : List Change)
    (part : sent <+:
      removed.map .remove ++ added.map fun address => .insert address (endpoint address)) :
    (∀ x ∈ applied, x ∈ snapshot → x ∈ sent.foldl Change.apply applied) ∧
      ∀ x ∈ sent.foldl Change.apply applied, x ∈ applied ∨ x ∈ snapshot := by
  refine between_foldl sent _ _ _ (fun x there => ?_) (fun x endpoint there => ?_)
    (fun x old _ => old) fun x old => .inl old
  · rcases List.mem_append.1 (part.subset there) with removal | addition
    · obtain ⟨_, old, same⟩ := List.mem_map.1 removal
      cases same
      exact gone x old
    · obtain ⟨_, _, same⟩ := List.mem_map.1 addition
      cases same
  · rcases List.mem_append.1 (part.subset there) with removal | addition
    · obtain ⟨_, _, same⟩ := List.mem_map.1 removal
      cases same
    · obtain ⟨_, new, same⟩ := List.mem_map.1 addition
      cases same
      exact come x new

theorem resume_returns (pending : List Difference) (feed : Feed)
    (busy : feed.pending = some pending)
    {result : Except Failure Unit} (ended : (feed.sink.resume pending).result = some result) :
    ∃ moves last, Returns feed moves result last ∧ last.sink = (feed.sink.resume pending).sink := by
  induction pending generalizing feed with
  | nil =>
      refine ⟨[], _, .now feed result ?_, ?_⟩
      · rw [← ended]
        simp only [Feed.proceed, busy, Sink.resume]
      · simp only [Feed.proceed, busy, Sink.resume]
  | cons difference rest ih =>
      have onward (after : Feed) (step : feed.step .proceed = after)
          (still : after.pending = some rest)
          (ended : (after.sink.resume rest).result = some result) :
          ∃ moves last, Returns feed moves result last ∧
            last.sink = (after.sink.resume rest).sink := by
        obtain ⟨moves, last, returns, same⟩ := ih after still ended
        subst step
        exact ⟨_, last, .later feed .proceed moves result last (by rw [still]; rfl) returns, same⟩
      cases attempt : feed.sink.attempt difference with
      | sent sink change =>
          simp only [Sink.resume, attempt] at ended ⊢
          refine onward { feed with
            sink, pending := some rest, accepted := feed.accepted ++ [change] } ?_ rfl ended
          simp only [Feed.step, Feed.proceed, busy, attempt]
      | skipped log =>
          simp only [Sink.resume, attempt] at ended ⊢
          refine onward { feed with pending := some rest } ?_ rfl ended
          simp only [Feed.step, Feed.proceed, busy, attempt]
      | full =>
          simp only [Sink.resume, attempt] at ended
          cases ended
      | closed =>
          simp only [Sink.resume, attempt] at ended ⊢
          refine ⟨[], _, .now feed result ?_, ?_⟩
          · rw [← ended]
            simp only [Feed.proceed, busy, attempt]
          · simp only [Feed.proceed, busy, attempt]

theorem resume_unmade (sink : Sink) (pending : List Difference)
    (nothing : pending.filterMap (Difference.change? sink.connectTimeout) = []) :
    (sink.resume pending).result = some (.ok ()) ∧ (sink.resume pending).sink = sink := by
  induction pending with
  | nil => exact ⟨rfl, rfl⟩
  | cons difference rest ih =>
      obtain ⟨here, there⟩ := List.forall_mem_cons.1 (List.filterMap_eq_nil_iff.1 nothing)
      obtain ⟨log, attempt⟩ := attempt_skipped sink difference here
      simp only [Sink.resume, attempt]
      exact ih (List.filterMap_eq_nil_iff.2 there)

theorem update_returns (feed : Feed) (snapshot : AddressSet) (result : Except Failure Unit)
    (free : feed.pending = none) (ended : (feed.sink.update snapshot).result = some result) :
    ∃ moves last, Updates feed snapshot moves result last ∧
      last.sink = (feed.sink.update snapshot).sink := by
  have begun := step_update feed snapshot free
  obtain ⟨moves, last, returns, same⟩ := resume_returns
    (Sink.differences feed.sink.applied snapshot) (feed.step (.update snapshot)) (by rw [begun])
    (by rw [begun]; exact ended)
  rw [begun] at same
  exact ⟨moves, last, ⟨free, returns⟩, same⟩

/-- Whatever updates went before and however they ended: an update that succeeds removes the
addresses that are not in the snapshot and then inserts those that are new and form an endpoint,
each of them once and in order, and nothing else. An insertion comes with the endpoint of its
address: the URI that the address forms, and the connect timeout of the sink. The update leaves the
dialable part of the snapshot. On the way the consumer never loses an address that stays and never
sees one that is in neither set. A second update with the snapshot sends nothing, and an address
that forms no endpoint makes no difference. -/
theorem snapshot_diffed (capacity : Nat) (timeout : Option Duration) (history moves : List Move)
    (snapshot : AddressSet) (last : Feed)
    (updates : Updates (history.foldl Feed.step (.create capacity timeout)) snapshot moves (.ok ())
      last) :
    let feed := history.foldl Feed.step (.create capacity timeout)
    (∃ removed added : List NetworkAddress, ∃ endpoint : NetworkAddress → Endpoint,
      let sends : List Change :=
        removed.map .remove ++ added.map fun address => .insert address (endpoint address)
      last.accepted = feed.accepted ++ sends ∧
      removed.Pairwise NetworkAddress.Before ∧
      (∀ x, x ∈ removed ↔ x ∈ feed.sink.applied ∧ x ∉ snapshot) ∧
      added.Pairwise NetworkAddress.Before ∧
      (∀ x, x ∈ added ↔ x ∈ snapshot ∧ x ∉ feed.sink.applied ∧
        ∃ uri, Http.Uri.parse? x.httpUri = some uri) ∧
      (∀ x ∈ added, Http.Uri.parse? x.httpUri = some (endpoint x).uri ∧
        (endpoint x).connectTimeout = timeout) ∧
      ∀ sent, sent <+: sends →
        (∀ x ∈ feed.sink.applied, x ∈ snapshot → x ∈ replay (feed.accepted ++ sent)) ∧
        ∀ x ∈ replay (feed.accepted ++ sent), x ∈ feed.sink.applied ∨ x ∈ snapshot) ∧
    (∀ x, x ∈ last.sink.applied ↔ x ∈ snapshot ∧ (uri? x).isSome) ∧
    ((last.sink.update snapshot).result = some (.ok ()) ∧
      (last.sink.update snapshot).sink = last.sink ∧
      ∀ more result final, Updates last snapshot more result final →
        result = .ok () ∧ final.accepted = last.accepted) ∧
    (∀ other more final, (∀ x, (uri? x).isSome → (x ∈ other ↔ x ∈ snapshot)) →
      Updates feed other more (.ok ()) final → final.accepted = last.accepted) ∧
    ∀ other result, (feed.sink.update other).result = some result →
      ∃ more final, Updates feed other more result final ∧
        final.sink = (feed.sink.update other).sink := by
  intro feed
  have tracked : Tracked feed := tracked_moves history _ (tracked_create capacity timeout)
  have timed : feed.sink.connectTimeout = timeout :=
    (built_moves history _ (built_create capacity timeout)).timed
  obtain ⟨own, accepted, _, all⟩ := updated_accepted updates
  obtain rfl := all.1 rfl
  rw [timed] at accepted
  have applied := updated_applied tracked updates
  have again : diff last.sink.connectTimeout last.sink.applied snapshot = [] := by
    rw [← diff_dialable _ _ _ (tracked_updated tracked updates).dialled, applied, diff_self]
  refine ⟨?_, fun x => ?_, ⟨?_, ?_, ?_⟩, ?_, ?_⟩
  · obtain ⟨removed, added, endpoint, parts, removal, gone, addition, come, made⟩ :=
      diff_parts timeout feed.sink.applied snapshot
    refine ⟨removed, added, endpoint, parts ▸ accepted, removal, gone, addition, come, made,
      fun sent part => ?_⟩
    rw [replay, List.foldl_append, ← replay, ← tracked.replayed]
    exact between_part _ _ (fun x there => ((gone x).1 there).2)
      (fun x there => ((come x).1 there).1) sent part
  · rw [applied, mem_dialable]
  · exact (resume_unmade _ _ again).1
  · exact (resume_unmade _ _ again).2
  · intro more result final following
    obtain ⟨own, sent, part, outcome⟩ := updated_accepted following
    rw [again] at part outcome
    obtain rfl := List.prefix_nil.1 part
    exact ⟨outcome.2 rfl, sent.trans (List.append_nil _)⟩
  · intro other more final alike instead
    obtain ⟨own, sent, _, outcome⟩ := updated_accepted instead
    have same : dialable other = dialable snapshot := by
      refine AddressSet.ext_mem fun x => ?_
      rw [mem_dialable, mem_dialable]
      exact and_congr_left (alike x)
    rw [sent, outcome.1 rfl, accepted, timed, ← diff_dialable _ _ _ tracked.dialled,
      ← diff_dialable _ _ snapshot tracked.dialled, same]
  · exact fun other result => update_returns feed other result updates.free

-- On a set that an update cut short has left: one address goes, one stays, one comes, and one
-- forms no endpoint.
theorem abandoned_update_made_up_for :
    let timeout : Option Duration := some (.ofSecs 5)
    let history : List Move :=
      [.update (.ofList [⟨"a", 1⟩, ⟨"b", 1⟩, ⟨"d", 1⟩]), .proceed, .proceed, .proceed, .proceed,
        .update (.ofList [⟨"d", 1⟩]), .proceed, .abandon]
    let snapshot : AddressSet := .ofList [⟨"c", 1⟩, ⟨"d", 1⟩, ⟨"x y", 1⟩]
    let moves : List Move := [.proceed, .receive 3, .proceed, .proceed]
    ∃ last, Updates (history.foldl Feed.step (.create 6 timeout)) snapshot moves (.ok ()) last ∧
      .insert ⟨"c", 1⟩ ⟨⟨false, "c:1".toList, [], none⟩, timeout⟩ ∈ last.accepted ∧
      (∀ x, x ∈ last.sink.applied ↔ x = ⟨"c", 1⟩ ∨ x = ⟨"d", 1⟩) ∧
      (last.sink.update snapshot).sink = last.sink := by
  intro timeout history snapshot moves
  have returns : ∃ last, Returns
      ((history.foldl Feed.step (.create 6 timeout)).step (.update snapshot)) moves (.ok ()) last :=
    ⟨_, .later _ _ _ _ _ (by decide +kernel) (.later _ _ _ _ _ (by decide +kernel)
      (.later _ _ _ _ _ (by decide +kernel) (.later _ _ _ _ _ (by decide +kernel)
        (.now _ _ (by decide +kernel)))))⟩
  obtain ⟨last, returns⟩ := returns
  have updates :
      Updates (history.foldl Feed.step (.create 6 timeout)) snapshot moves (.ok ()) last :=
    ⟨by decide +kernel, returns⟩
  obtain ⟨⟨removed, added, endpoint, accepted, _, _, _, new, made, _⟩, applied, ⟨_, again, _⟩, _⟩ :=
    snapshot_diffed 6 timeout history moves snapshot last updates
  refine ⟨last, updates, ?_, fun x => ?_, again⟩
  · have come : (⟨"c", 1⟩ : NetworkAddress) ∈ added := (new _).2
      ⟨by decide +kernel, by decide +kernel, _, rfl⟩
    have uri : Http.Uri.parse? (NetworkAddress.httpUri ⟨"c", 1⟩) =
        some ⟨false, "c:1".toList, [], none⟩ := by decide +kernel
    have same : endpoint ⟨"c", 1⟩ = ⟨⟨false, "c:1".toList, [], none⟩, timeout⟩ := by
      obtain ⟨forms, timed⟩ := made _ come
      exact congrArg₂ Endpoint.mk (Option.some.inj (forms.symm.trans uri)) timed
    rw [accepted, ← same]
    exact List.mem_append_right _ (List.mem_append_right _ (List.mem_map_of_mem come))
  · rw [applied, AddressSet.mem_ofList, List.mem_cons, List.mem_cons, List.mem_singleton]
    constructor
    · rintro ⟨rfl | rfl | rfl, valid⟩
      · exact .inl rfl
      · exact .inr rfl
      · exact absurd valid (by decide)
    · rintro (rfl | rfl)
      · exact ⟨.inl rfl, by decide⟩
      · exact ⟨.inr (.inl rfl), by decide⟩

end ServiceDiscovery.Balance
