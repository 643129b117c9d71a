import Mathlib.Data.List.Induction
import ServiceDiscovery.Sink.Broadcast

namespace ServiceDiscovery.Broadcast

inductive Operation where
  | update (snapshot : AddressSet)
  | subscribe (id : Nat)
  | drop (id : Nat)
  | read (id : Nat)

namespace Sink

def perform (sink : Sink) : Operation → Sink
  | .update snapshot => (sink.update snapshot).1
  | .subscribe id => sink.subscribe id
  | .drop id => sink.drop id
  | .read id => (sink.read id).1

def after (first : Nat) (history : List Operation) : Sink := history.foldl perform (.create first)

end Sink

-- A receiver lives from its subscription until it is dropped; the first is there from the start.
def Live (first : Nat) (history : List Operation) (id : Nat) : Prop :=
  ∃ before after, .subscribe first :: history = before ++ .subscribe id :: after ∧
    .drop id ∉ after

def Attended (first : Nat) (history : List Operation) : Prop := ∃ id, Live first history id

-- An update that found a receiver, after what was done before it.
def Met (first : Nat) (history before : List Operation) (snapshot : AddressSet) : Prop :=
  before ++ [.update snapshot] <+: history ∧ Attended first before

-- The snapshot of the latest update that found a receiver, or the empty one where none did.
def Shown (first : Nat) (history : List Operation) (snapshot : AddressSet) : Prop :=
  (∃ before, Met first history before snapshot ∧
    ∀ earlier other, Met first history earlier other → earlier.length ≤ before.length) ∨
  (∀ before other, ¬ Met first history before other) ∧ snapshot = .empty

section

variable (first : Nat) (history : List Operation) (operation : Operation)

theorem live_append (id : Nat) :
    Live first (history ++ [operation]) id ↔
      operation = .subscribe id ∨ operation ≠ .drop id ∧ Live first history id := by
  unfold Live
  rw [← List.cons_append]
  constructor
  · rintro ⟨before, after, split, undropped⟩
    -- the subscription is the last operation or one of those before
    rcases List.eq_nil_or_concat after with rfl | ⟨rest, last, rfl⟩
    · obtain ⟨_, same⟩ := List.append_inj' split rfl
      exact .inl (List.singleton_inj.1 same)
    · rw [List.concat_eq_append] at split undropped
      rw [← List.cons_append, ← List.append_assoc] at split
      obtain ⟨earlier, same⟩ := List.append_inj' split rfl
      cases same
      rw [List.mem_append, List.mem_singleton, not_or] at undropped
      exact .inr ⟨Ne.symm undropped.2, before, rest, earlier, undropped.1⟩
  · rintro (rfl | ⟨kept, before, rest, earlier, undropped⟩)
    · exact ⟨_, [], rfl, List.not_mem_nil⟩
    · refine ⟨before, rest ++ [operation], ?_, ?_⟩
      · rw [earlier, List.append_assoc, List.cons_append]
      · rw [List.mem_append, List.mem_singleton, not_or]
        exact ⟨undropped, Ne.symm kept⟩

theorem met_append (before : List Operation) (snapshot : AddressSet) :
    Met first (history ++ [operation]) before snapshot ↔
      (before = history ∧ operation = .update snapshot ∧ Attended first history) ∨
        Met first history before snapshot := by
  unfold Met
  rw [List.prefix_concat_iff, or_and_right, List.append_singleton_inj, eq_comm (a := operation)]
  refine or_congr_left ⟨?_, ?_⟩
  · rintro ⟨⟨rfl, same⟩, attended⟩
    exact ⟨rfl, same, attended⟩
  · rintro ⟨rfl, same, attended⟩
    exact ⟨⟨rfl, same⟩, attended⟩

theorem met_before {before : List Operation} {snapshot : AddressSet}
    (met : Met first history before snapshot) : before.length < history.length := by
  have short := met.1.length_le
  rw [List.length_append, List.length_singleton] at short
  exact short

theorem shown_attended (given snapshot : AddressSet) (attended : Attended first history) :
    Shown first (history ++ [.update given]) snapshot ↔ snapshot = given := by
  have last : Met first (history ++ [.update given]) history given :=
    ⟨List.prefix_rfl, attended⟩
  constructor
  · rintro (⟨before, met, latest⟩ | ⟨unmet, _⟩)
    · rcases (met_append first history _ before snapshot).1 met with ⟨_, same, _⟩ | earlier
      · cases same
        rfl
      · exact absurd (met_before first history earlier) (Nat.not_lt.2 (latest _ _ last))
    · exact absurd last (unmet _ _)
  · rintro rfl
    refine .inl ⟨history, last, fun earlier other met => ?_⟩
    have short := met_before first _ met
    rw [List.length_append, List.length_singleton] at short
    exact Nat.le_of_lt_succ short

theorem shown_unattended (snapshot : AddressSet)
    (unmet : ∀ given, operation = .update given → ¬ Attended first history) :
    Shown first (history ++ [operation]) snapshot ↔ Shown first history snapshot := by
  have same (before : List Operation) (other : AddressSet) :
      Met first (history ++ [operation]) before other ↔ Met first history before other := by
    rw [met_append, or_iff_right]
    rintro ⟨_, update, attended⟩
    exact unmet other update attended
  simp only [Shown, same]

theorem shown_quiet (later : List Operation) (snapshot : AddressSet)
    (quiet : ∀ given, .update given ∉ later) :
    Shown first (history ++ later) snapshot ↔ Shown first history snapshot := by
  induction later using List.reverseRecOn with
  | nil => rw [List.append_nil]
  | append_singleton later last ih =>
      simp only [List.mem_append, List.mem_singleton, not_or] at quiet
      rw [← List.append_assoc, shown_unattended first _ last snapshot, ih]
      · exact fun given => (quiet given).1
      · exact fun given update => absurd update.symm (quiet given).2

end

theorem has_iff (sink : Sink) (id : Nat) :
    sink.has id = true ↔ ∃ receiver ∈ sink.receivers, receiver.id = id := by
  simp only [Sink.has, List.any_eq_true, beq_iff_eq]

theorem has_drop (sink : Sink) (other id : Nat) :
    (sink.drop other).has id = true ↔ id ≠ other ∧ sink.has id = true := by
  rw [has_iff, has_iff]
  constructor
  · rintro ⟨receiver, kept, rfl⟩
    obtain ⟨there, different⟩ := List.mem_filter.1 kept
    exact ⟨of_decide_eq_true different, receiver, there, rfl⟩
  · rintro ⟨different, receiver, there, rfl⟩
    exact ⟨receiver, List.mem_filter.2 ⟨there, decide_eq_true different⟩, rfl⟩

theorem has_subscribe (sink : Sink) (other id : Nat) :
    (sink.subscribe other).has id = true ↔ id = other ∨ sink.has id = true := by
  have joined : (sink.subscribe other).has id = true ↔
      (sink.drop other).has id = true ∨ other = id := by
    simp only [Sink.has, Sink.subscribe, List.any_append, List.any_cons, List.any_nil,
      Bool.or_false, Bool.or_eq_true, beq_iff_eq]
  rw [joined, has_drop]
  by_cases same : id = other
  · exact iff_of_true (.inr same.symm) (.inl same)
  · simp only [ne_eq, same, Ne.symm same, not_false_eq_true, true_and, or_false, false_or]

theorem has_read (sink : Sink) (other id : Nat) :
    (sink.read other).1.has id = sink.has id := by
  simp only [Sink.has, Sink.read, List.any_map]
  refine congrArg sink.receivers.any (funext fun receiver => ?_)
  dsimp only [Function.comp]
  split <;> rfl

theorem has_update (sink : Sink) (snapshot : AddressSet) (id : Nat) :
    (sink.update snapshot).1.has id = sink.has id := by
  unfold Sink.update
  split <;> rfl

theorem has_perform (sink : Sink) (operation : Operation) (id : Nat) :
    (sink.perform operation).has id = true ↔
      operation = .subscribe id ∨ operation ≠ .drop id ∧ sink.has id = true := by
  cases operation with
  | update given =>
      rw [Sink.perform, has_update]
      simp
  | subscribe other =>
      rw [Sink.perform, has_subscribe, Operation.subscribe.injEq, eq_comm]
      simp
  | drop other =>
      rw [Sink.perform, has_drop, ne_eq, ne_eq, Operation.drop.injEq, eq_comm]
      simp
  | read other =>
      rw [Sink.perform, has_read]
      simp

theorem exists_has_iff (sink : Sink) : (∃ id, sink.has id = true) ↔ sink.receivers ≠ [] := by
  simp only [has_iff]
  constructor
  · rintro ⟨_, receiver, there, _⟩
    exact List.ne_nil_of_mem there
  · intro some
    obtain ⟨receiver, there⟩ := List.exists_mem_of_ne_nil _ some
    exact ⟨receiver.id, receiver, there, rfl⟩

structure Follows (first : Nat) (history : List Operation) (sink : Sink) : Prop where
  live : ∀ id, sink.has id = true ↔ Live first history id
  shown : ∀ snapshot, Shown first history snapshot ↔ snapshot = sink.snapshot

section

variable {first : Nat} {history : List Operation} {sink : Sink}

theorem follows_create (first : Nat) : Follows first [] (.create first) where
  live id := by
    constructor
    · intro has
      obtain rfl : first = id := by simpa [Sink.has, Sink.create] using has
      exact ⟨[], [], rfl, List.not_mem_nil⟩
    · rintro ⟨before, after, split, _⟩
      cases before with
      | nil =>
          cases split
          simp [Sink.has, Sink.create]
      | cons _ rest => exact absurd (List.cons.inj split).2 (by simp)
  shown snapshot := by
    have unmet (before : List Operation) (other : AddressSet) : ¬ Met first [] before other :=
      fun met => absurd (met_before first [] met) (Nat.not_lt_zero _)
    constructor
    · rintro (⟨before, met, _⟩ | ⟨_, empty⟩)
      · exact absurd met (unmet before snapshot)
      · exact empty
    · exact fun empty => .inr ⟨unmet, empty⟩

theorem attended_iff (follows : Follows first history sink) :
    Attended first history ↔ sink.receivers ≠ [] := by
  rw [← exists_has_iff]
  exact exists_congr fun id => (follows.live id).symm

theorem follows_perform (operation : Operation) (follows : Follows first history sink) :
    Follows first (history ++ [operation]) (sink.perform operation) := by
  refine ⟨fun id => ?_, fun snapshot => ?_⟩
  · rw [live_append, ← follows.live, has_perform]
  · cases operation with
    | update given =>
        by_cases attended : Attended first history
        · rw [shown_attended first history given snapshot attended, Sink.perform, Sink.update,
            if_neg ((attended_iff follows).1 attended)]
        · have nobody : sink.receivers = [] := by
            rwa [attended_iff follows, not_not] at attended
          rw [shown_unattended first history _ snapshot fun _ _ => attended, follows.shown,
            Sink.perform, Sink.update, if_pos nobody]
    | subscribe _ | drop _ | read _ =>
        rw [shown_unattended first history _ snapshot (by simp), follows.shown]
        rfl

theorem follows_after (first : Nat) (history : List Operation) :
    Follows first history (Sink.after first history) := by
  induction history using List.reverseRecOn with
  | nil => exact follows_create first
  | append_singleton history operation ih =>
      rw [Sink.after, List.foldl_append]
      exact follows_perform operation ih

theorem read_iff (follows : Follows first history sink) (id : Nat) (snapshot : AddressSet) :
    (sink.read id).2 = some snapshot ↔ Live first history id ∧ Shown first history snapshot := by
  rw [← follows.live, follows.shown, Sink.read]
  by_cases there : sink.has id = true
  · rw [if_pos there, Option.some_inj, eq_comm]
    exact (and_iff_right there).symm
  · rw [if_neg there]
    exact iff_of_false (by simp) fun both => there both.1

end

/-- Whatever has been done with a sink, an update of it is refused just when no receiver lives. A
receiver that lives reads the snapshot of the latest update that found a receiver, the empty one
before the first. That is the snapshot of the latest update of all just when this one found a
receiver, or gave what was shown anyway. -/
theorem latest_snapshot_read_iff (first : Nat) (history : List Operation) :
    let sink := Sink.after first history
    (∀ snapshot,
      ((∃ failure, (sink.update snapshot).2 = .error failure ∧ failure.code = .sinkUnavailable) ↔
        ∀ id, ¬ Live first history id) ∧
      ((sink.update snapshot).2 = .ok () ↔ ∃ id, Live first history id)) ∧
    ∀ id,
      (∀ snapshot, (sink.read id).2 = some snapshot ↔
        Live first history id ∧ Shown first history snapshot) ∧
      (Live first history id →
        (∃ snapshot, (sink.read id).2 = some snapshot) ∧
        ((∀ given, .update given ∉ history) → (sink.read id).2 = some .empty) ∧
        ∀ before given after, history = before ++ .update given :: after →
          (∀ later, .update later ∉ after) →
          ((sink.read id).2 = some given ↔
            (∃ other, Live first before other) ∨ Shown first before given)) := by
  intro sink
  have follows : Follows first history sink := follows_after first history
  refine ⟨fun snapshot => ?_, fun id => ⟨read_iff follows id, fun live => ⟨?_, ?_, ?_⟩⟩⟩
  · have attended : (∃ id, Live first history id) ↔ sink.receivers ≠ [] := attended_iff follows
    rw [← not_exists, attended, not_not, Sink.update]
    by_cases nobody : sink.receivers = []
    · rw [if_pos nobody]
      exact ⟨iff_of_true ⟨_, rfl, rfl⟩ nobody, iff_of_false nofun (not_not_intro nobody)⟩
    · rw [if_neg nobody]
      exact ⟨iff_of_false (by rintro ⟨_, failed, _⟩; cases failed) nobody, iff_of_true rfl nobody⟩
  · exact ⟨sink.snapshot, (read_iff follows id _).2 ⟨live, (follows.shown _).2 rfl⟩⟩
  · intro quiet
    have start : Shown first [] .empty := ((follows_create first).shown _).2 rfl
    exact (read_iff follows id _).2 ⟨live, (shown_quiet first [] history _ quiet).2 start⟩
  · rintro before given after rfl quiet
    rw [read_iff follows, and_iff_right live, List.append_cons, shown_quiet first _ after _ quiet]
    by_cases attended : Attended first before
    · rw [shown_attended first before given given attended]
      exact iff_of_true rfl (.inl attended)
    · rw [shown_unattended first before _ given fun _ _ => attended]
      exact (or_iff_right attended).symm

theorem later_receiver_reads_snapshot :
    let snapshot := AddressSet.ofList [⟨"10.0.0.1", 9000⟩]
    let history : List Operation := [.subscribe 1, .drop 0, .update snapshot, .drop 1, .subscribe 2]
    Live 0 history 2 ∧ ((Sink.after 0 history).read 2).2 = some snapshot := by
  intro snapshot history
  have live : Live 0 history 2 :=
    ⟨[.subscribe 0, .subscribe 1, .drop 0, .update snapshot, .drop 1], [], rfl, List.not_mem_nil⟩
  have found : Live 0 [.subscribe 1, .drop 0] 1 := ⟨[.subscribe 0], [.drop 0], rfl, by simp⟩
  obtain ⟨_, reads⟩ := latest_snapshot_read_iff 0 history
  obtain ⟨_, _, law⟩ := (reads 2).2 live
  exact ⟨live, (law [.subscribe 1, .drop 0] snapshot [.drop 1, .subscribe 2] rfl (by simp)).2
    (.inl ⟨1, found⟩)⟩

-- The only update finds no receiver, and the one that comes after it reads the empty snapshot.
theorem unseen_snapshot_lost :
    let snapshot := AddressSet.ofList [⟨"10.0.0.1", 9000⟩]
    let history : List Operation := [.drop 0, .update snapshot, .subscribe 1]
    Live 0 history 1 ∧ ((Sink.after 0 history).read 1).2 = some .empty ∧
      ((Sink.after 0 history).read 1).2 ≠ some snapshot := by
  intro snapshot history
  exact ⟨⟨[.subscribe 0, .drop 0, .update snapshot], [], rfl, List.not_mem_nil⟩, rfl, by decide⟩

end ServiceDiscovery.Broadcast
