import ServiceDiscovery.Proofs.Registrar.Directory

/-!
Instances under one id. An id joins name, address and port by dashes, and the name and the address
may hold dashes of their own, so the registry can take different instances for one. Here it is told
which these are, and for how long a registration stands.
-/
namespace ServiceDiscovery.Registrar

abbrev Same (a b : InstanceDescriptor) : Prop :=
  a.name = b.name ∧ a.address = b.address ∧ a.port = b.port

def Clash (a b : InstanceDescriptor) : Prop :=
  a.port = b.port ∧ (Shifted a b ∨ Shifted b a)

theorem id_eq_iff_same_or_clash (a b : InstanceDescriptor) :
    a.instanceId = b.instanceId ↔ Same a b ∨ Clash a b := by
  rw [instance_id_eq_iff, Same, Clash]
  tauto

theorem shifted_dashes (a b : InstanceDescriptor) (shifted : Shifted a b) :
    b.name.toList.count '-' < a.name.toList.count '-' := by
  obtain ⟨part, name, _⟩ := (shifted_iff a b).1 shifted
  rw [name, List.count_append, List.count_cons_self]
  omega

theorem clash_dashes (a b : InstanceDescriptor) (clash : Clash a b) :
    a.name.toList.count '-' ≠ b.name.toList.count '-' := by
  rcases clash.2 with shifted | shifted
  · exact Nat.ne_of_gt (shifted_dashes a b shifted)
  · exact Nat.ne_of_lt (shifted_dashes b a shifted)

-- A record that one of the calls has put down and no later one has touched.
def Standing (history : List Call) (r : Registration) : Prop :=
  ∃ before call after, history = before ++ call :: after ∧
    call.Puts r ∧ ∀ later ∈ after, later.Spares r.id

theorem standing_cons (call : Call) (history : List Call) (r : Registration) :
    Standing (call :: history) r ↔
      (call.Puts r ∧ ∀ later ∈ history, later.Spares r.id) ∨ Standing history r := by
  constructor
  · rintro ⟨before, put, after, split, puts, spared⟩
    rcases List.cons_eq_append_iff.1 split with ⟨_, here⟩ | ⟨before, _, rfl⟩
    · cases here
      exact .inl ⟨puts, spared⟩
    · exact .inr ⟨before, put, after, rfl, puts, spared⟩
  · rintro (⟨puts, spared⟩ | ⟨before, put, after, rfl, puts, spared⟩)
    · exact ⟨[], call, history, rfl, puts, spared⟩
    · exact ⟨call :: before, put, after, rfl, puts, spared⟩

section

variable (registry : String) (directory : Directory) (r : Registration)

theorem mem_served_from (history : List Call) :
    r ∈ (history.foldl (serve registry) directory).records ↔
      (r ∈ directory.records ∧ ∀ call ∈ history, call.Spares r.id) ∨ Standing history r := by
  induction history generalizing directory with
  | nil => simp [Standing]
  | cons call history ih =>
      rw [List.foldl_cons, ih, mem_serve, standing_cons, List.forall_mem_cons]
      tauto

theorem mem_served (history : List Call) :
    r ∈ (served registry history).records ↔ Standing history r := by
  rw [served, mem_served_from]
  simp [Directory.empty]

end

theorem spares_iff (call : Call) (d : InstanceDescriptor) :
    call.Spares d.instanceId ↔
      (call.Taken → ¬ Same call.descriptor d ∧ ¬ Clash call.descriptor d) := by
  rw [Call.Spares, ne_eq, id_eq_iff_same_or_clash, not_or]

/-- Two instances have one id when they are the same or clash, and only then; none clash whose names
hold equally many dashes. A registration stands until the next call on its instance or on one that
clashes with it, whatever calls there are. -/
theorem instances_by_id (registry : String) :
    (∀ a b : InstanceDescriptor, a.instanceId = b.instanceId ↔ Same a b ∨ Clash a b) ∧
    (∀ a b : InstanceDescriptor, a.name.toList.count '-' = b.name.toList.count '-' →
      (a.instanceId = b.instanceId ↔ Same a b)) ∧
    ∀ history r, r ∈ (served registry history).records ↔
      ∃ before kind d after, history = before ++ .register kind d :: after ∧
        d.validate = .ok () ∧ r = d.registration kind ∧
        ∀ call ∈ after, call.Taken → ¬ Same call.descriptor d ∧ ¬ Clash call.descriptor d := by
  refine ⟨id_eq_iff_same_or_clash, ?_, ?_⟩
  · intro a b dashes
    rw [id_eq_iff_same_or_clash, or_iff_left_of_imp]
    exact fun clash => absurd dashes (clash_dashes a b clash)
  · intro history r
    rw [mem_served]
    constructor
    · rintro ⟨before, _, after, split, ⟨kind, d, rfl, valid, rfl⟩, spared⟩
      exact ⟨before, kind, d, after, split, valid, rfl, fun call later =>
        (spares_iff call d).1 (spared call later)⟩
    · rintro ⟨before, kind, d, after, split, valid, rfl, spared⟩
      exact ⟨before, _, after, split, ⟨kind, d, rfl, valid, rfl⟩, fun call later =>
        (spares_iff call d).2 (spared call later)⟩

theorem dashed_neighbours_both_stand :
    let a : InstanceDescriptor := ⟨"orders-eu", "host-1", 8080, [], .zero⟩
    let b : InstanceDescriptor := ⟨"orders-us", "host-1", 8080, [], .zero⟩
    let history : List Call := [.register .protocol a, .register .http a, .register .http b]
    b.name.toList.count '-' = a.name.toList.count '-' ∧ b.instanceId ≠ a.instanceId ∧
      a.registration .http ∈ (served "localhost:8500" history).records := by
  intro a b history
  obtain ⟨by_id, dashed, standing⟩ := instances_by_id "localhost:8500"
  have dashes : b.name.toList.count '-' = a.name.toList.count '-' := by decide
  have apart : b.instanceId ≠ a.instanceId := fun same =>
    absurd ((dashed b a dashes).1 same) (by decide)
  refine ⟨dashes, apart, (standing history _).2
    ⟨[.register .protocol a], .http, a, [.register .http b], rfl, rfl, rfl, ?_⟩⟩
  intro call later _
  rw [List.mem_singleton.1 later]
  exact ⟨by decide, fun clash => apart ((by_id b a).2 (.inr clash))⟩

theorem clash_overwrites :
    let a : InstanceDescriptor := ⟨"orders-eu", "host-1", 8080, [], .zero⟩
    let b : InstanceDescriptor := ⟨"orders", "eu-host-1", 8080, [], .zero⟩
    a.validate = .ok () ∧ b.validate = .ok () ∧ ¬ Same a b ∧ a.instanceId = b.instanceId ∧
      (served "localhost:8500" [.register .http a, .register .http b]).records =
        [b.registration .http] := by
  intro a b
  exact ⟨rfl, rfl, by decide, by decide, by decide⟩

end ServiceDiscovery.Registrar
