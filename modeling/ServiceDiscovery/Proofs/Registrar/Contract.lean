import ServiceDiscovery.Registrar

namespace ServiceDiscovery.Registrar

def checkTarget (d : InstanceDescriptor) : CheckKind → String
  | .protocol => d.address ++ ":" ++ toString d.port.toNat ++ "/" ++ d.name
  | .http => "http://" ++ d.address ++ ":" ++ toString d.port.toNat

structure Describes (kind : CheckKind) (d : InstanceDescriptor) (r : Registration) : Prop where
  id : r.id = d.instanceId
  name : r.name = d.name
  address : r.address = d.address
  port : r.port = d.port
  check : r.check = ⟨kind,
    if d.checkInterval.nanos = 0 then .ofSecs 10 else d.checkInterval, checkTarget d kind⟩
  tagged : d.name ∈ r.tags
  tags_kept : d.name ∈ d.tags → r.tags = d.tags
  tags_added : d.name ∉ d.tags → r.tags = d.name :: d.tags
  tags_settled : { d with tags := r.tags }.registrationTags = r.tags

theorem describes_registration (kind : CheckKind) (d : InstanceDescriptor) :
    Describes kind d (d.registration kind) where
  id := rfl
  name := rfl
  address := rfl
  port := rfl
  check := by
    cases kind <;> simp [InstanceDescriptor.registration, InstanceDescriptor.check,
      HealthCheck.protocol, HealthCheck.http, HealthCheck.effectiveInterval,
      HealthCheck.defaultInterval, Duration.isZero, checkTarget]
  tagged := d.name_mem_registrationTags
  tags_kept := fun there => if_pos there
  tags_added := fun missing => if_neg missing
  tags_settled := if_pos d.name_mem_registrationTags

theorem describes_iff (kind : CheckKind) (d : InstanceDescriptor) (r : Registration) :
    Describes kind d r ↔ r = d.registration kind := by
  constructor
  · intro said
    have whole := describes_registration kind d
    have tags : r.tags = d.registrationTags := by
      by_cases there : d.name ∈ d.tags
      · exact (said.tags_kept there).trans (whole.tags_kept there).symm
      · exact (said.tags_added there).trans (whole.tags_added there).symm
    have check : r.check = d.check kind := said.check.trans whole.check.symm
    cases r
    simp only [InstanceDescriptor.registration, Registration.mk.injEq]
    exact ⟨said.id, said.name, said.address, said.port, tags, check⟩
  · rintro rfl
    exact describes_registration kind d

def written? : Operation → Option Write
  | .register kind d =>
    if d.name = "" ∨ d.address = "" then none else some (.register (d.registration kind))
  | .deregister id => some (.deregister id)

def record? : Operation → Option Registration
  | .register kind d => some (d.registration kind)
  | .deregister _ => none

theorem validate_bare (d : InstanceDescriptor) (bare : d.name = "" ∨ d.address = "") :
    ∃ failure, d.validate = .error failure ∧ failure.code = .invalidRegistration := by
  unfold InstanceDescriptor.validate
  by_cases unnamed : d.name = ""
  · rw [if_pos unnamed]
    exact ⟨_, rfl, rfl⟩
  · rw [if_neg unnamed, if_pos (bare.resolve_left unnamed)]
    exact ⟨_, rfl, rfl⟩

section

variable {operation : Operation} {write : Write}

theorem run_unwritten (registry : String) (answer : Write → Except Failure Unit)
    (unwritten : written? operation = none) :
    ∃ failure, run registry answer operation = ⟨none, .error failure, []⟩ ∧
      failure.code = .invalidRegistration := by
  cases operation with
  | deregister id => cases unwritten
  | register kind d =>
      by_cases bare : d.name = "" ∨ d.address = ""
      · obtain ⟨failure, refused, code⟩ := validate_bare d bare
        exact ⟨failure, by simp only [run, refused], code⟩
      · rw [written?, if_neg bare] at unwritten
        cases unwritten

theorem run_written (registry : String) (answer : Write → Except Failure Unit)
    (written : written? operation = some write) :
    (run registry answer operation).write = some write ∧
      (run registry answer operation).result = (answer write).map fun _ => record? operation := by
  cases operation with
  | deregister id =>
      cases written
      exact ⟨rfl, rfl⟩
  | register kind d =>
      by_cases bare : d.name = "" ∨ d.address = ""
      · rw [written?, if_pos bare] at written
        cases written
      · rw [written?, if_neg bare] at written
        cases written
        have valid := d.validate_ok_iff.2 (not_or.1 bare)
        simp only [run, valid, record?, and_self]

theorem write_run (registry : String) (answer : Write → Except Failure Unit)
    (operation : Operation) : (run registry answer operation).write = written? operation := by
  cases written : written? operation with
  | none =>
      obtain ⟨failure, refused, _⟩ := run_unwritten registry answer written
      rw [refused]
  | some write => exact (run_written registry answer written).1

theorem run_congr (registry : String) (first second : Write → Except Failure Unit)
    (alike : ∀ write ∈ written? operation, first write = second write) :
    run registry first operation = run registry second operation := by
  cases operation with
  | deregister id => simp only [run, alike (.deregister id) rfl]
  | register kind d =>
      by_cases bare : d.name = "" ∨ d.address = ""
      · obtain ⟨failure, refused, _⟩ := validate_bare d bare
        simp only [run, refused]
      · have same := alike (.register (d.registration kind)) (if_neg bare)
        simp only [run, same]

end

-- A client's answer to a write. It may depend on all the writes before.
abbrev Client := List Write → Write → Except Failure Unit

-- Operations one after the other, where `past` has reached the client before them.
def outcomes (registry : String) (client : Client) :
    (past : List Write) → List Operation → List Outcome
  | _, [] => []
  | past, operation :: rest =>
    let outcome := run registry (client past) operation
    outcome :: outcomes registry client (past ++ outcome.write.toList) rest

section

variable {registry : String} {client : Client}

theorem writes_outcomes (past : List Write) (operations : List Operation) :
    (outcomes registry client past operations).filterMap Outcome.write =
      operations.filterMap written? := by
  induction operations generalizing past with
  | nil => rfl
  | cons operation rest ih =>
      rw [outcomes, List.filterMap_cons, List.filterMap_cons, write_run, ih]

theorem outcome_at (past : List Write) (before : List Operation) (operation : Operation)
    (after : List Operation) :
    (outcomes registry client past (before ++ operation :: after))[before.length]? =
      some (run registry (client (past ++ before.filterMap written?)) operation) := by
  induction before generalizing past with
  | nil => simp [outcomes]
  | cons first rest ih =>
      rw [List.cons_append, outcomes, List.length_cons, List.getElem?_cons_succ, ih, write_run,
        List.append_assoc]
      cases written : written? first <;> simp [written]

end

inductive Honoured (answer : Write → Except Failure Unit) : Operation → Outcome → Prop where
  | refused (kind : CheckKind) (d : InstanceDescriptor) (failure : Failure)
      (bare : d.name = "" ∨ d.address = "") (code : failure.code = .invalidRegistration) :
      Honoured answer (.register kind d) ⟨none, .error failure, []⟩
  | registered (kind : CheckKind) (d : InstanceDescriptor) (r : Registration) (outcome : Outcome)
      (named : d.name ≠ "") (located : d.address ≠ "") (described : Describes kind d r)
      (written : outcome.write = some (.register r))
      (result : outcome.result = (answer (.register r)).map fun _ => some r) :
      Honoured answer (.register kind d) outcome
  | deregistered (id : String) (outcome : Outcome)
      (written : outcome.write = some (.deregister id))
      (result : outcome.result = (answer (.deregister id)).map fun _ => none) :
      Honoured answer (.deregister id) outcome

theorem honoured_run (registry : String) (answer : Write → Except Failure Unit)
    (operation : Operation) : Honoured answer operation (run registry answer operation) := by
  cases operation with
  | deregister id => exact .deregistered id _ rfl rfl
  | register kind d =>
      by_cases bare : d.name = "" ∨ d.address = ""
      · have unwritten : written? (.register kind d) = none := if_pos bare
        obtain ⟨failure, refused, code⟩ := run_unwritten registry answer unwritten
        rw [refused]
        exact .refused kind d failure bare code
      · obtain ⟨named, located⟩ := not_or.1 bare
        have spoken : written? (.register kind d) = some (.register (d.registration kind)) :=
          if_neg bare
        obtain ⟨written, result⟩ := run_written registry answer spoken
        exact .registered kind d _ _ named located (describes_registration kind d) written result

/-- The writes that reach a client are those of the operations, in order. Each operation is
honoured with the client's own answer to its write, and comes to the same after any other
operations and with any other client that gives this answer. -/
theorem contract_with_client (registry : String) (client : Client) (operations : List Operation) :
    (outcomes registry client [] operations).filterMap Outcome.write =
      operations.filterMap written? ∧
    ∀ before operation after, operations = before ++ operation :: after →
      ∃ outcome, (outcomes registry client [] operations)[before.length]? = some outcome ∧
        Honoured (client (before.filterMap written?)) operation outcome ∧
        ∀ (other : Client) (earlier later : List Operation),
          (∀ write ∈ written? operation,
            other (earlier.filterMap written?) write =
              client (before.filterMap written?) write) →
          (outcomes registry other [] (earlier ++ operation :: later))[earlier.length]? =
            some outcome := by
  refine ⟨writes_outcomes [] operations, ?_⟩
  rintro before operation after rfl
  refine ⟨_, outcome_at [] before operation after, honoured_run registry _ operation, ?_⟩
  intro other earlier later alike
  rw [outcome_at, List.nil_append, List.nil_append]
  exact congrArg some (run_congr registry _ _ alike)

theorem contract_with_failing_client :
    let failure : Failure := .ofReason .registrationRejected "full"
    let client : Client := fun past _ => if past.length = 1 then .error failure else .ok ()
    let d : InstanceDescriptor := ⟨"svc", "10.0.0.1", 80, ["blue", "svc", "svc"], .zero⟩
    let r : Registration := ⟨"svc-10.0.0.1-80", "svc", "10.0.0.1", 80, ["blue", "svc", "svc"],
      ⟨.protocol, .ofSecs 10, "10.0.0.1:80/svc"⟩⟩
    let operations : List Operation :=
      [.register .http { d with address := "" }, .register .protocol d, .deregister "old"]
    let outcomes := outcomes "localhost:8500" client [] operations
    outcomes.filterMap Outcome.write = [.register r, .deregister "old"] ∧
      (∃ first, outcomes[1]? = some first ∧ first.result = .ok (some r)) ∧
      ∃ second, outcomes[2]? = some second ∧ second.result = .error failure := by
  intro failure client d r operations outcomes
  obtain ⟨writes, each⟩ := contract_with_client "localhost:8500" client operations
  obtain ⟨first, at_one, honoured, _⟩ :=
    each [.register .http { d with address := "" }] (.register .protocol d) [.deregister "old"] rfl
  obtain ⟨second, at_two, kept, _⟩ :=
    each [.register .http { d with address := "" }, .register .protocol d] (.deregister "old") []
      rfl
  refine ⟨writes.trans (by decide), ⟨first, at_one, ?_⟩, second, at_two, ?_⟩
  · cases honoured with
    | refused _ _ _ bare _ => exact absurd bare (by decide)
    | registered _ _ found _ _ _ described _ result =>
        have same : found = r := ((describes_iff .protocol d found).1 described).trans (by decide)
        rw [result, same]
        rfl
  · cases kept with
    | deregistered _ _ _ failed => exact failed

end ServiceDiscovery.Registrar
