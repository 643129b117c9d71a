import ServiceDiscovery.Proofs.SchemeRegistry.Dispatch
import ServiceDiscovery.Proofs.Url.Reading
import ServiceDiscovery.Proofs.Watcher.Reached
import ServiceDiscovery.Resolver.Launch

namespace ServiceDiscovery

open Watcher

-- What a loop has done at some moment, whatever the registry answers and the sink does.
def Loop.Did (loop : Loop) (actions : List Action) : Prop :=
  ∃ answers sink history t, Reached loop.watcher answers sink history t ∧ t.actions = actions

namespace Launch

variable {α β : Type}

def Asks (launch : Launch α) (query : HealthQuery) : Prop :=
  ∃ loop ∈ launch.loops, ∃ actions, loop.Did actions ∧ query ∈ asked actions

def Pushes (launch : Launch α) (snapshot : AddressSet) : Prop :=
  ∃ loop ∈ launch.loops, ∃ actions, loop.Did actions ∧ snapshot ∈ pushed actions

structure Started (launch : Launch Resolver) (target : Target) (loop : Loop) : Prop where
  result : launch.result = .ok ⟨target, .watching, false⟩
  loops : launch.loops = [loop]
  asks : launch.Asks (loop.watcher.query .initial)

theorem of_ok_bind (a : α) (next : α → Launch β) : (of (.ok a) >>= next) = next a := rfl

theorem of_error_bind (failure : Failure) (next : α → Launch β) :
    (of (.error failure) >>= next) = ⟨.error failure, [], []⟩ := rfl

theorem idle {launch : Launch α} (none : launch.loops = []) :
    (∀ query, ¬ launch.Asks query) ∧ ∀ snapshot, ¬ launch.Pushes snapshot := by
  constructor
  · rintro query ⟨loop, started, _⟩
    rw [none] at started
    cases started
  · rintro snapshot ⟨loop, started, _⟩
    rw [none] at started
    cases started

end Launch

theorem first_query (loop : Loop) :
    ∃ actions, loop.Did actions ∧ loop.watcher.query .initial ∈ asked actions :=
  ⟨_, ⟨[], [], _, _, .taken .start rfl, rfl⟩, List.mem_singleton.2 rfl⟩

namespace ResolverBuilder

variable {builder : ResolverBuilder} {retry : Option RetryPolicy} {around : Surroundings}
  {outlet : Outlet} {connectTimeout : Duration} {raw : String} {target : Target}
  {client : Consul.Client} {failure : Failure}

-- The failure of the first stage that fails, before any runtime is needed.
inductive FirstFailure (builder : ResolverBuilder) (around : Surroundings) (raw : String) :
    Failure → Prop where
  | scheme (failure : Failure) (refused : stripScheme raw builder.scheme = .error failure) :
      FirstFailure builder around raw failure
  | target (rest : String) (failure : Failure)
      (stripped : stripScheme raw builder.scheme = .ok rest)
      (refused : Target.parse rest = .error failure) : FirstFailure builder around raw failure
  | client (rest : String) (target : Target) (failure : Failure)
      (stripped : stripScheme raw builder.scheme = .ok rest)
      (parsed : Target.parse rest = .ok target)
      (refused : builder.connectedClient around target = .error failure) :
      FirstFailure builder around raw failure

structure Prepared (builder : ResolverBuilder) (around : Surroundings) (raw : String)
    (target : Target) (client : Consul.Client) : Prop where
  parsed : builder.parseTarget raw = .ok target
  connected : builder.connectedClient around target = .ok client

theorem parse_target_eq (builder : ResolverBuilder) (raw : String) :
    builder.parseTarget raw = (stripScheme raw builder.scheme).bind Target.parse := rfl

theorem stages (builder : ResolverBuilder) (around : Surroundings) (raw : String) :
    (∃ failure, FirstFailure builder around raw failure) ∨
      ∃ target client, Prepared builder around raw target client := by
  cases stripped : stripScheme raw builder.scheme with
  | error failure => exact .inl ⟨failure, .scheme failure stripped⟩
  | ok rest =>
      cases parsed : Target.parse rest with
      | error failure => exact .inl ⟨failure, .target rest failure stripped parsed⟩
      | ok target =>
          cases connected : builder.connectedClient around target with
          | error failure =>
              exact .inl ⟨failure, .client rest target failure stripped parsed connected⟩
          | ok client =>
              refine .inr ⟨target, client, ?_, connected⟩
              rw [parse_target_eq, stripped]
              exact parsed

theorem unprepared (first : FirstFailure builder around raw failure) :
    ¬ ∃ target client, Prepared builder around raw target client := by
  rintro ⟨target, client, parsed, connected⟩
  rw [parse_target_eq] at parsed
  cases first with
  | scheme _ refused =>
      rw [refused] at parsed
      cases parsed
  | target rest _ stripped refused =>
      rw [stripped] at parsed
      cases parsed.symm.trans refused
  | client rest other _ stripped read refused =>
      rw [stripped] at parsed
      cases parsed.symm.trans read
      cases connected.symm.trans refused

theorem launch_failing (first : FirstFailure builder around raw failure) :
    builder.launch retry around outlet raw = ⟨.error failure, [], []⟩ := by
  cases first with
  | scheme _ refused =>
      have unparsed : builder.parseTarget raw = .error failure := by
        rw [parse_target_eq, refused]
        rfl
      rw [launch, unparsed, Launch.of_error_bind]
  | target rest _ stripped refused =>
      have unparsed : builder.parseTarget raw = .error failure := by
        rw [parse_target_eq, stripped]
        exact refused
      rw [launch, unparsed, Launch.of_error_bind]
  | client rest target _ stripped parsed refused =>
      have read : builder.parseTarget raw = .ok target := by
        rw [parse_target_eq, stripped]
        exact parsed
      rw [launch, read, Launch.of_ok_bind, refused, Launch.of_error_bind]

theorem launch_prepared (prepared : Prepared builder around raw target client) :
    builder.launch retry around outlet raw =
      builder.launchWithClient retry around outlet target client := by
  rw [launch, prepared.parsed, Launch.of_ok_bind, prepared.connected, Launch.of_ok_bind]

theorem launched_inside (inside : around.inRuntime = true) :
    builder.launchWithClient retry around outlet target client =
      ⟨.ok ⟨target, .watching, false⟩, [⟨builder.watcher retry around target, client, outlet⟩],
        (Resolver.start target).2⟩ := by
  rw [launchWithClient, inside]
  rfl

theorem started_inside (prepared : Prepared builder around raw target client)
    (inside : around.inRuntime = true) :
    (builder.launch retry around outlet raw).Started target
      ⟨builder.watcher retry around target, client, outlet⟩ := by
  rw [launch_prepared prepared, launched_inside inside]
  refine ⟨rfl, rfl, ?_⟩
  exact ⟨_, List.mem_singleton.2 rfl, first_query _⟩

theorem unstarted_outside (prepared : Prepared builder around raw target client)
    (outside : around.inRuntime = false) :
    ∃ failure, builder.launch retry around outlet raw = ⟨.error failure, [], []⟩ ∧
      failure.code = .internalError := by
  rw [launch_prepared prepared, launchWithClient, outside]
  exact ⟨_, rfl, rfl⟩

-- The balancer is made between two readings of the target, of which the second cannot fail.
theorem balanced_inside (inside : around.inRuntime = true) :
    builder.launchBalanced retry around connectTimeout raw =
      builder.launch retry around (.balancer (.create balancerCapacity (some connectTimeout)))
        raw := by
  have runtime : checkRuntime around = .ok () := if_pos inside
  rw [launchBalanced, runtime, Launch.of_ok_bind]
  cases parsed : builder.parseTarget raw with
  | error failure =>
      rw [Launch.of_error_bind, launch, parsed, Launch.of_error_bind]
  | ok target => rw [Launch.of_ok_bind]

theorem balanced_outside (outside : around.inRuntime = false) :
    ∃ failure, builder.launchBalanced retry around connectTimeout raw = ⟨.error failure, [], []⟩ ∧
      failure.code = .internalError := by
  rw [launchBalanced, checkRuntime, outside]
  exact ⟨_, rfl, rfl⟩

theorem connected_client_cases (builder : ResolverBuilder) (around : Surroundings)
    (target : Target) :
    (builder.options.interval.nanos = 0 ∧
      ∃ failure, builder.connectedClient around target = .error failure ∧
        failure.code = .configurationError) ∨
    builder.options.interval.nanos ≠ 0 ∧
      ∀ failure, builder.connectedClient around target = .error failure →
        failure.code = .clientBuildFailed := by
  have zero : builder.options.interval.isZero = true ↔ builder.options.interval.nanos = 0 :=
    beq_iff_eq
  rw [connectedClient, client, Consul.Client.create, if_neg (Url.address_ne_empty target)]
  by_cases none : builder.options.interval.nanos = 0
  · rw [if_pos (zero.2 none)]
    exact .inl ⟨none, _, rfl, rfl⟩
  · rw [if_neg fun same => none (zero.1 same)]
    refine .inr ⟨none, fun failure refused => ?_⟩
    cases fault : around.httpFault with
    | none =>
        rw [fault] at refused
        cases refused
    | some cause =>
        rw [fault] at refused
        cases refused
        rfl

theorem first_failure_code (first : FirstFailure builder around raw failure) :
    failure.code ≠ .internalError := by
  cases first with
  | scheme _ refused =>
      unfold stripScheme at refused
      split at refused
      · cases refused
      · split at refused
        · cases refused
        · cases refused
          exact (by decide : FailureCode.unsupportedScheme ≠ .internalError)
  | target rest _ _ refused =>
      rcases parse_code rest failure refused with code | code
      · rw [code]
        decide
      · rw [code]
        decide
  | client rest target _ _ _ refused =>
      rcases connected_client_cases builder around target with ⟨_, other, same, code⟩ | ⟨_, codes⟩
      · cases same.symm.trans refused
        rw [code]
        decide
      · rw [codes failure refused]
        decide

theorem configuration_iff (inside : around.inRuntime = true)
    (parsed : builder.parseTarget raw = .ok target) :
    (∃ failure, (builder.launch retry around outlet raw).result = .error failure ∧
      failure.code = .configurationError) ↔ builder.options.interval.nanos = 0 := by
  rw [launch, parsed, Launch.of_ok_bind]
  rcases connected_client_cases builder around target with ⟨zero, failure, refused, code⟩ |
    ⟨positive, codes⟩
  · rw [refused, Launch.of_error_bind]
    exact ⟨fun _ => zero, fun _ => ⟨failure, rfl, code⟩⟩
  · refine ⟨?_, fun zero => absurd zero positive⟩
    rintro ⟨failure, failed, code⟩
    cases connected : builder.connectedClient around target with
    | error other =>
        rw [connected, Launch.of_error_bind] at failed
        cases failed
        rw [codes failure connected] at code
        cases code
    | ok client =>
        rw [connected, Launch.of_ok_bind, launched_inside inside] at failed
        cases failed

theorem launched_inside_alike (builder : ResolverBuilder) (retry : Option RetryPolicy)
    (outlet : Outlet) (connectTimeout : Duration) (raw : String)
    (inside : around.inRuntime = true) :
    (∃ failure, FirstFailure builder around raw failure ∧
      (builder.launch retry around outlet raw).result = .error failure ∧
      (builder.launchBalanced retry around connectTimeout raw).result = .error failure) ∨
    ∃ target client, Prepared builder around raw target client ∧
      (builder.launch retry around outlet raw).Started target
        ⟨builder.watcher retry around target, client, outlet⟩ ∧
      (builder.launchBalanced retry around connectTimeout raw).Started target
        ⟨builder.watcher retry around target, client,
          .balancer (.create balancerCapacity (some connectTimeout))⟩ := by
  rw [balanced_inside inside]
  rcases stages builder around raw with ⟨failure, first⟩ | ⟨target, client, prepared⟩
  · refine .inl ⟨failure, first, ?_, ?_⟩
    · rw [launch_failing first]
    · rw [launch_failing first]
  · exact .inr ⟨target, client, prepared, started_inside prepared inside,
      started_inside prepared inside⟩

theorem launch_outside (builder : ResolverBuilder) (retry : Option RetryPolicy)
    (outlet : Outlet) (raw : String) (outside : around.inRuntime = false) :
    ∃ failure, builder.launch retry around outlet raw = ⟨.error failure, [], []⟩ ∧
      (failure.code = .internalError ↔
        ∃ target client, Prepared builder around raw target client) := by
  rcases stages builder around raw with ⟨failure, first⟩ | ⟨target, client, prepared⟩
  · refine ⟨failure, launch_failing first, ?_, ?_⟩
    · exact fun code => absurd code (first_failure_code first)
    · exact fun prepared => absurd prepared (unprepared first)
  · obtain ⟨failure, failed, code⟩ := unstarted_outside prepared outside
    exact ⟨failure, failed, fun _ => ⟨target, client, prepared⟩, fun _ => code⟩

theorem launch_cases (builder : ResolverBuilder) (retry : Option RetryPolicy)
    (around : Surroundings) (outlet : Outlet) (raw : String) :
    (∃ failure, builder.launch retry around outlet raw = ⟨.error failure, [], []⟩) ∨
      ∃ resolver, (builder.launch retry around outlet raw).result = .ok resolver := by
  cases inside : around.inRuntime with
  | true =>
      rcases stages builder around raw with ⟨failure, first⟩ | ⟨target, client, prepared⟩
      · exact .inl ⟨failure, launch_failing first⟩
      · exact .inr ⟨_, (started_inside prepared inside).result⟩
  | false =>
      obtain ⟨failure, failed, _⟩ := launch_outside builder retry outlet raw inside
      exact .inl ⟨failure, failed⟩

theorem launch_balanced_cases (builder : ResolverBuilder) (retry : Option RetryPolicy)
    (around : Surroundings) (connectTimeout : Duration) (raw : String) :
    (∃ failure, builder.launchBalanced retry around connectTimeout raw = ⟨.error failure, [], []⟩) ∨
      ∃ resolver,
        (builder.launchBalanced retry around connectTimeout raw).result = .ok resolver := by
  cases inside : around.inRuntime with
  | true =>
      rw [balanced_inside inside]
      exact launch_cases builder retry around _ raw
  | false =>
      obtain ⟨failure, failed, _⟩ := balanced_outside inside
      exact .inl ⟨failure, failed⟩

theorem nothing_started {launch : Launch Resolver}
    (either : (∃ failure, launch = ⟨.error failure, [], []⟩) ∨
      ∃ resolver, launch.result = .ok resolver)
    (failure : Failure) (failed : launch.result = .error failure) :
    launch.loops = [] ∧ (∀ query, ¬ launch.Asks query) ∧ ∀ snapshot, ¬ launch.Pushes snapshot := by
  have none : launch.loops = [] := by
    rcases either with ⟨other, rfl⟩ | ⟨resolver, succeeded⟩
    · rfl
    · cases failed.symm.trans succeeded
  exact ⟨none, Launch.idle none⟩

theorem launch_reports (connects : around.httpFault = none) :
    (builder.launch retry around outlet raw).attempt = builder.build around.inRuntime raw := by
  have same (target : Target) : builder.connectedClient around target = builder.client target := by
    rw [connectedClient, connects]
    cases builder.client target <;> rfl
  rw [build, launch]
  cases builder.parseTarget raw with
  | error failure => rfl
  | ok target =>
      change _ = attempt (builder.client target >>= fun _ => start around.inRuntime target)
      rw [Launch.of_ok_bind, same]
      cases builder.client target with
      | error failure => rfl
      | ok client =>
          rw [Launch.of_ok_bind, launchWithClient]
          cases around.inRuntime <;> rfl

theorem launch_balanced_reports (connects : around.httpFault = none) :
    (builder.launchBalanced retry around connectTimeout raw).attempt =
      builder.connectBalanced around.inRuntime raw := by
  cases inside : around.inRuntime with
  | true =>
      rw [balanced_inside inside, launch_reports connects, inside, connectBalanced, if_pos rfl]
      cases parsed : builder.parseTarget raw with
      | error failure =>
          rw [build, parsed]
          rfl
      | ok target => rfl
  | false =>
      rw [launchBalanced, checkRuntime, inside]
      rfl

/-- Inside a runtime both ways to launch a resolver fail alike, with the failure of the first stage
that fails, or both give a resolver that watches the target, with one loop. Outside both fail: the
balanced one at once, the other with the failure of an earlier stage, if one fails. A launch that
fails starts no loop, so nothing is asked and nothing is pushed, however long one waits. Where HTTP
clients can be made, a launch reports what building and connecting report. -/
theorem launched_alike_or_not_at_all (builder : ResolverBuilder) (retry : Option RetryPolicy)
    (around : Surroundings) (outlet : Outlet) (connectTimeout : Duration) (raw : String) :
    let built := builder.launch retry around outlet raw
    let balanced := builder.launchBalanced retry around connectTimeout raw
    (around.inRuntime = true →
      (∃ failure, FirstFailure builder around raw failure ∧
        built.result = .error failure ∧ balanced.result = .error failure) ∨
      ∃ target client, Prepared builder around raw target client ∧
        built.Started target ⟨builder.watcher retry around target, client, outlet⟩ ∧
        balanced.Started target ⟨builder.watcher retry around target, client,
          .balancer (.create balancerCapacity (some connectTimeout))⟩) ∧
    (around.inRuntime = true → ∀ target, builder.parseTarget raw = .ok target →
      ∀ launch ∈ [built, balanced],
        ((∃ failure, launch.result = .error failure ∧ failure.code = .configurationError) ↔
          builder.options.interval.nanos = 0)) ∧
    (around.inRuntime = false →
      (∃ failure, balanced.result = .error failure ∧ failure.code = .internalError) ∧
      ∃ failure, built.result = .error failure ∧
        (failure.code = .internalError ↔
          ∃ target client, Prepared builder around raw target client)) ∧
    (∀ launch ∈ [built, balanced], ∀ failure, launch.result = .error failure →
      launch.loops = [] ∧ (∀ query, ¬ launch.Asks query) ∧
        ∀ snapshot, ¬ launch.Pushes snapshot) ∧
    (around.httpFault = none →
      built.attempt = builder.build around.inRuntime raw ∧
      balanced.attempt = builder.connectBalanced around.inRuntime raw) := by
  intro built balanced
  refine ⟨launched_inside_alike builder retry outlet connectTimeout raw,
    fun inside target parsed => ?_, fun outside => ⟨?_, ?_⟩, ?_,
    fun connects => ⟨launch_reports connects, launch_balanced_reports connects⟩⟩
  · have alike : balanced = builder.launch retry around
        (.balancer (.create balancerCapacity (some connectTimeout))) raw :=
      balanced_inside inside
    simp only [List.forall_mem_cons, List.not_mem_nil, false_implies, implies_true, and_true, alike]
    exact ⟨configuration_iff inside parsed, configuration_iff inside parsed⟩
  · have failing : ∃ failure, balanced = ⟨.error failure, [], []⟩ ∧ failure.code = .internalError :=
      balanced_outside outside
    obtain ⟨failure, failed, code⟩ := failing
    exact ⟨failure, congrArg Launch.result failed, code⟩
  · obtain ⟨failure, failed, code⟩ := launch_outside builder retry outlet raw outside
    exact ⟨failure, congrArg Launch.result failed, code⟩
  · simp only [List.forall_mem_cons, List.not_mem_nil, false_implies, implies_true, and_true]
    exact ⟨nothing_started (launch_cases builder retry around outlet raw),
      nothing_started (launch_balanced_cases builder retry around connectTimeout raw)⟩

theorem launched_by_default_builder :
    let around (inRuntime : Bool) : Surroundings := ⟨inRuntime, none, fun _ => 0⟩
    let instant : ResolverBuilder :=
      { default with options := { ClientOptions.default with interval := .ofSecs 0 } }
    let raw := "Consul://localhost:8500/web"
    let target : Target := ⟨"localhost", 8500, "web", by decide, by decide⟩
    (∃ loop, (default.launch none (around true) .given raw).Started target loop) ∧
    (∃ loop, (default.launchBalanced none (around true) (.ofSecs 5) raw).Started target loop) ∧
    (∃ failure,
      (instant.launchBalanced none (around true) (.ofSecs 5) raw).result = .error failure ∧
      failure.code = .configurationError) ∧
    (∃ failure, (default.launch none (around false) .given raw).result = .error failure ∧
      failure.code = .internalError) ∧
    ∀ query, ¬ (default.launch none (around false) .given raw).Asks query := by
  intro around instant raw target
  have law (builder : ResolverBuilder) (inRuntime : Bool) :=
    launched_alike_or_not_at_all builder none (around inRuntime) .given (.ofSecs 5) raw
  have parsed (builder : ResolverBuilder) (named : builder.scheme = "consul") :
      builder.parseTarget raw = .ok target := by
    rw [parseTarget, named]
    decide +kernel
  have prepared (inRuntime : Bool) :
      ∃ target client, Prepared default (around inRuntime) raw target client :=
    ⟨target, _, parsed default rfl, rfl⟩
  obtain ⟨inside, _⟩ := law default true
  obtain ⟨_, configuration, _⟩ := law instant true
  obtain ⟨_, _, outside, quiet, _⟩ := law default false
  rcases inside rfl with ⟨_, first, _⟩ | ⟨other, _, now, built, balanced⟩
  · exact absurd (prepared true) (unprepared first)
  · cases now.parsed.symm.trans (parsed default rfl)
    obtain ⟨_, failure, failed, code⟩ := outside rfl
    refine ⟨⟨_, built⟩, ⟨_, balanced⟩, ?_, ⟨failure, failed, code.2 (prepared false)⟩, ?_⟩
    · exact (configuration rfl target (parsed instant rfl) _ (by simp)).2 rfl
    · exact (quiet _ List.mem_cons_self failure failed).2.1

end ResolverBuilder

end ServiceDiscovery
