import Mathlib.Algebra.Order.Field.Rat
import Mathlib.Tactic.NormNum
import ServiceDiscovery.Proofs.Consul.Registration
import ServiceDiscovery.Proofs.Consul.Writes
import ServiceDiscovery.Proofs.Interval.Announced
import ServiceDiscovery.Proofs.Url.Form

namespace ServiceDiscovery.Consul

open Http Json Url

-- A query for the health of a service, sent by a client that was made with these options and this
-- time for a request.
def Polled (options : ClientOptions) (timeout : Duration) (request : Request) : Prop :=
  ∃ address client transport query, Client.create address options timeout = .ok client ∧
    (client.health transport query).request = some request

def Registered (interval : Duration) (request : Request) : Prop :=
  ∃ client transport kind descriptor, descriptor.checkInterval = interval ∧
    (Client.operate client transport (.register kind descriptor)).request = some request

def waitOf? (request : Request) : Option Nat :=
  (request.url.query.bind fun query => lastValue? "wait" query.toList).bind Interval.denote?

def member? (name : String) : Json → Option Json
  | .object members => members.lookup name
  | _ => none

def checkedEvery? (request : Request) : Option Nat :=
  ((((request.body.bind fun body => jsonOfBytes? (bodyBytes body)).bind (member? "Check")).bind
    (member? "Interval")).bind text?).bind Interval.denote?

def heldFor (options : ClientOptions) : Duration := options.interval.shorter maxWaitTime

theorem nanos_held (options : ClientOptions) :
    (heldFor options).nanos = min options.interval.nanos (600 * 10 ^ 9) :=
  Duration.nanos_shorter _ _

theorem held_limited (options : ClientOptions) : heldFor options ≤ maxWaitTime := by
  have limited : (heldFor options).nanos ≤ 600 * 10 ^ 9 := by
    rw [nanos_held]
    exact Nat.min_le_right _ _
  exact limited

theorem held_mono {a b : ClientOptions} (shorter : a.interval ≤ b.interval) :
    heldFor a ≤ heldFor b := by
  have nanos : a.interval.nanos ≤ b.interval.nanos := shorter
  have fits : (heldFor a).nanos ≤ (heldFor b).nanos := by
    rw [nanos_held, nanos_held]
    omega
  exact fits

theorem wait_among_pairs (client : Client) (query : HealthQuery) :
    ∃ pair pairs, client.healthPairs query = pair :: pairs ∧
      (pair :: pairs).reverse.lookup "wait" = some (Interval.text client.waitTime) := by
  refine ⟨_, _, rfl, ?_⟩
  cases query.passingOnly with
  | true =>
      cases query.tag with
      | none => simp [List.lookup_cons]
      | some tag => simp [List.lookup_cons]
  | false =>
      cases query.tag with
      | none => simp
      | some tag => simp [List.lookup_cons]

section

variable {options : ClientOptions} {timeout : Duration} {request : Request}
  (polled : Polled options timeout request)

include polled

theorem wait_of_polled : waitOf? request = some (Interval.announced (heldFor options)) := by
  obtain ⟨address, client, transport, query, created, sent⟩ := polled
  have built := (health_sent_iff client transport query request).1 sent
  obtain ⟨url, _, _, _, same⟩ := request_built built
  obtain ⟨pair, pairs, written, last⟩ := wait_among_pairs client query
  have held : client.waitTime = heldFor options := by
    rw [client_of_created created]
    rfl
  rw [written, if_neg (List.cons_ne_nil _ _)] at same
  rw [waitOf?, same, last_value_with_pairs _ _ _ _ _ last, Option.bind_some, held,
    Interval.denote_text]

theorem timeout_of_polled :
    request.timeout.nanos =
      min ((heldFor options).nanos + (heldFor options).nanos / 16 + timeout.nanos)
        Duration.longest.nanos := by
  obtain ⟨address, client, transport, query, created, sent⟩ := polled
  have built := (health_sent_iff client transport query request).1 sent
  obtain ⟨_, _, _, waits, _⟩ := request_built built
  -- Ten minutes and a sixteenth of them are far from the longest span.
  have spread : ((heldFor options).add ((heldFor options).divide 16)).nanos =
      (heldFor options).nanos + (heldFor options).nanos / 16 := by
    have held := held_limited options
    have fits : (heldFor options).nanos + (heldFor options).nanos / 16 ≤ 2 ^ 64 * 10 ^ 9 - 1 := by
      have limited : (heldFor options).nanos ≤ 600 * 10 ^ 9 := held
      omega
    exact Nat.min_eq_left fits
  rw [waits, client_of_created created, Client.blockingTimeout, Duration.nanos_add]
  exact congrArg (fun nanos => min (nanos + timeout.nanos) _) spread

end

theorem create_fails_iff (address : String) (options : ClientOptions) (timeout : Duration)
    (named : address ≠ "") :
    (∃ failure, Client.create address options timeout = .error failure) ↔
      options.interval.nanos = 0 := by
  have zero : options.interval.isZero = true ↔ options.interval.nanos = 0 := beq_iff_eq
  rw [Client.create, if_neg named, ← zero]
  constructor
  · rintro ⟨failure, failed⟩
    split at failed
    · assumption
    · cases failed
  · intro none
    rw [if_pos none]
    exact ⟨_, rfl⟩

theorem held_positive {options : ClientOptions} {timeout : Duration} {request : Request}
    (polled : Polled options timeout request) : 0 < (heldFor options).nanos := by
  obtain ⟨address, client, _, _, created, _⟩ := polled
  have named : address ≠ "" := by
    rintro rfl
    cases created
  have positive : options.interval.nanos ≠ 0 := fun zero => by
    obtain ⟨failure, failed⟩ := (create_fails_iff address options timeout named).2 zero
    rw [failed] at created
    cases created
  rw [nanos_held]
  omega

theorem effective_interval_eq (d : Duration) :
    HealthCheck.effectiveInterval d = if d.nanos = 0 then .ofSecs 10 else d := by
  have zero : d.isZero = true ↔ d.nanos = 0 := beq_iff_eq
  simp only [HealthCheck.effectiveInterval, zero]
  rfl

theorem check_registered {interval : Duration} {request : Request}
    (registered : Registered interval request) :
    checkedEvery? request =
      some (Interval.announced (HealthCheck.effectiveInterval interval)) := by
  obtain ⟨client, transport, kind, descriptor, rfl, sent⟩ := registered
  have spoken : ¬ Bare (.register kind descriptor) := fun bare => by
    rw [(operate_bare bare).1] at sent
    cases sent
  have built : client.registerRequest (descriptor.registration kind) = .ok request :=
    (operate_sent_iff spoken request).1 sent
  obtain ⟨_, _, body, _⟩ := request_built built
  have every : (descriptor.registration kind).check.interval =
      HealthCheck.effectiveInterval descriptor.checkInterval := by
    cases kind with
    | protocol => rfl
    | http => rfl
  have read := json_of_body _ (plain_registration (descriptor.registration kind))
  rw [checkedEvery?, body, Option.bind_some, read, ← every, ← Interval.denote_text]
  rfl

/-- A client that has an address is refused just when its interval is zero. Else every one of its
queries asks the registry to hold it for a time that stands for the interval, cut off at ten
minutes, and a longer interval never asks for less. Likewise every registered check announces a
time that stands for its interval, or ten seconds for none. -/
theorem announced_durations :
    (∀ address options timeout, address ≠ "" →
      ((∃ failure, Client.create address options timeout = .error failure) ↔
        options.interval.nanos = 0)) ∧
    (∀ options timeout request, Polled options timeout request →
      ∃ wait, waitOf? request = some wait ∧ wait ≤ 600 * 10 ^ 9 ∧
        Interval.StandsFor wait (min options.interval.nanos (600 * 10 ^ 9)) ∧
        ∀ longer timeout other, Polled longer timeout other →
          options.interval ≤ longer.interval →
            ∃ more, waitOf? other = some more ∧ wait ≤ more) ∧
    ∀ interval request, Registered interval request →
      ∃ time, checkedEvery? request = some time ∧ time ≤ Duration.longest.nanos ∧
        (interval.nanos = 0 → time = 10 * 10 ^ 9) ∧
        (0 < interval.nanos → Interval.StandsFor time interval.nanos ∧
          ∀ longer other, Registered longer other → interval ≤ longer →
            ∃ more, checkedEvery? other = some more ∧ time ≤ more) := by
  refine ⟨create_fails_iff, fun options timeout request polled => ?_,
    fun interval request registered => ?_⟩
  · have held := nanos_held options
    have stands := Interval.announced_stands (heldFor options) (held_positive polled)
    refine ⟨_, wait_of_polled polled, Interval.announced_mono (held_limited options),
      held ▸ stands, ?_⟩
    intro longer _ other also_polled shorter
    exact ⟨_, wait_of_polled also_polled, Interval.announced_mono (held_mono shorter)⟩
  · refine ⟨_, check_registered registered, Interval.announced_bounded _, fun zero => ?_,
      fun positive => ⟨?_, fun longer other also_registered shorter => ?_⟩⟩
    · rw [effective_interval_eq, if_pos zero]
      rfl
    · rw [effective_interval_eq, if_neg (Nat.ne_of_gt positive)]
      exact Interval.announced_stands interval positive
    · have nanos : interval.nanos ≤ longer.nanos := shorter
      refine ⟨_, check_registered also_registered, ?_⟩
      rw [effective_interval_eq, if_neg (by omega), effective_interval_eq, if_neg (by omega)]
      exact Interval.announced_mono shorter

theorem announced_at_both_ends :
    let short : ClientOptions := ⟨.zero, 1, none⟩
    let long : ClientOptions := ⟨.ofSecs 1000, 1, none⟩
    (∃ failure, Client.create "consul.local:8500" short (.ofSecs 10) = .error failure) ∧
    (∃ request, Polled long (.ofSecs 10) request ∧ waitOf? request = some (600 * 10 ^ 9)) ∧
    ∃ request, Registered .zero request ∧ checkedEvery? request = some (10 * 10 ^ 9) := by
  intro short long
  obtain ⟨refused, polls, checks⟩ := announced_durations
  let client : Client :=
    ⟨"consul.local:8500", "http://consul.local:8500", none, .ofSecs 600, .ofSecs 10⟩
  let descriptor : InstanceDescriptor := ⟨"orders", "10.0.0.1", 80, [], .zero⟩
  refine ⟨(refused _ short _ (by decide)).2 rfl, ?_, ?_⟩
  · have asked : (client.health .silent { service := "orders" }).request.isSome := by
      decide +kernel
    obtain ⟨request, sent⟩ := Option.isSome_iff_exists.1 asked
    have created : Client.create "consul.local:8500" long (.ofSecs 10) = .ok client := by
      decide +kernel
    have polled : Polled long (.ofSecs 10) request := ⟨_, client, _, _, created, sent⟩
    have span : min long.interval.nanos (600 * 10 ^ 9) = 600 * 10 ^ 9 := by decide
    obtain ⟨wait, read, _, stands, _⟩ := polls long _ request polled
    rw [span] at stands
    rw [stands.exact (by decide)] at read
    exact ⟨request, polled, read⟩
  · have asked : (client.operate .silent
        (.register .http descriptor)).request.isSome := by
      decide +kernel
    obtain ⟨request, sent⟩ := Option.isSome_iff_exists.1 asked
    have registered : Registered .zero request := ⟨client, _, .http, descriptor, rfl, sent⟩
    obtain ⟨time, read, _, standard, _⟩ := checks .zero request registered
    rw [standard rfl] at read
    exact ⟨request, registered, read⟩

/-- A client waits for the answer to a query as long as the registry may take: the time that the
query announces, a sixteenth of it, and the time of any other request. Its own time is what it adds
up to where numbers have no bound, up to the longest span there is. -/
theorem client_outwaits_registry (options : ClientOptions) (timeout : Duration)
    (long : 10 ^ 6 ≤ options.interval.nanos) (request : Request)
    (polled : Polled options timeout request) :
    let held := min options.interval.nanos (600 * 10 ^ 9)
    request.timeout.nanos = min (held + held / 16 + timeout.nanos) Duration.longest.nanos ∧
    ∃ wait, waitOf? request = some wait ∧
      min ((wait : ℚ) + wait / 16 + timeout.nanos) Duration.longest.nanos ≤
        request.timeout.nanos := by
  intro held
  have own : (heldFor options).nanos = held := nanos_held options
  have exact_time := timeout_of_polled polled
  rw [own] at exact_time
  refine ⟨exact_time, _, wait_of_polled polled, ?_⟩
  -- What is announced is whole milliseconds, and a millisecond has whole sixteenths.
  obtain ⟨millis, whole⟩ := Interval.announced_whole (heldFor options)
  have least : Interval.announced (heldFor options) ≤ (heldFor options).nanos :=
    Interval.announced_le _ (by omega)
  have sixteenth : ((Interval.announced (heldFor options) : ℕ) : ℚ) / 16 =
      ((62500 * millis : ℕ) : ℚ) := by
    rw [div_eq_iff (by norm_num), whole]
    exact_mod_cast (by omega : 10 ^ 6 * millis = 62500 * millis * 16)
  rw [sixteenth, exact_time]
  have covered : Interval.announced (heldFor options) + 62500 * millis + timeout.nanos ≤
      held + held / 16 + timeout.nanos := by
    omega
  exact_mod_cast min_le_min_right _ covered

theorem outwaits_up_to_longest_span :
    let options : ClientOptions := ⟨⟨1999999, by decide⟩, 1, none⟩
    10 ^ 6 ≤ options.interval.nanos ∧
    (∃ request, Polled options .zero request ∧ request.timeout.nanos = 1999999 + 124999 ∧
      ∃ wait, waitOf? request = some wait ∧
        min ((wait : ℚ) + wait / 16 + Duration.zero.nanos) Duration.longest.nanos ≤
          request.timeout.nanos) ∧
    ∃ request, Polled options .longest request ∧
      request.timeout.nanos = Duration.longest.nanos := by
  intro options
  have long : 10 ^ 6 ≤ options.interval.nanos := by decide
  let client (timeout : Duration) : Client :=
    ⟨"consul.local:8500", "http://consul.local:8500", none, options.interval, timeout⟩
  let asked (timeout : Duration) : Option Request :=
    ((client timeout).health .silent { service := "orders" }).request
  have polled (timeout : Duration) (request : Request) (sent : asked timeout = some request) :
      Polled options timeout request :=
    ⟨"consul.local:8500", client timeout, _, _, rfl, sent⟩
  have law (timeout : Duration) (request : Request) (sent : asked timeout = some request) :=
    client_outwaits_registry options timeout long request (polled timeout request sent)
  refine ⟨long, ?_, ?_⟩
  · have sent : (asked .zero).isSome = true := by decide +kernel
    obtain ⟨request, sent⟩ := Option.isSome_iff_exists.1 sent
    obtain ⟨exact_time, outwaited⟩ := law _ request sent
    exact ⟨request, polled _ request sent, exact_time.trans (by decide), outwaited⟩
  · have sent : (asked .longest).isSome = true := by decide +kernel
    obtain ⟨request, sent⟩ := Option.isSome_iff_exists.1 sent
    exact ⟨request, polled _ request sent, (law _ request sent).1.trans (by decide)⟩

end ServiceDiscovery.Consul
