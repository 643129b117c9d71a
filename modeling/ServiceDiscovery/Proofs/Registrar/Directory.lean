import Mathlib.Data.List.Induction
import ServiceDiscovery.Proofs.Text.Separator
import ServiceDiscovery.Registrar
import ServiceDiscovery.Target

namespace ServiceDiscovery.Registrar

structure Directory where
  records : List Registration
  distinct : records.Pairwise fun a b => a.id ≠ b.id

namespace Directory

def empty : Directory := ⟨[], .nil⟩

def drop (directory : Directory) (id : String) : Directory :=
  ⟨directory.records.filter (·.id ≠ id), directory.distinct.filter _⟩

theorem mem_drop (directory : Directory) (id : String) (r : Registration) :
    r ∈ (directory.drop id).records ↔ r ∈ directory.records ∧ r.id ≠ id := by
  simp [drop]

def put (directory : Directory) (r : Registration) : Directory where
  records := r :: (directory.drop r.id).records
  distinct := List.pairwise_cons.2
    ⟨fun other there => ((mem_drop directory r.id other).1 there).2.symm,
      (directory.drop r.id).distinct⟩

theorem mem_put (directory : Directory) (fresh r : Registration) :
    r ∈ (directory.put fresh).records ↔ r = fresh ∨ r ∈ directory.records ∧ r.id ≠ fresh.id := by
  rw [put, List.mem_cons, mem_drop]

def write (directory : Directory) : Write → Directory
  | .register r => directory.put r
  | .deregister id => directory.drop id

end Directory

-- A call on an instance, which is known by name, address and port. Its id is made of these.
inductive Call where
  | register (kind : CheckKind) (descriptor : InstanceDescriptor)
  | deregister (descriptor : InstanceDescriptor)
deriving DecidableEq

namespace Call

def descriptor : Call → InstanceDescriptor
  | .register _ d => d
  | .deregister d => d

def operation : Call → Operation
  | .register kind d => .register kind d
  | .deregister d => .deregister d.instanceId

abbrev Concerns (call : Call) (name address : String) (port : UInt16) : Prop :=
  call.descriptor.name = name ∧ call.descriptor.address = address ∧ call.descriptor.port = port

def Legal (call : Call) : Prop :=
  call.descriptor.validate = .ok () ∧ IsRun isServiceChar call.descriptor.name.toList

def Taken : Call → Prop
  | .register _ d => d.validate = .ok ()
  | .deregister _ => True

def Puts (call : Call) (r : Registration) : Prop :=
  ∃ kind d, call = .register kind d ∧ d.validate = .ok () ∧ r = d.registration kind

-- Whatever is on record under the id remains as it was.
def Spares (call : Call) (id : String) : Prop :=
  call.Taken → call.descriptor.instanceId ≠ id

theorem taken_of_legal (call : Call) (legal : call.Legal) : call.Taken := by
  cases call with
  | register kind d => exact legal.1
  | deregister d => trivial

end Call

def serve (registry : String) (directory : Directory) (call : Call) : Directory :=
  match (run registry (fun _ => .ok ()) call.operation).write with
  | some write => directory.write write
  | none => directory

def served (registry : String) (history : List Call) : Directory :=
  history.foldl (serve registry) .empty

def lastOn? (history : List Call) (name address : String) (port : UInt16) : Option Call :=
  history.reverse.find? fun call => call.Concerns name address port

theorem serve_register (registry : String) (directory : Directory) (kind : CheckKind)
    (d : InstanceDescriptor) (valid : d.validate = .ok ()) :
    serve registry directory (.register kind d) = directory.put (d.registration kind) := by
  simp only [serve, Call.operation, run, valid, Directory.write]

theorem serve_refused (registry : String) (directory : Directory) (kind : CheckKind)
    (d : InstanceDescriptor) (bad : d.validate ≠ .ok ()) :
    serve registry directory (.register kind d) = directory := by
  cases refused : d.validate with
  | ok => exact absurd refused bad
  | error failure => simp only [serve, Call.operation, run, refused]

theorem serve_deregister (registry : String) (directory : Directory) (d : InstanceDescriptor) :
    serve registry directory (.deregister d) = directory.drop d.instanceId := rfl

theorem mem_serve (registry : String) (directory : Directory) (call : Call) (r : Registration) :
    r ∈ (serve registry directory call).records ↔
      call.Puts r ∨ r ∈ directory.records ∧ call.Spares r.id := by
  cases call with
  | register kind d =>
      by_cases valid : d.validate = .ok ()
      · rw [serve_register registry directory kind d valid, Directory.mem_put]
        simp [Call.Puts, Call.Spares, Call.Taken, Call.descriptor, valid,
          InstanceDescriptor.registration, eq_comm]
      · rw [serve_refused registry directory kind d valid]
        simp [Call.Puts, Call.Spares, Call.Taken, valid]
  | deregister d =>
      rw [serve_deregister, Directory.mem_drop]
      simp [Call.Puts, Call.Spares, Call.Taken, Call.descriptor, eq_comm]

theorem last_on_append (history : List Call) (call : Call) (name address : String)
    (port : UInt16) :
    lastOn? (history ++ [call]) name address port =
      if call.Concerns name address port then some call else lastOn? history name address port := by
  rw [lastOn?, List.reverse_append, List.reverse_singleton, List.singleton_append, List.find?_cons]
  split <;> simp_all [lastOn?]

theorem dash_not_in_service (name : List Char) (run : IsRun isServiceChar name) : '-' ∉ name := by
  intro inside
  exact absurd (List.all_eq_true.1 run.2 '-' inside) (by decide)

-- What one instance has at the end of its name, the other has at the start of its address.
def Shifted (a b : InstanceDescriptor) : Prop :=
  ∃ part : String, a.name = b.name ++ "-" ++ part ∧ b.address = part ++ "-" ++ a.address

theorem shifted_iff (a b : InstanceDescriptor) :
    Shifted a b ↔ ∃ part, a.name.toList = b.name.toList ++ '-' :: part ∧
      b.address.toList = part ++ '-' :: a.address.toList := by
  constructor
  · rintro ⟨part, name, address⟩
    exact ⟨part.toList, by rw [name]; simp, by rw [address]; simp⟩
  · rintro ⟨part, name, address⟩
    refine ⟨.ofList part, String.toList_inj.1 ?_, String.toList_inj.1 ?_⟩
    · rw [name]
      simp
    · rw [address]
      simp

-- No port holds a dash, so the last one is where the port begins.
theorem instance_id_eq_iff (a b : InstanceDescriptor) :
    a.instanceId = b.instanceId ↔
      a.port = b.port ∧ (a.name = b.name ∧ a.address = b.address ∨ Shifted a b ∨ Shifted b a) := by
  have chars (d : InstanceDescriptor) : d.instanceId.toList =
      (d.name.toList ++ '-' :: d.address.toList) ++ '-' :: (toString d.port.toNat).toList := by
    simp [InstanceDescriptor.instanceId]
  rw [← String.toList_inj, chars, chars, shifted_iff, shifted_iff, ← String.toList_inj,
    ← String.toList_inj, ← Text.join_eq_iff]
  constructor
  · intro same
    obtain ⟨front, ports⟩ := Text.split_at_last '-' _ _ _ _
      (Text.not_mem_decimal '-' _ rfl) (Text.not_mem_decimal '-' _ rfl) same
    exact ⟨UInt16.toNat_inj.1 (Text.decimal_inj _ _ (String.toList_inj.1 ports)), front⟩
  · rintro ⟨port, front⟩
    rw [front, port]

theorem instance_id_inj (a b : InstanceDescriptor) (first : IsRun isServiceChar a.name.toList)
    (second : IsRun isServiceChar b.name.toList) :
    a.instanceId = b.instanceId ↔ a.name = b.name ∧ a.address = b.address ∧ a.port = b.port := by
  rw [instance_id_eq_iff]
  constructor
  · rintro ⟨port, ⟨name, address⟩ | ⟨part, name, _⟩ | ⟨part, name, _⟩⟩
    · exact ⟨name, address, port⟩
    · exact absurd (by rw [name]; simp) (dash_not_in_service _ first)
    · exact absurd (by rw [name]; simp) (dash_not_in_service _ second)
  · rintro ⟨name, address, port⟩
    exact ⟨port, .inl ⟨name, address⟩⟩

theorem concerns_iff (call : Call) (d : InstanceDescriptor) (legal : call.Legal)
    (named : IsRun isServiceChar d.name.toList) :
    call.Concerns d.name d.address d.port ↔ call.descriptor.instanceId = d.instanceId :=
  (instance_id_inj call.descriptor d legal.2 named).symm

theorem last_on_legal (history : List Call) (name address : String) (port : UInt16) (call : Call)
    (legal : ∀ call ∈ history, call.Legal) (last : lastOn? history name address port = some call) :
    call.Legal ∧ call.Concerns name address port := by
  have inside := List.mem_of_find?_eq_some last
  have concerned := List.find?_some last
  exact ⟨legal call (List.mem_reverse.1 inside), of_decide_eq_true concerned⟩

def Lists (directory : Directory) (history : List Call) : Prop :=
  ∀ r, r ∈ directory.records ↔
    ∃ kind d, lastOn? history r.name r.address r.port = some (.register kind d) ∧
      r = d.registration kind

section

variable {directory : Directory} {history : List Call} {call : Call} {r : Registration}

theorem listed_id (legal : ∀ call ∈ history, call.Legal) (lists : Lists directory history)
    (here : r ∈ directory.records) (allowed : call.Legal) :
    call.Concerns r.name r.address r.port ↔ call.descriptor.instanceId = r.id := by
  obtain ⟨kind, d, last, rfl⟩ := (lists r).1 here
  exact concerns_iff call d allowed (last_on_legal history _ _ _ _ legal last).1.2

theorem lists_call (registry : String) (legal : ∀ call ∈ history, call.Legal)
    (allowed : call.Legal) (lists : Lists directory history) :
    Lists (serve registry directory call) (history ++ [call]) := by
  intro r
  rw [mem_serve, last_on_append]
  by_cases concerned : call.Concerns r.name r.address r.port
  · rw [if_pos concerned]
    constructor
    · rintro (⟨kind, d, rfl, _, rfl⟩ | ⟨here, spared⟩)
      · exact ⟨kind, d, rfl, rfl⟩
      · exact absurd ((listed_id legal lists here allowed).1 concerned)
          (spared (call.taken_of_legal allowed))
    · rintro ⟨kind, d, same, rfl⟩
      cases same
      exact .inl ⟨kind, d, rfl, allowed.1, rfl⟩
  · rw [if_neg concerned, ← lists r]
    constructor
    · rintro (⟨kind, d, rfl, _, rfl⟩ | ⟨here, _⟩)
      · exact absurd ⟨rfl, rfl, rfl⟩ concerned
      · exact here
    · intro here
      exact .inr ⟨here, fun _ same => concerned ((listed_id legal lists here allowed).2 same)⟩

end

theorem lists_served (registry : String) (history : List Call)
    (legal : ∀ call ∈ history, call.Legal) : Lists (served registry history) history := by
  induction history using List.reverseRecOn with
  | nil =>
      intro r
      simp [served, Directory.empty, lastOn?]
  | append_singleton history call ih =>
      have earlier : ∀ call ∈ history, call.Legal := fun call inside =>
        legal call (List.mem_append_left _ inside)
      have allowed : call.Legal := legal call (by simp)
      rw [served, List.foldl_append, List.foldl_cons, List.foldl_nil]
      exact lists_call registry earlier allowed (ih earlier)

end ServiceDiscovery.Registrar
