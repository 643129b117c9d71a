import Mathlib.Data.List.Perm.Basic
import ServiceDiscovery.Json.Record

namespace ServiceDiscovery.Json

-- The members of an object that are read, and what those that may be missing then stand for.
structure Shape where
  names : List String
  standing : List (String × Json)

-- A change to an object that its reader does not notice, if none inside one of its members is.
inductive Shape.Edit (shape : Shape) (inner : String → Json → Json → Prop) :
    Json → Json → Prop where
  | insert (before after : List (String × Json)) (name : String) (v : Json)
      (unknown : name ∉ shape.names) :
      Edit shape inner (.object (before ++ after)) (.object (before ++ (name, v) :: after))
  | permute (members others : List (String × Json)) (same : members.Perm others) :
      Edit shape inner (.object members) (.object others)
  | supply (before after : List (String × Json)) (name : String) (v : Json)
      (stands : (name, v) ∈ shape.standing) (missing : ∀ w, (name, w) ∉ before ++ after) :
      Edit shape inner (.object (before ++ after)) (.object (before ++ (name, v) :: after))
  | inside (before after : List (String × Json)) (name : String) (v w : Json)
      (edit : inner name v w) :
      Edit shape inner (.object (before ++ (name, v) :: after))
        (.object (before ++ (name, w) :: after))

inductive ItemEdit (edit : Json → Json → Prop) : Json → Json → Prop where
  | one (before after : List Json) (v w : Json) (changed : edit v w) :
      ItemEdit edit (.array (before ++ v :: after)) (.array (before ++ w :: after))

def valuesOf (name : String) (members : List (String × Json)) : List Json :=
  (members.filter (·.1 == name)).map Prod.snd

theorem values_append (name : String) (before after : List (String × Json)) :
    valuesOf name (before ++ after) = valuesOf name before ++ valuesOf name after := by
  rw [valuesOf, List.filter_append, List.map_append, valuesOf, valuesOf]

theorem values_cons_same (name : String) (v : Json) (rest : List (String × Json)) :
    valuesOf name ((name, v) :: rest) = v :: valuesOf name rest := by
  simp [valuesOf]

theorem values_cons_other {name other : String} (differs : other ≠ name) (v : Json)
    (rest : List (String × Json)) : valuesOf name ((other, v) :: rest) = valuesOf name rest := by
  simp [valuesOf, differs]

theorem mem_values (name : String) (v : Json) (members : List (String × Json)) :
    v ∈ valuesOf name members ↔ (name, v) ∈ members := by
  simp [valuesOf]

theorem lookup_values (name : String) (members : List (String × Json)) :
    members.lookup name = (valuesOf name members).head? := by
  induction members with
  | nil => rfl
  | cons member rest ih =>
      obtain ⟨other, v⟩ := member
      by_cases same : other = name
      · subst same
        rw [values_cons_same, List.lookup_cons_self, List.head?_cons]
      · have unequal : (name == other) = false := beq_false_of_ne (Ne.symm same)
        rw [values_cons_other same, List.lookup_cons, unequal]
        exact ih

theorem perm_of_single {values others : List Json} (same : values.Perm others)
    (single : values.length ≤ 1) : values = others := by
  match values, single with
  | [], _ => exact same.nil_eq
  | [v], _ => exact List.singleton_perm.1 same

def Once (names : List String) (members : List (String × Json)) : Prop :=
  ∀ name ∈ names, (valuesOf name members).length ≤ 1

theorem fields_once (names : List String) (members : List (String × Json))
    (once : Once names members) :
    (object members).fields? names = some fun name => members.lookup name := by
  refine if_pos (List.all_eq_true.2 fun name known => decide_eq_true ?_)
  have single := once name known
  rwa [valuesOf, List.length_map] at single

theorem once_of_fields {names : List String} {members : List (String × Json)} {fields : Fields Json}
    (read : (object members).fields? names = some fields) :
    Once names members ∧ fields = fun name => members.lookup name := by
  rw [fields?, Fields.ofMembers?] at read
  split at read
  · rename_i all
    cases read
    refine ⟨fun name known => ?_, rfl⟩
    have single := of_decide_eq_true (List.all_eq_true.1 all name known)
    rwa [valuesOf, List.length_map]
  · cases read

inductive Shape.Shown (shape : Shape) (inner : String → Json → Json → Prop) (name : String) :
    Option Json → Option Json → Prop where
  | same (v : Option Json) : Shown shape inner name v v
  | supplied (v : Json) (stands : (name, v) ∈ shape.standing) : Shown shape inner name none (some v)
  | changed (v w : Json) (edit : inner name v w) : Shown shape inner name (some v) (some w)

-- All values of one name before and after a change. A name that comes twice makes the object
-- unreadable, so of several values nothing more need be said.
structure Shape.Follows (shape : Shape) (inner : String → Json → Json → Prop) (name : String)
    (values others : List Json) : Prop where
  single : values.length ≤ 1 ↔ others.length ≤ 1
  shown : values.length ≤ 1 → shape.Shown inner name values.head? others.head?

section

variable {shape : Shape} {inner : String → Json → Json → Prop}
  {members others : List (String × Json)}

theorem follows_self (name : String) (values : List Json) :
    shape.Follows inner name values values := ⟨Iff.rfl, fun _ => .same _⟩

theorem values_edited (edit : shape.Edit inner (.object members) (.object others)) (name : String)
    (known : name ∈ shape.names) :
    shape.Follows inner name (valuesOf name members) (valuesOf name others) := by
  cases edit with
  | insert before after other v unknown =>
      have differs : other ≠ name := fun same => unknown (same ▸ known)
      rw [values_append, values_append, values_cons_other differs]
      exact follows_self name _
  | permute _ _ same =>
      have values : (valuesOf name members).Perm (valuesOf name others) :=
        (same.filter _).map Prod.snd
      refine ⟨by rw [values.length_eq], fun single => ?_⟩
      rw [perm_of_single values single]
      exact .same _
  | supply before after other v stands missing =>
      by_cases same : other = name
      · subst same
        have none : valuesOf other (before ++ after) = [] :=
          List.eq_nil_iff_forall_not_mem.2 fun w inside =>
            missing w ((mem_values other w _).1 inside)
        rw [values_append] at none
        obtain ⟨first, second⟩ := List.append_eq_nil_iff.1 none
        rw [values_append, values_append, values_cons_same, first, second]
        exact ⟨by simp, fun _ => .supplied v stands⟩
      · rw [values_append, values_append, values_cons_other same]
        exact follows_self name _
  | inside before after other v w edit =>
      by_cases same : other = name
      · subst same
        rw [values_append, values_append, values_cons_same, values_cons_same]
        refine ⟨by simp, fun single => ?_⟩
        have empty : valuesOf other before = [] := by
          rw [← List.length_eq_zero_iff]
          rw [List.length_append, List.length_cons] at single
          omega
        rw [empty]
        exact .changed v w edit
      · rw [values_append, values_append, values_cons_other same, values_cons_other same]
        exact follows_self name _

end

section

variable {α : Type} {shape : Shape} {inner : String → Json → Json → Prop} {j k : Json}

theorem fields_alike (edit : shape.Edit inner j k) (next : Fields Json → Option α)
    (alike : ∀ f g : Fields Json,
      (∀ name ∈ shape.names, shape.Shown inner name (f name) (g name)) → next f = next g) :
    (j.fields? shape.names).bind next = (k.fields? shape.names).bind next := by
  obtain ⟨members, others, rfl, rfl⟩ :
      ∃ members others, j = .object members ∧ k = .object others := by
    cases edit <;> exact ⟨_, _, rfl, rfl⟩
  have edited := values_edited edit
  by_cases once : Once shape.names members
  · have again : Once shape.names others := fun name known =>
      (edited name known).single.1 (once name known)
    rw [fields_once _ _ once, fields_once _ _ again]
    refine alike _ _ fun name known => ?_
    rw [lookup_values, lookup_values]
    exact (edited name known).shown (once name known)
  · have unread (members : List (String × Json)) (repeated : ¬ Once shape.names members) :
        (object members).fields? shape.names = none :=
      Option.eq_none_iff_forall_ne_some.2 fun fields read => repeated (once_of_fields read).1
    rw [unread members once, unread others fun again => once fun name known =>
      (edited name known).single.2 (again name known)]

variable {f g : Fields Json} {name : String} {read? : Json → Option α}

theorem defaulted_alike {default : α} (w : Json)
    (shown : shape.Shown inner name (f name) (g name))
    (stands : ∀ v, (name, v) ∈ shape.standing → v = w) (read : read? w = some default)
    (inside : ∀ v w, inner name v w → read? v = read? w) :
    f.defaulted name default read? = g.defaulted name default read? := by
  unfold Fields.defaulted
  generalize f name = v, g name = w at shown ⊢
  cases shown with
  | same v => rfl
  | supplied v standing =>
      rw [stands v standing]
      exact read.symm
  | changed v w edit => exact inside v w edit

theorem required_alike (shown : shape.Shown inner name (f name) (g name))
    (missing : ∀ v, (name, v) ∉ shape.standing)
    (inside : ∀ v w, inner name v w → read? v = read? w) :
    f.required name read? = g.required name read? := by
  unfold Fields.required
  generalize f name = v, g name = w at shown ⊢
  cases shown with
  | same v => rfl
  | supplied v standing => exact absurd standing (missing v)
  | changed v w edit => exact inside v w edit

theorem list_alike {edit : Json → Json → Prop} (changed : ItemEdit edit j k)
    (items : ∀ v w, edit v w → read? v = read? w) : j.list? read? = k.list? read? := by
  cases changed with
  | one before after v w edit =>
      rw [list?, list?, List.mapM_append, List.mapM_append, List.mapM_cons, List.mapM_cons,
        items v w edit]

end

structure Shows (names : List String) (members : List (String × Json))
    (fields : Fields Json) : Prop where
  shown : ∀ name ∈ names, ∀ v, (name, v) ∈ members → fields name = some v
  given : ∀ name v, fields name = some v → (name, v) ∈ members

theorem shows_of_read {names : List String} {members : List (String × Json)} {fields : Fields Json}
    (read : (object members).fields? names = some fields) : Shows names members fields := by
  obtain ⟨once, rfl⟩ := once_of_fields read
  constructor
  · intro name known v inside
    have single := once name known
    rw [lookup_values]
    rw [← mem_values] at inside
    match values : valuesOf name members, single with
    | [], _ => simp [values] at inside
    | [w], _ => simpa [values, eq_comm] using inside
  · intro name v found
    rw [lookup_values] at found
    exact (mem_values name v members).1 (List.mem_of_mem_head? found)

theorem required_given {fields : Fields Json} {name : String} {α : Type} {read? : Json → Option α}
    {a : α} (read : fields.required name read? = some a) :
    ∃ v, fields name = some v ∧ read? v = some a := Option.bind_eq_some_iff.1 read

end ServiceDiscovery.Json
