namespace ServiceDiscovery

abbrev Fields (V : Type) := String → Option V

namespace Fields

-- Members of an object: those that are no field are skipped, but no field may come twice.
def ofMembers? (names : List String) (members : List (String × V)) : Option (Fields V) :=
  if names.all (fun name => (members.filter (·.1 == name)).length ≤ 1) then
    some fun name => members.lookup name
  else none

def ofItems (names : List String) (items : List V) : Fields V := fun name =>
  (names.zip items).lookup name

theorem ofMembers?_of_distinct (names : List String) (members : List (String × V))
    (distinct : (members.map Prod.fst).Nodup) :
    ofMembers? names members = some fun name => members.lookup name := by
  refine if_pos (List.all_eq_true.2 fun name _ => decide_eq_true ?_)
  have once := List.nodup_iff_count.1 distinct name
  rwa [List.count_eq_countP, List.countP_map, List.countP_eq_length_filter] at once

def required (fields : Fields V) (name : String) (read? : V → Option α) : Option α :=
  (fields name).bind read?

def defaulted (fields : Fields V) (name : String) (default : α) (read? : V → Option α) :
    Option α :=
  match fields name with
  | none => some default
  | some v => read? v

end Fields

structure Format (V : Type) where
  fields? : List String → V → Option (Fields V)
  bool? : V → Option Bool
  uint64? : V → Option UInt64
  text? : V → Option String
  isNull : V → Bool

def Format.optionalText? (format : Format V) (v : V) : Option (Option String) :=
  if format.isNull v then some none else (format.text? v).map some

end ServiceDiscovery
