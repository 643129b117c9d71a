/-!
Network addresses and ordered sets of them. A set is the strictly ascending list of its members, so
two sets with the same members are equal and their changes can be read off in order.
-/
namespace ServiceDiscovery

structure NetworkAddress where
  host : String
  port : UInt16
deriving DecidableEq, Repr

namespace NetworkAddress

def display (address : NetworkAddress) : String :=
  address.host ++ ":" ++ toString address.port.toNat

-- Host and port as they stand in a URI: a host with a colon in it is an IPv6 literal.
def authority (address : NetworkAddress) : String :=
  if ':' ∈ address.host.toList then "[" ++ address.host ++ "]:" ++ toString address.port.toNat
  else address.display

def httpUri (address : NetworkAddress) : String := "http://" ++ address.authority

def Before (a b : NetworkAddress) : Prop :=
  a.host < b.host ∨ (a.host = b.host ∧ a.port < b.port)

instance (a b : NetworkAddress) : Decidable (Before a b) :=
  inferInstanceAs (Decidable (_ ∨ _))

theorem before_irrefl (a : NetworkAddress) : ¬ Before a a := by
  rintro (h | ⟨_, h⟩)
  · exact String.lt_irrefl _ h
  · exact UInt16.lt_irrefl _ h

theorem before_trans {a b c : NetworkAddress} (ab : Before a b) (bc : Before b c) :
    Before a c := by
  rcases ab with ab | ⟨ab, p⟩ <;> rcases bc with bc | ⟨bc, q⟩
  · exact .inl (String.lt_trans ab bc)
  · exact .inl (bc ▸ ab)
  · exact .inl (ab ▸ bc)
  · exact .inr ⟨ab.trans bc, UInt16.lt_trans p q⟩

theorem before_or_eq_or_after (a b : NetworkAddress) : Before a b ∨ a = b ∨ Before b a := by
  by_cases h : a.host < b.host
  · exact .inl (.inl h)
  by_cases k : b.host < a.host
  · exact .inr (.inr (.inl k))
  · have h : a.host = b.host := String.le_antisymm (String.not_lt.1 k) (String.not_lt.1 h)
    rcases Nat.lt_trichotomy a.port.toNat b.port.toNat with p | p | p
    · exact .inl (.inr ⟨h, UInt16.lt_iff_toNat_lt.2 p⟩)
    · refine .inr (.inl ?_)
      cases a; cases b
      simp_all [UInt16.toNat_inj]
    · exact .inr (.inr (.inr ⟨h.symm, UInt16.lt_iff_toNat_lt.2 p⟩))

end NetworkAddress

open NetworkAddress

structure AddressSet where
  toList : List NetworkAddress
  ascending : toList.Pairwise Before
deriving DecidableEq

namespace AddressSet

def empty : AddressSet := ⟨[], .nil⟩

instance : Inhabited AddressSet := ⟨empty⟩
instance : Membership NetworkAddress AddressSet := ⟨fun set a => a ∈ set.toList⟩
instance (a : NetworkAddress) (set : AddressSet) : Decidable (a ∈ set) :=
  inferInstanceAs (Decidable (a ∈ set.toList))

theorem mem_def {a : NetworkAddress} {set : AddressSet} : a ∈ set ↔ a ∈ set.toList := Iff.rfl

def insertSorted (a : NetworkAddress) : List NetworkAddress → List NetworkAddress
  | [] => [a]
  | b :: rest =>
    if Before a b then a :: b :: rest
    else if a = b then b :: rest
    else b :: insertSorted a rest

theorem mem_insertSorted (a x : NetworkAddress) (list : List NetworkAddress) :
    x ∈ insertSorted a list ↔ x = a ∨ x ∈ list := by
  fun_induction insertSorted a list <;> grind

theorem pairwise_insertSorted (a : NetworkAddress) (list : List NetworkAddress)
    (ordered : list.Pairwise Before) : (insertSorted a list).Pairwise Before := by
  induction list with
  | nil => simp [insertSorted]
  | cons b rest ih =>
    obtain ⟨first, tail⟩ := List.pairwise_cons.1 ordered
    unfold insertSorted
    split
    · rename_i h
      refine List.pairwise_cons.2 ⟨fun x hx => ?_, ordered⟩
      rcases List.mem_cons.1 hx with rfl | hx
      · exact h
      · exact before_trans h (first x hx)
    · split
      · exact ordered
      · rename_i h k
        refine List.pairwise_cons.2 ⟨fun x hx => ?_, ih tail⟩
        rcases (mem_insertSorted a x rest).1 hx with rfl | hx
        · exact (before_or_eq_or_after x b).resolve_left h |>.resolve_left k
        · exact first x hx

def insert (set : AddressSet) (a : NetworkAddress) : AddressSet :=
  ⟨insertSorted a set.toList, pairwise_insertSorted a _ set.ascending⟩

def erase (set : AddressSet) (a : NetworkAddress) : AddressSet :=
  ⟨set.toList.filter (· ≠ a), set.ascending.filter _⟩

def ofList (list : List NetworkAddress) : AddressSet := list.foldl insert empty

def size (set : AddressSet) : Nat := set.toList.length

def without (set other : AddressSet) : List NetworkAddress :=
  set.toList.filter (· ∉ other)

theorem not_mem_empty (x : NetworkAddress) : x ∉ empty := List.not_mem_nil

theorem nodup_toList (set : AddressSet) : set.toList.Nodup := by
  refine set.ascending.imp fun {a b} before same => ?_
  subst same
  exact before_irrefl a before

theorem mem_without {x : NetworkAddress} {set other : AddressSet} :
    x ∈ set.without other ↔ x ∈ set ∧ x ∉ other := by
  simp [without, mem_def]

theorem mem_insert {a x : NetworkAddress} {set : AddressSet} :
    x ∈ set.insert a ↔ x = a ∨ x ∈ set := mem_insertSorted a x set.toList

theorem mem_erase {a x : NetworkAddress} {set : AddressSet} :
    x ∈ set.erase a ↔ x ∈ set ∧ x ≠ a := by
  simp [mem_def, erase]

theorem mem_ofList {x : NetworkAddress} {list : List NetworkAddress} :
    x ∈ ofList list ↔ x ∈ list := by
  have fold : ∀ set : AddressSet, x ∈ list.foldl insert set ↔ x ∈ list ∨ x ∈ set := by
    induction list with
    | nil => simp
    | cons a rest ih => intro set; simp only [List.foldl_cons, ih, mem_insert]; grind
  simp [ofList, fold, mem_def, empty]

theorem ext_mem {a b : AddressSet} (same : ∀ x, x ∈ a ↔ x ∈ b) : a = b := by
  obtain ⟨l, hl⟩ := a
  obtain ⟨m, hm⟩ := b
  simp only [mem_def] at same
  suffices l = m by subst this; rfl
  induction l generalizing m with
  | nil =>
    cases m with
    | nil => rfl
    | cons b m => simpa using same b
  | cons a l ih =>
    cases m with
    | nil => simpa using same a
    | cons b m =>
      obtain ⟨al, tl⟩ := List.pairwise_cons.1 hl
      obtain ⟨bm, tm⟩ := List.pairwise_cons.1 hm
      have head : a = b := by
        rcases List.mem_cons.1 ((same a).1 (by simp)) with h | h
        · exact h
        rcases List.mem_cons.1 ((same b).2 (by simp)) with k | k
        · exact k.symm
        exact absurd (before_trans (al b k) (bm a h)) (before_irrefl a)
      subst head
      refine congrArg _ (ih tl m tm fun x => ⟨fun hx => ?_, fun hx => ?_⟩)
      · rcases List.mem_cons.1 ((same x).1 (List.mem_cons_of_mem _ hx)) with rfl | h
        · exact absurd (al x hx) (before_irrefl x)
        · exact h
      · rcases List.mem_cons.1 ((same x).2 (List.mem_cons_of_mem _ hx)) with rfl | h
        · exact absurd (bm x hx) (before_irrefl x)
        · exact h

end AddressSet

end ServiceDiscovery
