import ServiceDiscovery.Power
import ServiceDiscovery.Record

namespace ServiceDiscovery.Toml

-- How a table came to be: on the way to a deeper header, on the way along a dotted key, by a
-- header of its own, or between braces.
inductive Origin where
  | implied | dotted | header | inline
deriving DecidableEq

-- A value. What has the shape of a number, but is in no type of numbers, is unreadable.
inductive Value where
  | string (s : String)
  | integer (n : Int)
  | float
  | unreadable
  | boolean (b : Bool)
  | datetime
  | array (items : List Value)
  | tables (items : List Value)
  | table (origin : Origin) (entries : List (String × Value))
deriving Inhabited

abbrev Entries := List (String × Value)

def Entries.put (key : String) (v : Value) : Entries → Entries
  | [] => [(key, v)]
  | (k, old) :: rest => if k = key then (k, v) :: rest else (k, old) :: Entries.put key v rest

abbrev Change := Origin → Entries → Option (Origin × Entries)

-- Makes a change in the table to which a path leads. Missing tables are made on the way; an array
-- of tables leads to its last one; and what already has braces, or along a dotted key a header,
-- is closed.
def Change.along (change : Change) (dotted : Bool) : List String → Change
  | [], origin, entries => change origin entries
  | key :: path, origin, entries => do
    let next := Change.along change dotted path
    match entries.lookup key with
    | none =>
      let (o, e) ← next (if dotted then .dotted else .implied) []
      return (origin, entries ++ [(key, .table o e)])
    | some (.table o e) =>
      if o = .inline ∨ (dotted ∧ o = .header) then none
      let (o, e) ← next o e
      return (origin, entries.put key (.table o e))
    | some (.tables items) =>
      match items.getLast? with
      | some (.table o e) =>
        let (o, e) ← next o e
        return (origin, entries.put key (.tables (items.dropLast ++ [.table o e])))
      | _ => none
    | some _ => none

-- A key and its value: the key is new, and the table that holds it was made by dotted keys just
-- if the key is itself dotted.
def assign (path : List String) (key : String) (v : Value) : Change :=
  Change.along (fun origin entries =>
    if (origin == .dotted) == path.isEmpty ∨ (entries.lookup key).isSome then none
    else some (origin, entries ++ [(key, v)])) true path

-- A header: the table is new, or was only implied so far.
def openTable (path : List String) (key : String) : Change :=
  Change.along (fun origin entries =>
    match entries.lookup key with
    | none => some (origin, entries ++ [(key, .table .header [])])
    | some (.table .implied e) => some (origin, entries.put key (.table .header e))
    | some _ => none) false path

-- A header in double brackets: one more table of an array that only such headers built.
def appendTable (path : List String) (key : String) : Change :=
  Change.along (fun origin entries =>
    match entries.lookup key with
    | none => some (origin, entries ++ [(key, .tables [.table .header []])])
    | some (.tables items) =>
      some (origin, entries.put key (.tables (items ++ [.table .header []])))
    | some _ => none) false path

mutual

def Value.isReadable : Value → Bool
  | .unreadable => false
  | .array items | .tables items => areReadable items
  | .table _ entries => areEntriesReadable entries
  | _ => true

def areReadable : List Value → Bool
  | [] => true
  | v :: rest => v.isReadable && areReadable rest

def areEntriesReadable : List (String × Value) → Bool
  | [] => true
  | (_, v) :: rest => v.isReadable && areEntriesReadable rest

end

-- The fields of a record. What else a table holds is skipped, but it has to be readable; items of
-- an array beyond the last field are not even looked at.
def fields? (names : List String) : Value → Option (Fields Value)
  | .table _ entries =>
    if entries.all fun e => names.contains e.1 || e.2.isReadable then
      Fields.ofMembers? names entries
    else none
  | .array items | .tables items => some (Fields.ofItems names items)
  | .datetime => some fun _ => none
  | _ => none

def bool? : Value → Option Bool
  | .boolean b => some b
  | _ => none

def uint64? : Value → Option UInt64
  | .integer n => if 0 ≤ n ∧ n < 2 ^ 64 then some (UInt64.ofNat n.toNat) else none
  | _ => none

def text? : Value → Option String
  | .string s => some s
  | _ => none

def format : Format Value := ⟨fields?, bool?, uint64?, text?, fun _ => false⟩

end ServiceDiscovery.Toml
