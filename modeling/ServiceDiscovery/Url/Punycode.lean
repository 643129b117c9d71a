import ServiceDiscovery.Power

namespace ServiceDiscovery.Url.Punycode

def adaptLoop (k delta : Nat) : Nat × Nat :=
  if 455 < delta then adaptLoop (k + 36) (delta / 35) else (k, delta)
termination_by delta

def adapt (delta count : Nat) (first : Bool) : Nat :=
  let delta := if first then delta / 700 else delta / 2
  let (k, delta) := adaptLoop 0 (delta + delta / count)
  k + 36 * delta / (delta + 38)

def threshold (k bias : Nat) : Nat := max 1 (min 26 (k - bias))

def digit (n : Nat) : Char :=
  if n < 26 then Char.ofNat ('a'.toNat + n) else Char.ofNat ('0'.toNat + (n - 26))

def digitValue? (c : Char) : Option Nat :=
  if 'a' ≤ c ∧ c ≤ 'z' then some (c.toNat - 'a'.toNat)
  else if 'A' ≤ c ∧ c ≤ 'Z' then some (c.toNat - 'A'.toNat)
  else if '0' ≤ c ∧ c ≤ '9' then some (c.toNat - '0'.toNat + 26)
  else none

def variableLength (bias k q : Nat) : List Char :=
  let t := threshold k bias
  if q < t then [digit q]
  else digit (t + (q - t) % (36 - t)) :: variableLength bias (k + 36) ((q - t) / (36 - t))
termination_by q
decreasing_by
  have positive : 1 ≤ threshold k bias := Nat.le_max_left ..
  exact Nat.lt_of_le_of_lt (Nat.div_le_self ..) (by omega)

structure Encoder where
  delta : Nat
  bias : Nat
  handled : Nat
  out : List Char

def encodePoint (text : List Nat) (basic : Nat) (state : Encoder) (point : Nat) : Encoder :=
  text.foldl (fun s c =>
    if c < point then { s with delta := s.delta + 1 }
    else if c = point then
      { delta := 0, bias := adapt s.delta (s.handled + 1) (s.handled == basic)
        handled := s.handled + 1, out := s.out ++ variableLength s.bias 36 s.delta }
    else s) state

def encodePoints (text : List Nat) (basic : Nat) : Nat → Encoder → List Nat → Encoder
  | _, state, [] => state
  | next, state, point :: rest =>
    let grown := { state with delta := state.delta + (point - next) * (state.handled + 1) }
    let after := encodePoint text basic grown point
    encodePoints text basic (point + 1) { after with delta := after.delta + 1 } rest

def encode (text : List Char) : List Char :=
  let points := text.map Char.toNat
  let basic := text.filter (·.toNat < 128)
  let others := ((points.filter (128 ≤ ·)).mergeSort (· ≤ ·)).eraseDups
  let start := basic ++ if basic = [] then [] else ['-']
  (encodePoints points basic.length 128 ⟨0, 72, basic.length, start⟩ others).out

structure Decoder where
  out : List Nat
  point : Nat
  bias : Nat
  index : Nat
  oldIndex : Nat
  weight : Nat
  k : Nat

def bounded? (n : Nat) : Option Nat := if n < 2 ^ 32 then some n else none

def decodeDigit? (s : Decoder) (d : Nat) : Option Decoder := do
  let index ← bounded? (s.index + (← bounded? (d * s.weight)))
  let t := threshold s.k s.bias
  if d < t then
    let count := s.out.length + 1
    let point := s.point + index / count
    let place := index % count
    return {
      out := s.out.take place ++ point :: s.out.drop place, point
      bias := adapt (index - s.oldIndex) count (s.oldIndex == 0)
      index := place + 1, oldIndex := place + 1, weight := 1, k := 36 }
  else
    return { s with index, weight := ← bounded? (s.weight * (36 - t)), k := s.k + 36 }

-- The text that an ASCII spelling stands for, if it stands for one. The last dash, unless it
-- comes first, has the ASCII characters of the text before it.
def decode? (s : List Char) : Option (List Char) := do
  let basic := (s.reverse.dropWhile (· ≠ '-')).tail.reverse
  let digits := if basic = [] then s else s.drop (basic.length + 1)
  let values ← digits.mapM digitValue?
  let final ← values.foldlM decodeDigit? ⟨basic.map Char.toNat, 128, 72, 0, 0, 1, 36⟩
  if final.k ≠ 36 then none
  final.out.mapM fun n => if h : n.isValidChar then some (Char.ofNatAux n h) else none

end ServiceDiscovery.Url.Punycode
