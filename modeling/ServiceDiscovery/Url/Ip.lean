import ServiceDiscovery.Text.Ascii

namespace ServiceDiscovery.Url

open Text

def splitOnChar (separator : Char) : List Char → List (List Char)
  | [] => [[]]
  | c :: rest =>
    if c = separator then [] :: splitOnChar separator rest
    else
      match splitOnChar separator rest with
      | [] => [[c]]
      | part :: parts => (c :: part) :: parts

def isOctal (c : Char) : Bool := '0' ≤ c && c ≤ '7'

-- A number in an IPv4 address: hexadecimal after `0x`, octal after another zero, else decimal.
def ipv4Number? (s : List Char) : Option Nat :=
  let read (radix : Nat) (isDigit : Char → Bool) (digits : List Char) : Option Nat :=
    if digits.all isDigit then some (numeral radix digits) else none
  match s with
  | [] => none
  | '0' :: 'x' :: digits => read 16 isHexDigit digits
  | '0' :: 'X' :: digits => read 16 isHexDigit digits
  | '0' :: d :: digits => read 8 isOctal (d :: digits)
  | digits => read 10 isAsciiDigit digits

def dottedParts (s : List Char) : List (List Char) :=
  let parts := splitOnChar '.' s
  if parts.getLast? = some [] then parts.dropLast else parts

-- Whether the last part is a number, which makes the whole an IPv4 address or nothing.
def endsInNumber (s : List Char) : Bool :=
  match (dottedParts s).getLast? with
  | none => false
  | some part => (part ≠ [] ∧ part.all isAsciiDigit) || (ipv4Number? part).isSome

-- One to four numbers; the last fills all the bytes that the others leave.
def ipv4? (s : List Char) : Option Nat := do
  let numbers ← (dottedParts s).mapM ipv4Number?
  let last ← numbers.getLast?
  let first := numbers.dropLast
  if 4 < numbers.length ∨ first.any (255 < ·) ∨ 256 ^ (4 - first.length) ≤ last then none
  return (first.zipIdx.foldl (fun n (b, i) => n + b * 256 ^ (3 - i)) last)

def ipv4Text (n : Nat) : String :=
  joinWith "." ([n / 2 ^ 24, n / 2 ^ 16 % 256, n / 2 ^ 8 % 256, n % 256].map toString)

def ipv6Piece? (s : List Char) : Option Nat :=
  if s ≠ [] ∧ s.length ≤ 4 ∧ s.all isHexDigit then some (numeral 16 s) else none

def ipv4Byte? (s : List Char) : Option Nat :=
  if s ≠ [] ∧ s.all isAsciiDigit ∧ (s.length = 1 ∨ s.head? ≠ some '0') ∧ numeral 10 s ≤ 255 then
    some (numeral 10 s)
  else none

-- Pieces between colons; an IPv4 address may stand for the last two.
def ipv6Pieces? (allowIpv4 : Bool) : List (List Char) → Option (List Nat)
  | [] => some []
  | [last] =>
    if last.contains '.' then do
      if ¬ allowIpv4 then none
      match ← (splitOnChar '.' last).mapM ipv4Byte? with
      | [a, b, c, d] => some [a * 256 + b, c * 256 + d]
      | _ => none
    else (ipv6Piece? last).map ([·])
  | piece :: rest => do return (← ipv6Piece? piece) :: (← ipv6Pieces? allowIpv4 rest)

def splitDoubleColon? : List Char → Option (List Char × List Char)
  | [] => none
  | ':' :: ':' :: rest => some ([], rest)
  | c :: rest => (splitDoubleColon? rest).map fun (before, after) => (c :: before, after)

def ipv6Side? (allowIpv4 : Bool) (s : List Char) : Option (List Nat) :=
  if s = [] then some [] else ipv6Pieces? allowIpv4 (splitOnChar ':' s)

def ipv6? (s : List Char) : Option (List Nat) :=
  match splitDoubleColon? s with
  | none => do
    let pieces ← ipv6Side? true s
    if pieces.length = 8 then some pieces else none
  | some (before, after) => do
    let left ← ipv6Side? false before
    let right ← ipv6Side? true after
    if left.length + right.length < 8 then
      some (left ++ List.replicate (8 - left.length - right.length) 0 ++ right)
    else none

def longestZeros (pieces : List Nat) : Nat × Nat :=
  let runs := pieces.zipIdx.map fun (_, i) => (i, ((pieces.drop i).takeWhile (· == 0)).length)
  runs.foldl (fun best run => if best.2 < run.2 ∧ 2 ≤ run.2 then run else best) (0, 0)

def ipv6Text (pieces : List Nat) : String :=
  let hex (piece : Nat) : String := String.ofList (Nat.toDigits 16 piece)
  let (start, length) := longestZeros pieces
  if length = 0 then joinWith ":" (pieces.map hex)
  else
    joinWith ":" ((pieces.take start).map hex) ++ "::" ++
      joinWith ":" ((pieces.drop (start + length)).map hex)

end ServiceDiscovery.Url
