import ServiceDiscovery.Toml
import ServiceDiscovery.Text.Ascii

namespace ServiceDiscovery.Toml

open Text

def isBlank (c : Char) : Bool := c == ' ' || c == '\t'

def isPlain (c : Char) : Bool := c == '\t' || (0x20 ≤ c.toNat && c.toNat ≠ 0x7f)

def isBareKeyChar (c : Char) : Bool :=
  isAsciiLetter c || isAsciiDigit c || c == '-' || c == '_'

def simpleEscape? : Char → Option Char
  | 'b' => some '\x08'
  | 't' => some '\t'
  | 'n' => some '\n'
  | 'f' => some '\x0c'
  | 'r' => some '\r'
  | 'e' => some '\x1b'
  | '"' => some '"'
  | '\\' => some '\\'
  | _ => none

def escapeWidth? : Char → Option Nat
  | 'x' => some 2
  | 'u' => some 4
  | 'U' => some 8
  | _ => none

def scalar? (n : Nat) : Option Char :=
  if h : n.isValidChar then some (Char.ofNatAux n h) else none

def escape? : List Char → Option (Char × Nat)
  | [] => none
  | c :: rest =>
    match escapeWidth? c with
    | some width =>
      let digits := rest.take width
      if digits.length = width ∧ digits.all isHexDigit then
        (scalar? (numeral 16 digits)).map (·, width + 1)
      else none
    | none => (simpleEscape? c).map (·, 1)

def basicRest : (skip : Nat) → List Char → Option (List Char × List Char)
  | _, [] => none
  | skip + 1, _ :: rest => basicRest skip rest
  | 0, '"' :: rest => some ([], rest)
  | 0, '\\' :: rest => do
    let (c, used) ← escape? rest
    let (content, after) ← basicRest used rest
    return (c :: content, after)
  | 0, c :: rest =>
    if isPlain c then do
      let (content, after) ← basicRest 0 rest
      return (c :: content, after)
    else none

def literalRest : List Char → Option (List Char × List Char)
  | [] => none
  | '\'' :: rest => some ([], rest)
  | c :: rest =>
    if isPlain c then do
      let (content, after) ← literalRest rest
      return (c :: content, after)
    else none

def startsLine (s : List Char) : Bool :=
  match s with
  | '\n' :: _ => true
  | '\r' :: '\n' :: _ => true
  | _ => false

-- Three quotes close a text of several lines; one or two more before them belong to it.
def closing? (quote : Char) (s : List Char) : Option (List Char × List Char) :=
  let run := (s.takeWhile (· == quote)).length
  if 3 ≤ run ∧ run ≤ 5 then some (List.replicate (run - 3) quote, s.drop run) else none

-- The rest of a text of several lines between double quotes. After a backslash at a line's end
-- `trimming` holds up to the next character that is not blank.
def basicLinesRest : (skip : Nat) → (trimming : Bool) → List Char →
    Option (List Char × List Char)
  | _, _, [] => none
  | skip + 1, trimmed, _ :: rest => basicLinesRest skip trimmed rest
  | 0, _, '"' :: rest =>
    match closing? '"' ('"' :: rest) with
    | some closed => some closed
    | none =>
      if (rest.takeWhile (· == '"')).length < 2 then do
        let (content, after) ← basicLinesRest 0 false rest
        return ('"' :: content, after)
      else none
  | 0, _, '\\' :: rest =>
    if startsLine (rest.dropWhile isBlank) then basicLinesRest 0 true rest
    else do
      let (c, used) ← escape? rest
      let (content, after) ← basicLinesRest used false rest
      return (c :: content, after)
  | 0, true, ' ' :: rest => basicLinesRest 0 true rest
  | 0, true, '\t' :: rest => basicLinesRest 0 true rest
  | 0, true, '\n' :: rest => basicLinesRest 0 true rest
  | 0, true, '\r' :: '\n' :: rest => basicLinesRest 0 true rest
  | 0, false, '\n' :: rest => do
    let (content, after) ← basicLinesRest 0 false rest
    return ('\n' :: content, after)
  | 0, false, '\r' :: '\n' :: rest => do
    let (content, after) ← basicLinesRest 0 false rest
    return ('\r' :: '\n' :: content, after)
  | 0, _, c :: rest =>
    if isPlain c then do
      let (content, after) ← basicLinesRest 0 false rest
      return (c :: content, after)
    else none

def literalLinesRest : List Char → Option (List Char × List Char)
  | [] => none
  | '\'' :: rest =>
    match closing? '\'' ('\'' :: rest) with
    | some closed => some closed
    | none =>
      if (rest.takeWhile (· == '\'')).length < 2 then do
        let (content, after) ← literalLinesRest rest
        return ('\'' :: content, after)
      else none
  | '\n' :: rest => do
    let (content, after) ← literalLinesRest rest
    return ('\n' :: content, after)
  | '\r' :: '\n' :: rest => do
    let (content, after) ← literalLinesRest rest
    return ('\r' :: '\n' :: content, after)
  | c :: rest =>
    if isPlain c then do
      let (content, after) ← literalLinesRest rest
      return (c :: content, after)
    else none

-- A line end right after the opening quotes does not count.
def skipFirstLineEnd : List Char → List Char
  | '\n' :: rest => rest
  | '\r' :: '\n' :: rest => rest
  | s => s

-- Whether every underscore has a digit on either side; `afterDigit` tells of what is before.
def underscoresFit (isDigit : Char → Bool) : (afterDigit : Bool) → List Char → Bool
  | _, [] => true
  | afterDigit, c :: rest =>
    if c = '_' then afterDigit && rest.head?.any isDigit && underscoresFit isDigit false rest
    else underscoresFit isDigit (isDigit c) rest

def withoutUnderscores (s : List Char) : List Char := s.filter (· ≠ '_')

def isOctalDigit (c : Char) : Bool := '0' ≤ c && c ≤ '7'
def isBinaryDigit (c : Char) : Bool := c == '0' || c == '1'

-- A whole number; the widest types of numbers hold those from -2^127 to below 2^128.
def wholeNumber (n : Int) : Value :=
  if -(2 ^ 127) ≤ n ∧ n < 2 ^ 128 then .integer n else .unreadable

-- A number in digits of a radix. Without any digits it is a number, but one that is unreadable.
def radixNumber? (radix : Nat) (isDigit : Char → Bool) (s : List Char) : Option Value :=
  if s.all (fun c => isDigit c || c == '_') ∧ underscoresFit isDigit false s then
    some (if s = [] then .unreadable else wholeNumber (numeral radix (withoutUnderscores s)))
  else none

-- A decimal number, which starts with a zero only if it is one. What stands between underscores
-- is looked at no closer until the number is asked for, when it may prove unreadable.
def decimalNumber? (negative : Bool) (s : List Char) : Option Value :=
  let digits := withoutUnderscores s
  if s.head? = some '0' ∧ s.length ≠ 1 ∨ ¬ underscoresFit isHexDigit false s then none
  else if ¬ digits.all isAsciiDigit then some .unreadable
  else some (wholeNumber (if negative then -(numeral 10 digits : Int) else numeral 10 digits))

def digitRun? (s : List Char) : Option (List Char × List Char) :=
  let run := s.takeWhile fun c => isAsciiDigit c || c == '_'
  let digits := withoutUnderscores run
  if digits = [] then none else some (digits, s.drop run.length)

def fraction? : List Char → Option (List Char × List Char)
  | '.' :: rest => digitRun? rest
  | s => some ([], s)

def exponent? : List Char → Option (Int × List Char)
  | [] => some (0, [])
  | mark :: rest =>
    if mark ≠ 'e' ∧ mark ≠ 'E' then some (0, mark :: rest)
    else
      match rest with
      | '-' :: digits => (digitRun? digits).map fun (run, after) => (-(numeral 10 run : Int), after)
      | '+' :: digits => (digitRun? digits).map fun (run, after) => (↑(numeral 10 run), after)
      | digits => (digitRun? digits).map fun (run, after) => (↑(numeral 10 run), after)

-- A whole part with a fraction, an exponent or both: its digits, and the power of ten that the
-- last of them counts.
def decimalParts? (s : List Char) : Option (List Char × Int) := do
  let (whole, afterWhole) ← digitRun? s
  if s.head? = some '0' ∧ whole.length ≠ 1 then none
  let (decimals, afterFraction) ← fraction? afterWhole
  let (power, rest) ← exponent? afterFraction
  if rest ≠ [] then none
  return (whole ++ decimals, power - decimals.length)

def floatLimit : Nat := 2 ^ 1024 - 2 ^ 970

-- Whether a number is too large for a float. Only one of 309 places has to be worked out.
def isTooLarge (digits : List Char) (power : Int) : Bool :=
  let significant := digits.dropWhile (· == '0')
  let places := significant.length + power
  significant ≠ [] && (309 < places || (places == 309 &&
    (if 0 ≤ power then floatLimit ≤ numeral 10 significant * 10 ^ power.toNat
      else floatLimit * 10 ^ (-power).toNat ≤ numeral 10 significant)))

-- A number with a fraction or an exponent; one that is too large is unreadable.
def floatNumber? (s : List Char) : Option Value :=
  if underscoresFit isAsciiDigit false s then
    (decimalParts? s).map fun (digits, power) =>
      if isTooLarge digits power then .unreadable else .float
  else none

def twoDigits? (a b : Char) : Option Nat :=
  if isAsciiDigit a ∧ isAsciiDigit b then some (numeral 10 [a, b]) else none

def monthDays (year month : Nat) : Nat :=
  if month = 2 then
    if year % 4 = 0 ∧ (year % 100 ≠ 0 ∨ year % 400 = 0) then 29 else 28
  else if month = 4 ∨ month = 6 ∨ month = 9 ∨ month = 11 then 30
  else 31

def afterDate? : List Char → Option (List Char)
  | y :: y' :: y'' :: y''' :: '-' :: m :: m' :: '-' :: d :: d' :: rest => do
    if ¬ ([y, y', y'', y'''].all isAsciiDigit) then none
    let month ← twoDigits? m m'
    let day ← twoDigits? d d'
    let year := numeral 10 [y, y', y'', y''']
    if 1 ≤ month ∧ month ≤ 12 ∧ 1 ≤ day ∧ day ≤ monthDays year month then some rest else none
  | _ => none

def afterFraction? : List Char → Option (List Char)
  | '.' :: rest =>
    let after := rest.dropWhile isAsciiDigit
    if after.length = rest.length then none else some after
  | s => some s

def afterTime? : List Char → Option (List Char)
  | h :: h' :: ':' :: m :: m' :: rest => do
    let hour ← twoDigits? h h'
    let minute ← twoDigits? m m'
    if 23 < hour ∨ 59 < minute then none
    match rest with
    | ':' :: s :: s' :: more =>
      let second ← twoDigits? s s'
      if 60 < second then none else afterFraction? more
    | ':' :: _ => none
    | _ => some rest
  | _ => none

def isOffset : List Char → Bool
  | [] => true
  | ['Z'] => true
  | ['z'] => true
  | sign :: h :: h' :: ':' :: [m, m'] =>
    (sign == '+' || sign == '-') &&
      (match twoDigits? h h', twoDigits? m m' with
        | some hour, some minute => hour ≤ 23 && minute ≤ 59
        | _, _ => false)
  | _ => false

def isDatetime (s : List Char) : Bool :=
  match afterDate? s with
  | some [] => true
  | some (mark :: rest) =>
    (mark == 'T' || mark == 't' || mark == ' ') &&
      (match afterTime? rest with
        | some offset => isOffset offset
        | none => false)
  | none => afterTime? s == some []

def decimalWord? (negative : Bool) (s : List Char) : Option Value :=
  let rest := s.dropWhile isAsciiDigit
  if rest = [] then decimalNumber? negative s
  else if rest.any fun c => c == '.' || c == 'e' || c == 'E' then floatNumber? s
  else if rest.head? = some '_' then decimalNumber? negative s
  else none

def numberWord? (negative signed : Bool) (s : List Char) : Option Value :=
  match s with
  | '0' :: 'x' :: digits => if signed then none else radixNumber? 16 isHexDigit digits
  | '0' :: 'o' :: digits => if signed then none else radixNumber? 8 isOctalDigit digits
  | '0' :: 'b' :: digits => if signed then none else radixNumber? 2 isBinaryDigit digits
  | _ =>
    if s = "inf".toList ∨ s = "nan".toList then some .float
    else if s.head?.any isAsciiDigit then decimalWord? negative s
    else none

def startsDatetime (s : List Char) : Bool :=
  s.head?.any isAsciiDigit &&
    (s.dropWhile isAsciiDigit).head?.any fun c => c == '-' || c == ':'

def word? (s : List Char) : Option Value :=
  if s = "true".toList then some (.boolean true)
  else if s = "false".toList then some (.boolean false)
  else if startsDatetime s then if isDatetime s then some .datetime else none
  else
    match s with
    | '+' :: rest => if startsDatetime rest then none else numberWord? false true rest
    | '-' :: rest => if startsDatetime rest then none else numberWord? true true rest
    | _ => numberWord? false false s

end ServiceDiscovery.Toml
