import ServiceDiscovery.Json
import ServiceDiscovery.Text.Ascii

namespace ServiceDiscovery.Json

open Text

def isBlank (c : Char) : Bool := c == ' ' || c == '\n' || c == '\t' || c == '\r'

def skipBlank (s : List Char) : List Char := s.dropWhile isBlank

def hex4? (a b c d : Char) : Option Nat :=
  if [a, b, c, d].all isHexDigit then some (numeral 16 [a, b, c, d]) else none

def isHighSurrogate (n : Nat) : Bool := 0xD800 ≤ n && n < 0xDC00
def isLowSurrogate (n : Nat) : Bool := 0xDC00 ≤ n && n < 0xE000

def pairedSurrogates (high low : Nat) : Char :=
  Char.ofNat (0x10000 + (high - 0xD800) * 0x400 + (low - 0xDC00))

def simpleEscape? : Char → Option Char
  | '"' => some '"'
  | '\\' => some '\\'
  | '/' => some '/'
  | 'b' => some '\x08'
  | 'f' => some '\x0c'
  | 'n' => some '\n'
  | 'r' => some '\r'
  | 't' => some '\t'
  | _ => none

-- What a string literal holds: its characters, unless a surrogate in it has no pair.
abbrev Content := Option (List Char)

def Content.cons (c : Char) (content : Content) : Content := content.map (c :: ·)

def stringRest : List Char → Option (Content × List Char)
  | [] => none
  | '"' :: rest => some (some [], rest)
  | '\\' :: 'u' :: a :: b :: c :: d :: '\\' :: 'u' :: e :: f :: g :: h :: rest => do
    let unit ← hex4? a b c d
    if isHighSurrogate unit then
      let low ← hex4? e f g h
      if isLowSurrogate low then
        let (content, after) ← stringRest rest
        return (content.cons (pairedSurrogates unit low), after)
      else
        let (_, after) ← stringRest ('\\' :: 'u' :: e :: f :: g :: h :: rest)
        return (none, after)
    else
      let (content, after) ← stringRest ('\\' :: 'u' :: e :: f :: g :: h :: rest)
      return (if isLowSurrogate unit then none else content.cons (Char.ofNat unit), after)
  | '\\' :: 'u' :: a :: b :: c :: d :: rest => do
    let unit ← hex4? a b c d
    let (content, after) ← stringRest rest
    return (if isHighSurrogate unit || isLowSurrogate unit then none
      else content.cons (Char.ofNat unit), after)
  | '\\' :: c :: rest => do
    let char ← simpleEscape? c
    let (content, after) ← stringRest rest
    return (content.cons char, after)
  | c :: rest => do
    if c.toNat < 0x20 ∨ c = '\\' then none
    let (content, after) ← stringRest rest
    return (content.cons c, after)
termination_by s => s.length

def integerPart? : List Char → Option (List Char × List Char)
  | '0' :: rest =>
    match rest with
    | c :: _ => if isAsciiDigit c then none else some (['0'], rest)
    | [] => some (['0'], rest)
  | s =>
    let digits := s.takeWhile isAsciiDigit
    if digits = [] then none else some (digits, s.dropWhile isAsciiDigit)

def digitRun? (s : List Char) : Option (List Char × List Char) :=
  let digits := s.takeWhile isAsciiDigit
  if digits = [] then none else some (digits, s.dropWhile isAsciiDigit)

def fractionPart? : List Char → Option (List Char × List Char)
  | '.' :: rest => do
    let (digits, after) ← digitRun? rest
    return ('.' :: digits, after)
  | s => some ([], s)

def exponentPart? : List Char → Option (List Char × List Char)
  | e :: rest =>
    if e = 'e' ∨ e = 'E' then
      match rest with
      | sign :: digits =>
        if sign = '+' ∨ sign = '-' then do
          let (run, after) ← digitRun? digits
          return (e :: sign :: run, after)
        else do
          let (run, after) ← digitRun? rest
          return (e :: run, after)
      | [] => none
    else some ([], e :: rest)
  | [] => some ([], [])

def number? (s : List Char) : Option (Json × List Char) := do
  let (sign, unsigned) := match s with
    | '-' :: rest => (['-'], rest)
    | _ => ([], s)
  let (digits, afterDigits) ← integerPart? unsigned
  let (fraction, afterFraction) ← fractionPart? afterDigits
  let (exponent, rest) ← exponentPart? afterFraction
  if sign = [] ∧ fraction = [] ∧ exponent = [] then
    return (.number (numeral 10 digits), rest)
  else
    return (.otherNumber (.ofList (sign ++ digits ++ fraction ++ exponent)), rest)

def ofContent : Content → Json
  | some content => .string (.ofList content)
  | none => .brokenString

-- The members of an object, unless one of them has a broken name.
abbrev Members := Option (List (String × Json))

def Members.cons (name : Content) (value : Json) (members : Members) : Members := do
  return (.ofList (← name), value) :: (← members)

def ofMembers : Members → Json
  | some members => .object members
  | none => .brokenObject

def word? (word : String) (value : Json) (s : List Char) : Option (Json × List Char) :=
  if word.toList.isPrefixOf s then some (value, s.drop word.length) else none

mutual

-- One value; `fuel` bounds its nesting and length.
def value? : Nat → List Char → Option (Json × List Char)
  | 0, _ => none
  | fuel + 1, s =>
    match skipBlank s with
    | '"' :: rest => do
      let (content, after) ← stringRest rest
      return (ofContent content, after)
    | '[' :: rest =>
      match skipBlank rest with
      | ']' :: after => some (.array [], after)
      | first => do
        let (items, after) ← items? fuel first
        return (.array items, after)
    | '{' :: rest =>
      match skipBlank rest with
      | '}' :: after => some (.object [], after)
      | first => do
        let (members, after) ← members? fuel first
        return (ofMembers members, after)
    | 'n' :: rest => word? "ull" .null rest
    | 't' :: rest => word? "rue" (.bool true) rest
    | 'f' :: rest => word? "alse" (.bool false) rest
    | other => number? other

def items? : Nat → List Char → Option (List Json × List Char)
  | 0, _ => none
  | fuel + 1, s => do
    let (item, after) ← value? fuel s
    match skipBlank after with
    | ',' :: more =>
      let (items, rest) ← items? fuel more
      return (item :: items, rest)
    | ']' :: rest => some ([item], rest)
    | _ => none

def members? : Nat → List Char → Option (Members × List Char)
  | 0, _ => none
  | fuel + 1, s =>
    match skipBlank s with
    | '"' :: named => do
      let (name, afterName) ← stringRest named
      match skipBlank afterName with
      | ':' :: valued =>
        let (value, after) ← value? fuel valued
        match skipBlank after with
        | ',' :: more =>
          let (members, rest) ← members? fuel more
          return (members.cons name value, rest)
        | '}' :: rest => some (Members.cons name value (some []), rest)
        | _ => none
      | _ => none
    | _ => none

end

def parse? (text : String) : Option Json := do
  let (value, rest) ← value? (2 * text.length + 2) text.toList
  if skipBlank rest = [] then some value else none

end ServiceDiscovery.Json
