import ServiceDiscovery.Text.Ascii

namespace ServiceDiscovery.Http

open Text

structure Uri where
  secure : Bool
  authority : List Char
  path : List Char
  query : Option (List Char)
deriving DecidableEq, Repr

namespace Uri

def maxBytes : Nat := 65534

-- Characters of an authority. A percent sign may stand only before an `@` or in brackets.
def isAuthorityChar (c : Char) : Bool :=
  isAsciiLetter c || isAsciiDigit c || "-._~:[]@!$&'()*+,;=%".toList.contains c

-- What has been seen of an authority: colons that could mark a port, brackets, a percent sign
-- outside of both exceptions, and whether an `@` was last.
structure Scan where
  colons : Nat
  opened : Bool
  closed : Bool
  percent : Bool
  atLast : Bool

def maxColons : Nat := 8

def Scan.step? (s : Scan) (c : Char) : Option Scan :=
  let s := { s with atLast := false }
  if ¬ isAuthorityChar c then none
  else if c = ':' then
    if maxColons ≤ s.colons then none else some { s with colons := s.colons + 1 }
  else if c = '[' then
    if s.percent ∨ s.opened then none else some { s with opened := true }
  else if c = ']' then
    if ¬ s.opened ∨ s.closed then none
    else some { s with closed := true, colons := 0, percent := false }
  else if c = '@' then some { s with colons := 0, percent := false, atLast := true }
  else if c = '%' then some { s with percent := true }
  else some s

def Scan.complete (s : Scan) : Bool :=
  s.opened == s.closed && s.colons ≤ 1 && !s.atLast && !s.percent

def isAuthority (s : List Char) : Bool :=
  s ≠ [] &&
    (match s.foldlM Scan.step? ⟨0, false, false, false, false⟩ with
      | some scan => scan.complete
      | none => false)

def isPathChar (c : Char) : Bool :=
  let n := c.toNat
  n == 0x21 || (0x24 ≤ n && n ≤ 0x3b) || n == 0x3d || (0x40 ≤ n && n ≤ 0x5f) ||
    (0x61 ≤ n && n ≤ 0x7e) || c == '"' || 0x7f ≤ n

def isQueryChar (c : Char) : Bool :=
  let n := c.toNat
  n == 0x21 || (0x24 ≤ n && n ≤ 0x3b) || n == 0x3d || 0x3f ≤ n

def endsAuthority (c : Char) : Bool := c == '/' || c == '?' || c == '#'

def stripStart? (start : String) (s : List Char) : Option (List Char) :=
  if (s.take start.length).map lowerChar = start.toList then some (s.drop start.length) else none

def parse? (text : String) : Option Uri := do
  if maxBytes < text.utf8ByteSize then none
  let (secure, rest) ← ((stripStart? "http://" text.toList).map (false, ·)).or
    ((stripStart? "https://" text.toList).map (true, ·))
  let authority := rest.takeWhile (!endsAuthority ·)
  let target := (rest.drop authority.length).takeWhile (· ≠ '#')
  let path := target.takeWhile (· ≠ '?')
  let query := match target.drop path.length with
    | [] => none
    | _ :: query => some query
  if isAuthority authority ∧ path.all isPathChar ∧ query.all (·.all isQueryChar) then
    some { secure, authority, path, query }
  else none

def text (uri : Uri) : String :=
  .ofList ((if uri.secure then "https://" else "http://").toList ++ uri.authority ++
    (if uri.path = [] then ['/'] else uri.path) ++ uri.query.elim [] ('?' :: ·))

end Uri

end ServiceDiscovery.Http
