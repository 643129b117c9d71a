import ServiceDiscovery.Url.Host

namespace ServiceDiscovery

structure Credentials where
  user : String
  password : Option String
deriving DecidableEq, Repr

structure Url where
  secure : Bool
  credentials : Option Credentials
  host : String
  port : Option UInt16
  path : List String
  query : Option String
  fragment : Option String
deriving DecidableEq, Repr

def Credentials.areReadable (c : Credentials) : Bool :=
  (Url.decoded? c.user.toList).any fun user =>
    user ≠ "" || c.password.any fun password => (Url.decoded? password.toList).isSome

namespace Url

open Text

def isSlash (c : Char) : Bool := c == '/' || c == '\\'

-- Controls and blanks around a URL, and line ends and tabs within it, do not count.
def cleaned (s : List Char) : List Char :=
  let trimmed := ((s.dropWhile (·.toNat ≤ 0x20)).reverse.dropWhile (·.toNat ≤ 0x20)).reverse
  trimmed.filter fun c => c ≠ '\t' ∧ c ≠ '\n' ∧ c ≠ '\r'

def cut (separator : Char) (s : List Char) : List Char × Option (List Char) :=
  match s.dropWhile (· ≠ separator) with
  | [] => (s, none)
  | _ :: after => (s.takeWhile (· ≠ separator), some after)

def isDot (segment : List Char) : Bool :=
  [".", "%2e"].contains (lower (.ofList segment))

def isDoubleDot (segment : List Char) : Bool :=
  ["..", ".%2e", "%2e.", "%2e%2e"].contains (lower (.ofList segment))

-- A segment such as `C:`, over which no path leads back.
def isDrive (segment : String) : Bool :=
  match segment.toList with
  | [letter, mark] => isAsciiLetter letter && (mark == ':' || mark == '|')
  | _ => false

def leadBack (before : List String) : List String :=
  if before.getLast?.any isDrive then before else before.dropLast

-- The segments of a path: one dot stays where it is, two lead back, and either at the end leaves
-- an empty segment.
def segments : (before : List String) → List (List Char) → List String
  | before, [] => before
  | before, segment :: rest =>
    if isDoubleDot segment then
      segments (leadBack before ++ if rest = [] then [""] else []) rest
    else if isDot segment then segments (before ++ if rest = [] then [""] else []) rest
    else segments (before ++ [.ofList (encodeChars escapesPath segment)]) rest

def pathSegments (s : List Char) : List String :=
  let plain := s.map fun c => if c = '\\' then '/' else c
  match plain with
  | '/' :: rest => segments [] (splitOnChar '/' rest)
  | rest => segments [] (splitOnChar '/' rest)

def splitPort : (bracketed : Bool) → List Char → List Char × Option (List Char)
  | _, [] => ([], none)
  | bracketed, c :: rest =>
    if c = ':' ∧ ¬ bracketed then ([], some rest)
    else
      let inside := if c = '[' then true else if c = ']' then false else bracketed
      let (host, port) := splitPort inside rest
      (c :: host, port)

-- A port number; the scheme's own is left out, as is an empty one.
def port? (own : Nat) (digits : List Char) : Option (Option UInt16) :=
  if ¬ digits.all isAsciiDigit ∨ 2 ^ 16 ≤ numeral 10 digits then none
  else if digits = [] ∨ numeral 10 digits = own then some none
  else some (some (UInt16.ofNat (numeral 10 digits)))

def splitUser (authority : List Char) : List Char × List Char :=
  let host := (authority.reverse.takeWhile (· ≠ '@')).reverse
  (authority.take (authority.length - host.length - 1), host)

-- A user, and what follows the first colon as a password, unless nothing does.
def credentials? (s : List Char) : Option Credentials :=
  let encode (s : List Char) : String := .ofList (encodeChars escapesUser s)
  match cut ':' s with
  | ([], none) | ([], some []) => none
  | (user, none) | (user, some []) => some ⟨encode user, none⟩
  | (user, some password) => some ⟨encode user, some (encode password)⟩

def afterScheme? (s : List Char) : Option (Bool × List Char) :=
  let (scheme, rest) := cut ':' s
  match lower (.ofList scheme), rest with
  | "http", some rest => some (false, rest.dropWhile isSlash)
  | "https", some rest => some (true, rest.dropWhile isSlash)
  | _, _ => none

def parse? (text : String) : Option Url := do
  let (secure, rest) ← afterScheme? (cleaned text.toList)
  let (beforeFragment, fragment) := cut '#' rest
  let (beforeQuery, query) := cut '?' beforeFragment
  let authority := beforeQuery.takeWhile (!isSlash ·)
  let (user, address) := splitUser authority
  let (hostChars, portChars) := splitPort false address
  if hostChars = [] then none
  let host ← host? hostChars
  let port ← port? (if secure then 443 else 80) (portChars.getD [])
  return {
    secure, host, port
    credentials := credentials? user
    path := pathSegments (beforeQuery.drop authority.length)
    query := query.map fun q => .ofList (encodeChars escapesQuery q)
    fragment := fragment.map fun f => .ofList (encodeChars escapesFragment f) }

def withPairs (url : Url) (pairs : List (String × String)) : Url :=
  let added := String.ofList (formPairs pairs)
  { url with query := match url.query with
    | none => some added
    | some "" => some added
    | some query => some (query ++ "&" ++ added) }

def withoutCredentials (url : Url) : Url :=
  if url.credentials.any (·.areReadable) then { url with credentials := none } else url

def pathText (url : Url) : String := "/" ++ joinWith "/" url.path

def userText (c : Credentials) : String := c.user ++ c.password.elim "" (":" ++ ·) ++ "@"

def authorityText (url : Url) : String :=
  url.credentials.elim "" userText ++ url.host ++ url.port.elim "" fun p => ":" ++ toString p.toNat

def requestText (url : Url) : String :=
  (if url.secure then "https://" else "http://") ++ url.authorityText ++ url.pathText ++
    url.query.elim "" ("?" ++ ·)

def text (url : Url) : String := url.requestText ++ url.fragment.elim "" ("#" ++ ·)

end Url

end ServiceDiscovery
