import ServiceDiscovery.Failure
import ServiceDiscovery.Text.Ascii

namespace ServiceDiscovery

open Text

def isHostChar (c : Char) : Bool :=
  isAsciiLetter c || isAsciiDigit c || c == '.' || c == '_' || c == '-'

def isServiceChar (c : Char) : Bool := isAsciiLetter c || c == '_'

abbrev IsRun (charClass : Char → Bool) (chars : List Char) : Prop :=
  chars ≠ [] ∧ chars.all charClass = true

structure Target where
  host : String
  port : UInt16
  service : String
  host_run : IsRun isHostChar host.toList
  service_run : IsRun isServiceChar service.toList
deriving DecidableEq

namespace Target

def defaultPort : UInt16 := 8500

def registryAddress (target : Target) : String :=
  target.host ++ ":" ++ toString target.port.toNat

def display (target : Target) : String := target.registryAddress ++ "/" ++ target.service

def ofParts? (host : List Char) (port : UInt16) (service : List Char) : Option Target :=
  if h : IsRun isHostChar host ∧ IsRun isServiceChar service then
    some ⟨.ofList host, port, .ofList service,
      by simpa only [String.toList_ofList] using h.1,
      by simpa only [String.toList_ofList] using h.2⟩
  else none

def port? (digits : List Char) : Option UInt16 :=
  if IsRun isAsciiDigit digits ∧ digits.length ≤ 5 ∧ numeral 10 digits < 2 ^ 16 then
    some (UInt16.ofNat (numeral 10 digits))
  else none

def ofChars? (chars : List Char) : Option Target :=
  let host := chars.takeWhile isHostChar
  match chars.dropWhile isHostChar with
  | '/' :: service => ofParts? host defaultPort service
  | ':' :: rest =>
    match rest.dropWhile isAsciiDigit with
    | '/' :: service => do ofParts? host (← port? (rest.takeWhile isAsciiDigit)) service
    | _ => none
  | _ => none

def parse (raw : String) : Except Failure Target :=
  if raw = "" then .error .missingAddress
  else
    match ofChars? raw.toList with
    | some target => .ok target
    | none => .error (.invalidUri raw)

end Target

def splitScheme? : List Char → Option (List Char × List Char)
  | [] => none
  | ':' :: '/' :: '/' :: rest => some ([], rest)
  | c :: rest => (splitScheme? rest).map fun (scheme, after) => (c :: scheme, after)

def stripScheme (raw expected : String) : Except Failure String :=
  match splitScheme? raw.toList with
  | none => .ok raw
  | some (scheme, rest) =>
    if equalFold (.ofList scheme) expected then .ok (.ofList rest)
    else .error (.unsupportedScheme (.ofList scheme))

end ServiceDiscovery
