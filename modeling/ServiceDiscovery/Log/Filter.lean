import ServiceDiscovery.Log
import ServiceDiscovery.Log.Pattern

namespace ServiceDiscovery.Log

open Text

-- How much is let through: the levels up to a rank, and at zero none.
abbrev Verbosity := Nat

def verbosityNames : List (String × Verbosity) :=
  [("off", 0), ("error", 1), ("warn", 2), ("info", 3), ("debug", 4), ("trace", 5)]

def verbosity? (s : String) : Option Verbosity :=
  let digits := match s.toList with
    | '+' :: rest => rest
    | chars => chars
  match decimal64? digits with
  | some n => if n ≤ 5 then some n.toNat else none
  | none => if s = "" then some 1 else verbosityNames.lookup (lower s)

structure Directive where
  target : Option String
  span : Option String
  fields : List (String × Bool)
  verbosity : Verbosity
deriving DecidableEq, Repr

-- Why a text is no directive. A field's value may be no pattern, or be one whose places depend on
-- the letters of all scripts, for which there is no automaton.
inductive DirectiveFault where
  | malformed | level | notPattern | wordBoundary
deriving DecidableEq, Repr

def DirectiveFault.message : DirectiveFault → String
  | .malformed => "invalid filter directive"
  | .level =>
    "error parsing level filter: expected one of \"off\", \"error\", \"warn\", \"info\", " ++
      "\"debug\", \"trace\", or a number 0-5"
  | .notPattern => "invalid field filter: error building NFA"
  | .wordBoundary =>
    "invalid field filter: unsupported regex feature for DFAs: cannot build DFAs for regexes " ++
      "with Unicode word boundaries; switch to ASCII word boundaries, or heuristically enable " ++
      "Unicode word boundaries or use a different regex engine"

def isNumber (s : List Char) : Bool :=
  let unsigned (s : List Char) : List Char :=
    match s with
    | '+' :: rest => rest
    | '-' :: rest => rest
    | _ => s
  let body := unsigned s
  let mantissa := body.takeWhile fun c => c ≠ 'e' ∧ c ≠ 'E'
  let exponent := body.drop mantissa.length
  let whole := mantissa.takeWhile (· ≠ '.')
  let fraction := (mantissa.drop whole.length).tail
  let digits := whole ++ fraction
  ["inf", "infinity", "nan"].contains (lower (.ofList body)) ||
    (digits ≠ [] && digits.all isAsciiDigit &&
      (exponent = [] ||
        (unsigned exponent.tail ≠ [] && (unsigned exponent.tail).all isAsciiDigit)))

def valueFault? (value : List Char) : Option DirectiveFault :=
  if isNumber value then none
  else
    match Pattern.parse? value with
    | none => some .notPattern
    | some p => if p.hasWordBoundary then some .wordBoundary else none

namespace Directive

inductive Reading where
  | start
  | levelOrTarget (start : Nat)
  | span (start : Nat)
  | field (start : Nat)
  | afterFields
  | afterTarget
  | level (start : Nat)

def everything : Directive := ⟨none, none, [], 5⟩

def isTargetStart (c : Char) : Bool := c == '-' || c == ':' || c == '_' || isWordChar c

def withOffsets : (offset : Nat) → List Char → List (Char × Nat)
  | _, [] => []
  | offset, c :: rest => (c, offset) :: withOffsets (offset + c.utf8Size) rest

def slice (text : List Char) (start stop : Nat) : String :=
  .ofList (((withOffsets 0 text).filter fun (_, i) => start ≤ i && i < stop).map (·.1))

def addField (d : Directive) (text : String) : Except DirectiveFault Directive :=
  match text.toList.splitOn '=' with
  | [] | [[]] => .error .malformed
  | [name] => .ok { d with fields := d.fields ++ [(.ofList name, false)] }
  | name :: value :: _ =>
    match valueFault? value with
    | some fault => .error fault
    | none => .ok { d with fields := d.fields ++ [(.ofList name, true)] }

def read (text : List Char) (reading : Reading) (d : Directive) (c : Char) (i : Nat) :
    Except DirectiveFault (Reading × Directive) :=
  match reading with
  | .start =>
    if c = '[' then .ok (.span (i + 1), d)
    else if isTargetStart c then .ok (.levelOrTarget i, d)
    else .error .malformed
  | .levelOrTarget start =>
    if c = '=' then .ok (.level (i + 1), { d with target := some (slice text start i) })
    else if c = '[' then .ok (.span (i + 1), { d with target := some (slice text start i) })
    else .ok (reading, d)
  | .span start =>
    if c = ']' then .ok (.afterTarget, { d with span := some (slice text start i) })
    else if c = '\x7b' then
      let span := slice text start i
      .ok (.field (i + 1), { d with span := if span = "" then none else some span })
    else .ok (reading, d)
  | .field start =>
    if c = '\x7d' then do return (.afterFields, ← d.addField (slice text start i))
    else .ok (reading, d)
  | .afterFields => if c = ']' then .ok (.afterTarget, d) else .error .malformed
  | .afterTarget => if c = '=' then .ok (.level (i + 1), d) else .error .malformed
  | .level _ => .ok (reading, d)

def sliceFrom (text : List Char) (start : Nat) : String :=
  slice text start (String.ofList text).utf8ByteSize

def finish (text : List Char) (d : Directive) : Reading → Except DirectiveFault Directive
  | .levelOrTarget start =>
    let word := sliceFrom text start
    match verbosity? word with
    | some v => .ok { d with verbosity := v }
    | none => .ok { d with target := some word }
  | .level start =>
    let word := sliceFrom text start
    if word = "" then .ok d
    else
      match verbosity? word with
      | some v => .ok { d with verbosity := v }
      | none => .error .level
  | .afterTarget => .ok d
  | _ => .error .malformed

-- Reads a directive. Blanks around it are not read, but places are counted as if it had none.
def parse (text : List Char) : Except DirectiveFault Directive := do
  let (reading, d) ← (withOffsets 0 (trim text)).foldlM
    (fun (reading, d) (c, i) => read text reading d c i) (.start, everything)
  finish text d reading

def isStatic (d : Directive) : Bool := d.span.isNone && d.fields.all (!·.2)

def isPlain (d : Directive) : Bool := d.span.isNone && d.fields.isEmpty

-- Where a directive stands among others: a longer target first, then more fields, then the later
-- in order.
def before (a b : Directive) : Bool :=
  let size (d : Directive) : Nat := d.target.elim 0 fun t => t.utf8ByteSize + 1
  let target (d : Directive) : String := d.target.getD ""
  let names (d : Directive) : List String := d.fields.map (·.1)
  if size a ≠ size b then size b < size a
  else if a.fields.length ≠ b.fields.length then b.fields.length < a.fields.length
  else if target a ≠ target b then target b < target a
  else names b < names a

def covers (d : Directive) (target : String) (fields : Option (List String)) : Bool :=
  d.target.all (fun t => t.toList.isPrefixOf target.toList) &&
    fields.all fun names => d.fields.all fun f => names.contains f.1

end Directive

structure Filter where
  directives : List Directive

namespace Filter

def add (filter : List Directive) (d : Directive) : List Directive :=
  let others := filter.filter fun e => d.before e || e.before d
  others.filter (·.before d) ++ d :: others.filter fun e => !e.before d

def splitCommas (s : List Char) : List (List Char) :=
  s.splitOn ',' |>.filter (· ≠ [])

def parse (text : String) : Except DirectiveFault Filter := do
  let directives ← (splitCommas text.toList).mapM Directive.parse
  let ordered := directives.filter (·.isPlain) ++ directives.filter (!·.isPlain)
  return ⟨(ordered.filter (·.isStatic)).foldl add []⟩

def enables (filter : Filter) (level : Level) (target : String) (fields : Option (List String)) :
    Bool :=
  match filter.directives.find? (·.covers target fields) with
  | some d => level.rank ≤ d.verbosity
  | none => false

end Filter

end ServiceDiscovery.Log
