import ServiceDiscovery.Text.Blank
import ServiceDiscovery.Text.Word

/-!
Patterns for the values of fields: regular expressions. A pattern stands between braces and holds no
closing brace, so that whatever needs one, such as a counted repetition, is never complete. Only the
shape of a pattern is kept, which decides whether values can be matched with it.
-/
namespace ServiceDiscovery.Log

open Text

-- What stands between brackets: single characters and ranges of them, several together, sets in
-- brackets of their own, and operations on sets.
inductive CharSet where
  | single
  | union (sets : List CharSet)
  | bracketed (set : CharSet)
  | operation (left right : CharSet)

-- A pattern. A place matches between characters; a word boundary is a place that depends on the
-- letters of all scripts. A setting changes how what follows is read.
inductive Pattern where
  | empty
  | setting
  | single
  | place
  | wordBoundary
  | set (s : CharSet)
  | repeated (p : Pattern)
  | group (p : Pattern)
  | sequence (ps : List Pattern)
  | choice (ps : List Pattern)

mutual

def CharSet.depth : CharSet → Nat
  | .single => 0
  | .union sets => CharSet.depths sets + 1
  | .bracketed set => set.depth + 1
  | .operation left right => max left.depth right.depth + 1

def CharSet.depths : List CharSet → Nat
  | [] => 0
  | s :: rest => max s.depth (CharSet.depths rest)

end

mutual

def Pattern.depth : Pattern → Nat
  | .empty | .setting | .single | .place | .wordBoundary => 0
  | .set s => s.depth + 1
  | .repeated p | .group p => p.depth + 1
  | .sequence ps | .choice ps => Pattern.depths ps + 1

def Pattern.depths : List Pattern → Nat
  | [] => 0
  | p :: rest => max p.depth (Pattern.depths rest)

end

mutual

def Pattern.hasWordBoundary : Pattern → Bool
  | .empty | .setting | .single | .place | .set _ => false
  | .wordBoundary => true
  | .repeated p | .group p => p.hasWordBoundary
  | .sequence ps | .choice ps => Pattern.haveWordBoundary ps

def Pattern.haveWordBoundary : List Pattern → Bool
  | [] => false
  | p :: rest => p.hasWordBoundary || Pattern.haveWordBoundary rest

end

namespace Pattern

-- How a pattern is read, from a setting to the end of the group around it: whether blanks and
-- comments are skipped, and whether it is about characters of all scripts or about bytes.
structure Mode where
  spaced : Bool
  unicode : Bool
deriving DecidableEq, Repr

def skipComments : (comment : Bool) → List Char → List Char
  | _, [] => []
  | true, c :: rest => skipComments (c != '\n') rest
  | false, c :: rest =>
    if isBlank c then skipComments false rest
    else if c = '#' then skipComments true rest
    else c :: rest

def skipBlank (mode : Mode) (s : List Char) : List Char :=
  if mode.spaced then skipComments false s else s

inductive Escape where
  | literal (c : Char)
  | kind
  | place
  | wordBoundary

def hexWidth? : Char → Option Nat
  | 'x' => some 2
  | 'u' => some 4
  | 'U' => some 8
  | _ => none

def hexDigits? (mode : Mode) : Nat → List Char → Option (List Char × List Char)
  | 0, s => some ([], s)
  | n + 1, s =>
    match skipBlank mode s with
    | [] => none
    | c :: rest =>
      if isHexDigit c then (hexDigits? mode n rest).map fun (cs, after) => (c :: cs, after)
      else none

-- A code point in hexadecimal. Two digits make a byte, which alone is a character below 128.
def hexEscape? (mode : Mode) (width : Nat) (s : List Char) : Option (Escape × List Char) := do
  let (digits, rest) ← hexDigits? mode width s
  let n := numeral 16 digits
  if ¬ mode.unicode ∧ width = 2 ∧ 0x80 ≤ n then none
  if h : n.isValidChar then some (.literal (Char.ofNatAux n h), rest) else none

def categoryEscape? (mode : Mode) (s : List Char) : Option (Escape × List Char) :=
  match skipBlank mode s with
  | [] => none
  | c :: rest =>
    if mode.unicode ∧ "clmnpsz".toList.contains (lowerChar c) then some (.kind, rest) else none

def isEscapable (c : Char) : Bool :=
  c.toNat < 0x80 && !isAsciiLetter c && !isAsciiDigit c && c != '<' && c != '>'

def control? : Char → Option Char
  | 'a' => some '\x07'
  | 'f' => some '\x0c'
  | 't' => some '\t'
  | 'n' => some '\n'
  | 'r' => some '\r'
  | 'v' => some '\x0b'
  | _ => none

-- What stands after a backslash. About bytes, no kind says what a character is not.
def escape? (mode : Mode) : List Char → Option (Escape × List Char)
  | [] => none
  | c :: rest =>
    match hexWidth? c, control? c with
    | some width, _ => hexEscape? mode width rest
    | _, some control => some (.literal control, rest)
    | none, none =>
      if isEscapable c then some (.literal c, rest)
      else if c = 'p' ∨ c = 'P' then categoryEscape? mode rest
      else if "dsw".toList.contains c then some (.kind, rest)
      else if "DSW".toList.contains c then if mode.unicode then some (.kind, rest) else none
      else if c = 'A' ∨ c = 'z' then some (.place, rest)
      else if "bB<>".toList.contains c then
        some (if mode.unicode then .wordBoundary else .place, rest)
      else none

def ofEscape : Escape → Pattern
  | .literal _ | .kind => .single
  | .place => .place
  | .wordBoundary => .wordBoundary

def setItem? (mode : Mode) : List Char → Option (Option Char × List Char)
  | [] => none
  | '\\' :: rest => do
    match ← escape? mode rest with
    | (.literal c, after) => if mode.unicode ∨ c.toNat < 0x80 then some (some c, after) else none
    | (.kind, after) => some (none, after)
    | _ => none
  | c :: rest => if mode.unicode ∨ c.toNat < 0x80 then some (some c, rest) else none

-- The character that seems to follow. Where blanks are skipped, they are, but of comments only
-- the mark that starts the first.
def peek? (mode : Mode) (s : List Char) : Option Char :=
  if mode.spaced then
    match s.dropWhile isBlank with
    | '#' :: rest => (rest.dropWhile isBlank).head?
    | rest => rest.head?
  else s.head?

-- What follows an item of a set or a range of them. A dash before a bracket or another dash makes
-- no range.
def afterItem? (mode : Mode) (s : List Char) : Option (List Char) := do
  let (first, after) ← setItem? mode s
  match skipBlank mode after with
  | [] => none
  | '-' :: rest =>
    if peek? mode rest = some ']' ∨ peek? mode rest = some '-' then some ('-' :: rest)
    else
      let (last, after) ← setItem? mode (skipBlank mode rest)
      if (← first) ≤ (← last) then some after else none
  | rest => some rest

def classNames : List String :=
  ["alnum", "alpha", "ascii", "blank", "cntrl", "digit", "graph", "lower", "print", "punct",
    "space", "upper", "word", "xdigit"]

def afterClass? (s : List Char) : Option (Bool × List Char) :=
  match s with
  | ':' :: rest =>
    let negated := rest.head? == some '^'
    let named := if negated then rest.tail else rest
    match named.dropWhile (· ≠ ':') with
    | ':' :: ']' :: after =>
      if classNames.contains (.ofList (named.takeWhile (· ≠ ':'))) then some (negated, after)
      else none
    | _ => none
  | _ => none

def setOfItems : List CharSet → CharSet
  | [] => .single
  | [item] => item
  | items => .union items

-- The set that the items make, on the right of an operation if one is open.
def closeSet (left : Option CharSet) (items : List CharSet) : CharSet :=
  match left with
  | none => setOfItems items
  | some l => .operation l (setOfItems items)

mutual

-- A set up to its closing bracket; `fuel` bounds what is read. About bytes, no caret at its start
-- turns it round.
def set? : (fuel : Nat) → Mode → List Char → Option (CharSet × List Char)
  | 0, _, _ => none
  | fuel + 1, mode, s =>
    match skipBlank mode s with
    | '^' :: rest => if mode.unicode then setRest? fuel mode true none [] rest else none
    | rest => setRest? fuel mode true none [] rest

-- The rest of a set after `items`. At the start, dashes stand for themselves, and so does a
-- closing bracket that comes first.
def setRest? : (fuel : Nat) → Mode → (atStart : Bool) → (left : Option CharSet) →
    (items : List CharSet) → List Char → Option (CharSet × List Char)
  | 0, _, _, _, _, _ => none
  | fuel + 1, mode, atStart, left, items, s =>
    match atStart, skipBlank mode s with
    | _, [] => none
    | true, '-' :: rest => setRest? fuel mode true left (.single :: items) rest
    | true, rest =>
      match rest with
      | ']' :: after =>
        if items.isEmpty then setRest? fuel mode false left [.single] after
        else some (closeSet left items, after)
      | _ => setRest? fuel mode false left items rest
    | false, ']' :: rest => some (closeSet left items, rest)
    | false, '[' :: rest =>
      match afterClass? rest with
      | some (negated, after) =>
        if negated ∧ ¬ mode.unicode then none
        else setRest? fuel mode false left (.single :: items) after
      | none => do
        let (inner, after) ← set? fuel mode rest
        setRest? fuel mode false left (.bracketed inner :: items) after
    | false, '&' :: '&' :: rest => setRest? fuel mode false (some (closeSet left items)) [] rest
    | false, '-' :: '-' :: rest => setRest? fuel mode false (some (closeSet left items)) [] rest
    | false, '~' :: '~' :: rest => setRest? fuel mode false (some (closeSet left items)) [] rest
    | false, rest => do
      let after ← afterItem? mode rest
      setRest? fuel mode false left (.single :: items) after

end

inductive Opening where
  | setting (mode : Mode)
  | body (mode : Mode) (name : Option (List Char))

def isNameStart (c : Char) : Bool := c == '_' || isLetter c
def isNameChar (c : Char) : Bool := isWordChar c || "_.[]".toList.contains c

def groupName? (s : List Char) : Option (List Char × List Char) :=
  let name := s.takeWhile (· ≠ '>')
  match s.drop name.length with
  | _ :: after =>
    if name.head?.any isNameStart ∧ name.all isNameChar then some (name, after) else none
  | [] => none

def flagLetters : List Char := "imsUuRx".toList

-- The mode after flags, of which each comes once. Those after a dash, which stands not at the
-- end, are taken away.
def flags? (mode : Mode) (flags : List Char) : Option Mode :=
  let given := flags.takeWhile (· ≠ '-')
  let taken := (flags.drop given.length).tail
  let letters := given ++ taken
  if letters.all flagLetters.contains ∧ letters.eraseDups.length = letters.length ∧
      flags.getLast? ≠ some '-' then
    let has (c : Char) (before : Bool) : Bool := given.contains c || (before && !taken.contains c)
    some ⟨has 'x' mode.spaced, has 'u' mode.unicode⟩
  else none

def opening? (mode : Mode) (s : List Char) : Option (Opening × List Char) :=
  match skipBlank mode s with
  | '?' :: 'P' :: '<' :: rest => named rest
  | '?' :: '<' :: rest => if rest.head? = some '=' ∨ rest.head? = some '!' then none else named rest
  | '?' :: rest => do
    let flags := rest.takeWhile fun c => c ≠ ':' ∧ c ≠ ')'
    let inner ← flags? mode flags
    match rest.drop flags.length with
    | ':' :: after => some (.body inner none, after)
    | _ :: after => if flags = [] then none else some (.setting inner, after)
    | [] => none
  | rest => some (.body mode none, rest)
where
  named (s : List Char) : Option (Opening × List Char) :=
    (groupName? s).map fun (name, after) => (.body mode (some name), after)

def sequenceOf : List Pattern → Pattern
  | [] => .empty
  | [p] => p
  | ps => .sequence ps

def choiceOf : List Pattern → Pattern
  | [p] => p
  | ps => .choice ps

def isOperand : Pattern → Bool
  | .empty | .setting => false
  | _ => true

-- The rest of a pattern up to a closing bracket or the end, after the alternatives `done` and the
-- `items` of the one under way, the nearest first: the pattern, the names of all groups so far,
-- and what follows.
def rest? : (fuel : Nat) → Mode → (names : List (List Char)) → (done items : List Pattern) →
    List Char → Option (Pattern × List (List Char) × List Char)
  | 0, _, _, _, _, _ => none
  | fuel + 1, mode, names, done, items, s =>
    let alternatives := sequenceOf items.reverse :: done
    match skipBlank mode s with
    | [] => some (choiceOf alternatives.reverse, names, [])
    | ')' :: after => some (choiceOf alternatives.reverse, names, ')' :: after)
    | '|' :: after => rest? fuel mode names alternatives [] after
    | '(' :: after => do
      match ← opening? mode after with
      | (.setting mode, after) => rest? fuel mode names done (.setting :: items) after
      | (.body inner name, after) =>
        if name.any names.contains then none
        match ← rest? fuel inner (name.toList ++ names) [] [] after with
        | (p, names, ')' :: after) => rest? fuel mode names done (.group p :: items) after
        | _ => none
    | '[' :: after => do
      let (between, after) ← set? fuel mode after
      rest? fuel mode names done (.set between :: items) after
    | '\\' :: after => do
      let (escape, after) ← escape? mode after
      rest? fuel mode names done (ofEscape escape :: items) after
    | '.' :: after =>
      if mode.unicode then rest? fuel mode names done (.single :: items) after else none
    | c :: after =>
      if c = '?' ∨ c = '*' ∨ c = '+' then
        match items with
        | p :: before =>
          let after := if after.head? = some '?' then after.tail else after
          if isOperand p then rest? fuel mode names done (.repeated p :: before) after else none
        | [] => none
      else if c = '\x7b' then none
      else if c = '^' ∨ c = '$' then rest? fuel mode names done (.place :: items) after
      else rest? fuel mode names done (.single :: items) after

def maxDepth : Nat := 250

def parse? (text : List Char) : Option Pattern := do
  match ← rest? (3 * text.length + 3) ⟨false, true⟩ [] [] [] text with
  | (p, _, []) => if p.depth ≤ maxDepth then some p else none
  | _ => none

end Pattern

end ServiceDiscovery.Log
