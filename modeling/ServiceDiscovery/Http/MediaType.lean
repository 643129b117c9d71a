import ServiceDiscovery.Http.Charset

namespace ServiceDiscovery.Http.MediaType

open Text

abbrev Parameter := List Char × List Char

def isTokenChar (c : Char) : Bool :=
  isAsciiLetter c || isAsciiDigit c || "!#$%&'*+-.^_\x60|~".toList.contains c

def isQuotedChar (c : Char) : Bool := 0x1f < c.toNat && c.toNat ≠ 0x7f

-- Where a reader of parameters is: before one, in a name, in a value after it, in a quoted value
-- or behind one. The first character after an opening quote belongs to the value, whatever it is.
inductive Place where
  | before
  | name (read : List Char)
  | value (name read : List Char)
  | quoted (name read : List Char)
  | behind (name value : List Char)

@[simp]
def parameters? : Place → List Char → Option (List Parameter)
  | .before, [] => some []
  | .name _, [] => none
  | .value name read, [] => some [(name, read)]
  | .quoted _ _, [] => none
  | .behind name value, [] => some [(name, value)]
  | .before, c :: rest =>
    if c = ' ' then parameters? .before rest
    else if isTokenChar c then parameters? (.name [c]) rest
    else none
  | .name read, c :: rest =>
    if isTokenChar c then parameters? (.name (read ++ [c])) rest
    else if c = '=' then parameters? (.value read []) rest
    else none
  | .value name read, c :: rest =>
    if c = '"' ∧ read = [] then parameters? (.quoted name []) rest
    else if isTokenChar c then parameters? (.value name (read ++ [c])) rest
    else if c = ';' ∧ read ≠ [] then (parameters? .before rest).map ((name, read) :: ·)
    else none
  | .quoted name read, c :: rest =>
    if c = '"' ∧ read ≠ [] then parameters? (.behind name read) rest
    else if isQuotedChar c then parameters? (.quoted name (read ++ [c])) rest
    else none
  | .behind name value, c :: rest =>
    if c = ';' then (parameters? .before rest).map ((name, value) :: ·)
    else if c = ' ' then parameters? (.behind name value) rest
    else none

def read? (text : List Char) : Option (List Parameter) :=
  let type := text.takeWhile isTokenChar
  match text.drop type.length with
  | '/' :: rest =>
    let subtype := rest.takeWhile isTokenChar
    match rest.drop subtype.length with
    | [] => if type = [] then none else some []
    | ';' :: rest => if type = [] ∨ subtype = [] then none else parameters? .before rest
    | _ => none
  | _ => none

def charset? (text : List Char) : Option Charset := do
  let parameters ← read? text
  let label ← parameters.find? fun parameter => parameter.1.map lowerChar = "charset".toList
  Charset.ofLabel? label.2

end ServiceDiscovery.Http.MediaType
