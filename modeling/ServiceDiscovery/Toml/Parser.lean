import ServiceDiscovery.Toml.Scalar

namespace ServiceDiscovery.Toml

open Text

def skipBlank (s : List Char) : List Char := s.dropWhile isBlank

def skipLines : (comment : Bool) → List Char → Option (List Char)
  | _, [] => some []
  | _, '\n' :: rest => skipLines false rest
  | _, '\r' :: '\n' :: rest => skipLines false rest
  | true, c :: rest => if isPlain c then skipLines true rest else none
  | false, c :: rest =>
    if isBlank c then skipLines false rest
    else if c = '#' then skipLines true rest
    else some (c :: rest)

def endLine? (s : List Char) : Option (List Char) :=
  let afterComment (s : List Char) : Option (List Char) :=
    match s with
    | [] => some []
    | '\n' :: rest => some rest
    | '\r' :: '\n' :: rest => some rest
    | _ => none
  match skipBlank s with
  | '#' :: comment => afterComment (comment.dropWhile isPlain)
  | rest => afterComment rest

def simpleKey? : List Char → Option (String × List Char)
  | '"' :: rest => (basicRest 0 rest).map fun (key, after) => (.ofList key, after)
  | '\'' :: rest => (literalRest rest).map fun (key, after) => (.ofList key, after)
  | s =>
    let key := s.takeWhile isBareKeyChar
    if key = [] then none else some (.ofList key, s.dropWhile isBareKeyChar)

-- Arrays and inline tables nest at most this deep, and no key has more names.
def maxDepth : Nat := 80

-- A key of up to `limit` names with dots between them: the names before the last, and the last.
def names? : (limit : Nat) → List Char → Option (List String × String × List Char)
  | 0, _ => none
  | limit + 1, s => do
    let (name, after) ← simpleKey? (skipBlank s)
    match skipBlank after with
    | '.' :: more =>
      let (path, last, rest) ← names? limit more
      return (name :: path, last, rest)
    | rest => some ([], name, rest)

def key? (s : List Char) : Option (List String × String × List Char) := names? maxDepth s

def isWordChar (c : Char) : Bool :=
  !(isBlank c || c == '\n' || c == '\r' || c == ',' || c == ']' || c == '}' || c == '#')

-- A word, or a date and a time with one blank between them.
def words (s : List Char) : List Char × List Char :=
  let first := s.takeWhile isWordChar
  match s.dropWhile isWordChar with
  | ' ' :: digit :: rest =>
    if isAsciiDigit digit ∧ afterDate? first = some [] then
      let second := (digit :: rest).takeWhile isWordChar
      (first ++ ' ' :: second, (digit :: rest).dropWhile isWordChar)
    else (first, ' ' :: digit :: rest)
  | rest => (first, rest)

def scalarValue? (s : List Char) : Option (Value × List Char) :=
  let string := fun (content, after) => (Value.string (.ofList content), after)
  match s with
  | '"' :: '"' :: '"' :: rest => (basicLinesRest 0 false (skipFirstLineEnd rest)).map string
  | '\'' :: '\'' :: '\'' :: rest => (literalLinesRest (skipFirstLineEnd rest)).map string
  | '"' :: rest => (basicRest 0 rest).map string
  | '\'' :: rest => (literalRest rest).map string
  | _ => (word? (words s).1).map (·, (words s).2)

mutual

def value? : (fuel depth : Nat) → List Char → Option (Value × List Char)
  | 0, _, _ => none
  | fuel + 1, depth, s =>
    match s with
    | '[' :: rest =>
      if maxDepth ≤ depth then none
      else do
        let (items, after) ← items? fuel (depth + 1) rest
        return (.array items, after)
    | '{' :: rest =>
      if maxDepth ≤ depth then none
      else do
        let (entries, after) ← entries? fuel (depth + 1) [] rest
        return (.table .inline entries, after)
    | _ => scalarValue? s

def items? : (fuel depth : Nat) → List Char → Option (List Value × List Char)
  | 0, _, _ => none
  | fuel + 1, depth, s => do
    match ← skipLines false s with
    | ']' :: after => some ([], after)
    | first =>
      let (item, after) ← value? fuel depth first
      match ← skipLines false after with
      | ',' :: more =>
        let (items, rest) ← items? fuel depth more
        return (item :: items, rest)
      | ']' :: rest => some ([item], rest)
      | _ => none

-- The entries of an inline table up to its closing brace, after those already read. Between a key
-- and its value a new line may start.
def entries? : (fuel depth : Nat) → Entries → List Char → Option (Entries × List Char)
  | 0, _, _, _ => none
  | fuel + 1, depth, entries, s => do
    match ← skipLines false s with
    | '}' :: after => some (entries, after)
    | first =>
      let (path, key, afterKey) ← key? first
      match ← skipLines false afterKey with
      | '=' :: valued =>
        let (value, after) ← value? fuel depth (← skipLines false valued)
        let (_, entries) ← assign path key value .inline entries
        match ← skipLines false after with
        | ',' :: more => entries? fuel depth entries more
        | '}' :: rest => some (entries, rest)
        | _ => none
      | _ => none

end

structure Document where
  entries : Entries
  path : List String

def Document.make (document : Document) (change : Change) (path : List String) :
    Option Document := do
  let (_, entries) ← change .header document.entries
  return ⟨entries, path⟩

def Document.line? (document : Document) (s : List Char) : Option (Document × List Char) :=
  match s with
  | '[' :: '[' :: rest => do
    let (path, key, after) ← key? rest
    match after with
    | ']' :: ']' :: after =>
      let next ← document.make (appendTable path key) (path ++ [key])
      return (next, ← endLine? after)
    | _ => none
  | '[' :: rest => do
    let (path, key, after) ← key? rest
    match after with
    | ']' :: after =>
      let next ← document.make (openTable path key) (path ++ [key])
      return (next, ← endLine? after)
    | _ => none
  | _ => do
    let (path, key, afterKey) ← key? s
    match afterKey with
    | '=' :: valued =>
      let (value, after) ← value? (2 * valued.length + 2) 0 (skipBlank valued)
      let next ← document.make (Change.along (assign path key value) false document.path)
        document.path
      return (next, ← endLine? after)
    | _ => none

def Document.lines? : Nat → Document → List Char → Option Document
  | 0, _, _ => none
  | fuel + 1, document, s => do
    match ← skipLines false s with
    | [] => some document
    | first =>
      let (next, rest) ← document.line? first
      Document.lines? fuel next rest

def parse? (text : String) : Option Value := do
  let chars := match text.toList with
    | '\ufeff' :: rest => rest
    | chars => chars
  let document ← Document.lines? (chars.length + 1) ⟨[], []⟩ chars
  return .table .header document.entries

end ServiceDiscovery.Toml
