namespace ServiceDiscovery

-- A JSON value. Members of an object keep their order and may repeat a name. A number that is not
-- a run of digits keeps its literal. A string with an unpaired surrogate holds no text at all,
-- and no more does an object in which a member has such a string for a name.
inductive Json where
  | null
  | bool (b : Bool)
  | number (n : Nat)
  | otherNumber (literal : String)
  | string (s : String)
  | brokenString
  | array (items : List Json)
  | object (members : List (String × Json))
  | brokenObject
deriving Inhabited

namespace Json

def hexDigit (n : Nat) : Char :=
  if n < 10 then Char.ofNat ('0'.toNat + n) else Char.ofNat ('a'.toNat + (n - 10))

def escapeChar (c : Char) : List Char :=
  if c = '"' then ['\\', '"']
  else if c = '\\' then ['\\', '\\']
  else if c = '\x08' then ['\\', 'b']
  else if c = '\x0c' then ['\\', 'f']
  else if c = '\n' then ['\\', 'n']
  else if c = '\r' then ['\\', 'r']
  else if c = '\t' then ['\\', 't']
  else if c.toNat < 0x20 then
    ['\\', 'u', '0', '0', hexDigit (c.toNat / 16), hexDigit (c.toNat % 16)]
  else [c]

def quoted (s : String) : List Char := '"' :: (s.toList.flatMap escapeChar ++ ['"'])

def separated : List (List Char) → List Char
  | [] => []
  | [x] => x
  | x :: rest => x ++ ',' :: separated rest

mutual

def chars : Json → List Char
  | .null => "null".toList
  | .bool true => "true".toList
  | .bool false => "false".toList
  | .number n => Nat.toDigits 10 n
  | .otherNumber literal => literal.toList
  | .string s => quoted s
  | .brokenString => "\"\\ud800\"".toList
  | .array items => '[' :: (separated (itemChars items) ++ [']'])
  | .brokenObject => "\x7b\"\\ud800\":null\x7d".toList
  | .object members => '{' :: (separated (memberChars members) ++ ['}'])

def itemChars : List Json → List (List Char)
  | [] => []
  | j :: rest => chars j :: itemChars rest

def memberChars : List (String × Json) → List (List Char)
  | [] => []
  | (name, j) :: rest => (quoted name ++ ':' :: chars j) :: memberChars rest

end

@[simp] theorem chars_null : chars .null = "null".toList := chars.eq_def .null

@[simp] theorem chars_bool (b : Bool) :
    chars (.bool b) = if b then "true".toList else "false".toList := by
  rw [chars.eq_def]
  cases b with
  | true => rfl
  | false => rfl

@[simp] theorem chars_number (n : Nat) : chars (.number n) = Nat.toDigits 10 n :=
  chars.eq_def (.number n)

@[simp] theorem chars_string (s : String) : chars (.string s) = quoted s :=
  chars.eq_def (.string s)

@[simp] theorem chars_array (items : List Json) :
    chars (.array items) = '[' :: (separated (itemChars items) ++ [']']) :=
  chars.eq_def (.array items)

@[simp] theorem chars_object (members : List (String × Json)) :
    chars (.object members) = '{' :: (separated (memberChars members) ++ ['}']) :=
  chars.eq_def (.object members)

def text (j : Json) : String := String.ofList j.chars

end Json

end ServiceDiscovery
