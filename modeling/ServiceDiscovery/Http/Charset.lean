import ServiceDiscovery.Text.Ascii

namespace ServiceDiscovery.Http

open Text

-- The encodings that are kept in large tables go by their names.
inductive Charset where
  | utf8 | utf16le | utf16be | windows1252
  | table (name : String)
deriving DecidableEq, Repr

-- What the bytes of a text in a table's encoding stand for.
abbrev Tables := String → List UInt8 → List Char

namespace Charset

def replacement : Char := '\ufffd'

-- A lead byte: how many bytes follow it, and between which bounds the next one lies.
def utf8Lead? (b : UInt8) : Option (Nat × Nat × Nat) :=
  let n := b.toNat
  if 0xC2 ≤ n ∧ n ≤ 0xDF then some (1, 0x80, 0xBF)
  else if n = 0xE0 then some (2, 0xA0, 0xBF)
  else if n = 0xED then some (2, 0x80, 0x9F)
  else if 0xE1 ≤ n ∧ n ≤ 0xEF then some (2, 0x80, 0xBF)
  else if n = 0xF0 then some (3, 0x90, 0xBF)
  else if 0xF1 ≤ n ∧ n ≤ 0xF3 then some (3, 0x80, 0xBF)
  else if n = 0xF4 then some (3, 0x80, 0x8F)
  else none

structure Pending where
  value : Nat
  due : Nat
  low : Nat
  high : Nat

def startUtf8 (malformed : List Char) (b : UInt8) : List Char × Option Pending :=
  if b.toNat < 0x80 then ([Char.ofNat b.toNat], none)
  else
    match utf8Lead? b with
    | some (due, low, high) =>
      ([], some ⟨b.toNat % 2 ^ (6 - due), due, low, high⟩)
    | none => (malformed, none)

-- The characters of a text, with `malformed` in the place of each sequence that is none.
def decodeUtf8From (malformed : List Char) : Option Pending → List UInt8 → List Char
  | none, [] => []
  | some _, [] => malformed
  | none, b :: rest =>
    let (out, pending) := startUtf8 malformed b
    out ++ decodeUtf8From malformed pending rest
  | some p, b :: rest =>
    if p.low ≤ b.toNat ∧ b.toNat ≤ p.high then
      let value := p.value * 64 + b.toNat % 64
      if p.due = 1 then Char.ofNat value :: decodeUtf8From malformed none rest
      else decodeUtf8From malformed (some ⟨value, p.due - 1, 0x80, 0xBF⟩) rest
    else
      let (out, pending) := startUtf8 malformed b
      malformed ++ (out ++ decodeUtf8From malformed pending rest)

def decodeUtf8 : List UInt8 → List Char := decodeUtf8From [replacement] none

def isLead (unit : Nat) : Bool := 0xD800 ≤ unit && unit < 0xDC00
def isTrail (unit : Nat) : Bool := 0xDC00 ≤ unit && unit < 0xE000

-- The first half of a pair waits for the second. What is left at the end, a half or a byte or both,
-- is one malformed sequence.
def decodeUtf16From (unit : UInt8 → UInt8 → Nat) : Option Nat → List UInt8 → List Char
  | none, [] => []
  | some _, [] => [replacement]
  | _, [_] => [replacement]
  | none, a :: b :: rest =>
    let u := unit a b
    if isLead u then decodeUtf16From unit (some u) rest
    else if isTrail u then replacement :: decodeUtf16From unit none rest
    else Char.ofNat u :: decodeUtf16From unit none rest
  | some lead, a :: b :: rest =>
    let u := unit a b
    if isTrail u then
      Char.ofNat (0x10000 + (lead - 0xD800) * 0x400 + (u - 0xDC00)) ::
        decodeUtf16From unit none rest
    else if isLead u then replacement :: decodeUtf16From unit (some u) rest
    else replacement :: Char.ofNat u :: decodeUtf16From unit none rest

def littleEndian (a b : UInt8) : Nat := a.toNat + 256 * b.toNat
def bigEndian (a b : UInt8) : Nat := 256 * a.toNat + b.toNat

def windows1252Block : List Nat :=
  [0x20AC, 0x81, 0x201A, 0x0192, 0x201E, 0x2026, 0x2020, 0x2021, 0x02C6, 0x2030, 0x0160, 0x2039,
    0x0152, 0x8D, 0x017D, 0x8F, 0x90, 0x2018, 0x2019, 0x201C, 0x201D, 0x2022, 0x2013, 0x2014,
    0x02DC, 0x2122, 0x0161, 0x203A, 0x0153, 0x9D, 0x017E, 0x0178]

def windows1252Char (b : UInt8) : Char :=
  if 0x80 ≤ b.toNat ∧ b.toNat < 0xA0 then
    Char.ofNat (windows1252Block[b.toNat - 0x80]?.getD 0xFFFD)
  else Char.ofNat b.toNat

def labels : List (Charset × List String) :=
  [
    (.utf8, ["unicode-1-1-utf-8", "unicode11utf8", "unicode20utf8", "utf-8", "utf8",
      "x-unicode20utf8"]),
    (.utf16le, ["csunicode", "iso-10646-ucs-2", "ucs-2", "unicode", "unicodefeff", "utf-16",
      "utf-16le"]),
    (.utf16be, ["unicodefffe", "utf-16be"]),
    (.windows1252, ["ansi_x3.4-1968", "ascii", "cp1252", "cp819", "csisolatin1", "ibm819",
      "iso-8859-1", "iso-ir-100", "iso8859-1", "iso88591", "iso_8859-1", "iso_8859-1:1987", "l1",
      "latin1", "us-ascii", "windows-1252", "x-cp1252"]),
    (.table "ibm866", ["866", "cp866", "csibm866", "ibm866"]),
    (.table "iso-8859-2", ["csisolatin2", "iso-8859-2", "iso-ir-101", "iso8859-2", "iso88592",
      "iso_8859-2", "iso_8859-2:1987", "l2", "latin2"]),
    (.table "iso-8859-3", ["csisolatin3", "iso-8859-3", "iso-ir-109", "iso8859-3", "iso88593",
      "iso_8859-3", "iso_8859-3:1988", "l3", "latin3"]),
    (.table "iso-8859-4", ["csisolatin4", "iso-8859-4", "iso-ir-110", "iso8859-4", "iso88594",
      "iso_8859-4", "iso_8859-4:1988", "l4", "latin4"]),
    (.table "iso-8859-5", ["csisolatincyrillic", "cyrillic", "iso-8859-5", "iso-ir-144",
      "iso8859-5", "iso88595", "iso_8859-5", "iso_8859-5:1988"]),
    (.table "iso-8859-6", ["arabic", "asmo-708", "csiso88596e", "csiso88596i", "csisolatinarabic",
      "ecma-114", "iso-8859-6", "iso-8859-6-e", "iso-8859-6-i", "iso-ir-127", "iso8859-6",
      "iso88596", "iso_8859-6", "iso_8859-6:1987"]),
    (.table "iso-8859-7", ["csisolatingreek", "ecma-118", "elot_928", "greek", "greek8",
      "iso-8859-7", "iso-ir-126", "iso8859-7", "iso88597", "iso_8859-7", "iso_8859-7:1987",
      "sun_eu_greek"]),
    (.table "iso-8859-8", ["csiso88598e", "csisolatinhebrew", "hebrew", "iso-8859-8",
      "iso-8859-8-e", "iso-ir-138", "iso8859-8", "iso88598", "iso_8859-8", "iso_8859-8:1988",
      "visual"]),
    (.table "iso-8859-8-i", ["csiso88598i", "iso-8859-8-i", "logical"]),
    (.table "iso-8859-10", ["csisolatin6", "iso-8859-10", "iso-ir-157", "iso8859-10", "iso885910",
      "l6", "latin6"]),
    (.table "iso-8859-13", ["iso-8859-13", "iso8859-13", "iso885913"]),
    (.table "iso-8859-14", ["iso-8859-14", "iso8859-14", "iso885914"]),
    (.table "iso-8859-15", ["csisolatin9", "iso-8859-15", "iso8859-15", "iso885915",
      "iso_8859-15", "l9"]),
    (.table "iso-8859-16", ["iso-8859-16"]),
    (.table "koi8-r", ["cskoi8r", "koi", "koi8", "koi8-r", "koi8_r"]),
    (.table "koi8-u", ["koi8-ru", "koi8-u"]),
    (.table "macintosh", ["csmacintosh", "mac", "macintosh", "x-mac-roman"]),
    (.table "windows-874", ["dos-874", "iso-8859-11", "iso8859-11", "iso885911", "tis-620",
      "windows-874"]),
    (.table "windows-1250", ["cp1250", "windows-1250", "x-cp1250"]),
    (.table "windows-1251", ["cp1251", "windows-1251", "x-cp1251"]),
    (.table "windows-1253", ["cp1253", "windows-1253", "x-cp1253"]),
    (.table "windows-1254", ["cp1254", "csisolatin5", "iso-8859-9", "iso-ir-148", "iso8859-9",
      "iso88599", "iso_8859-9", "iso_8859-9:1989", "l5", "latin5", "windows-1254", "x-cp1254"]),
    (.table "windows-1255", ["cp1255", "windows-1255", "x-cp1255"]),
    (.table "windows-1256", ["cp1256", "windows-1256", "x-cp1256"]),
    (.table "windows-1257", ["cp1257", "windows-1257", "x-cp1257"]),
    (.table "windows-1258", ["cp1258", "windows-1258", "x-cp1258"]),
    (.table "x-mac-cyrillic", ["x-mac-cyrillic", "x-mac-ukrainian"]),
    (.table "gbk", ["chinese", "csgb2312", "csiso58gb231280", "gb2312", "gb_2312", "gb_2312-80",
      "gbk", "iso-ir-58", "x-gbk"]),
    (.table "gb18030", ["gb18030"]),
    (.table "big5", ["big5", "big5-hkscs", "cn-big5", "csbig5", "x-x-big5"]),
    (.table "euc-jp", ["cseucpkdfmtjapanese", "euc-jp", "x-euc-jp"]),
    (.table "iso-2022-jp", ["csiso2022jp", "iso-2022-jp"]),
    (.table "shift_jis", ["csshiftjis", "ms932", "ms_kanji", "shift-jis", "shift_jis", "sjis",
      "windows-31j", "x-sjis"]),
    (.table "euc-kr", ["cseuckr", "csksc56011987", "euc-kr", "iso-ir-149", "korean",
      "ks_c_5601-1987", "ks_c_5601-1989", "ksc5601", "ksc_5601", "windows-949"]),
    (.table "replacement", ["csiso2022kr", "hz-gb-2312", "iso-2022-cn", "iso-2022-cn-ext",
      "iso-2022-kr", "replacement"]),
    (.table "x-user-defined", ["x-user-defined"])]

def isLabelBlank (c : Char) : Bool := "\t\n\x0c\r ".toList.contains c

def plainLabel (label : List Char) : String :=
  let front := label.dropWhile isLabelBlank
  .ofList ((front.reverse.dropWhile isLabelBlank).reverse.map lowerChar)

def ofLabel? (label : List Char) : Option Charset :=
  (labels.find? fun known => known.2.contains (plainLabel label)).map (·.1)

def decodeAs (tables : Tables) (charset : Charset) (bytes : List UInt8) : List Char :=
  match charset with
  | .utf8 => decodeUtf8 bytes
  | .utf16le => decodeUtf16From littleEndian none bytes
  | .utf16be => decodeUtf16From bigEndian none bytes
  | .windows1252 => bytes.map windows1252Char
  | .table name => tables name bytes

def decode (tables : Tables) (charset : Charset) (bytes : List UInt8) : List Char :=
  match bytes with
  | 0xEF :: 0xBB :: 0xBF :: rest => decodeAs tables .utf8 rest
  | 0xFF :: 0xFE :: rest => decodeAs tables .utf16le rest
  | 0xFE :: 0xFF :: rest => decodeAs tables .utf16be rest
  | bytes => charset.decodeAs tables bytes

end Charset

end ServiceDiscovery.Http
