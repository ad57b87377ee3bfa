import Mathlib.Data.List.Sort

/-!
# Canonical JSON texts

A document of integers, strings, arrays and objects is written without blanks, with sorted keys
and with every string normalized. The normalization of Unicode is a parameter.
-/
namespace AlphaTrade.Library

/-- A document. An object is the list of its entries. -/
inductive Json where
  | int (n : Int)
  | str (s : String)
  | list (items : List Json)
  | dict (entries : List (String × Json))

/-! ## Strings -/

def hexByte (n : Nat) : String :=
  String.ofList (('0' :: Nat.toDigits 16 n).drop ((Nat.toDigits 16 n).length - 1))

/-- A character inside a JSON string, where non-ASCII characters are kept. -/
def jsonChar (c : Char) : String :=
  match c.toNat with
  | 0x22 => "\\\""
  | 0x5c => "\\\\"
  | 0x0a => "\\n"
  | 0x0d => "\\r"
  | 0x09 => "\\t"
  | 0x08 => "\\b"
  | 0x0c => "\\f"
  | n => if n < 0x20 then "\\u00" ++ hexByte n else c.toString

/-- `json.dumps(value, ensure_ascii=False)` of a string. -/
def dumpString (s : String) : String := "\"" ++ String.join (s.toList.map jsonChar) ++ "\""

/-! ## Documents -/

def joinWith (separator : String) : List String → String
  | [] => ""
  | [text] => text
  | text :: texts => text ++ separator ++ joinWith separator texts

def sortEntries (entries : List (String × String)) : List (String × String) :=
  entries.insertionSort fun left right => left.1 ≤ right.1

mutual

/-- `json.dumps(value, ensure_ascii=False, separators=(",", ":"), sort_keys=True)`. -/
def Json.dumps : Json → String
  | .int n => toString n
  | .str s => dumpString s
  | .list items => "[" ++ joinWith "," (dumpsItems items) ++ "]"
  | .dict entries =>
    "\x7b" ++ joinWith "," ((sortEntries (dumpsEntries entries)).map fun entry =>
      dumpString entry.1 ++ ":" ++ entry.2) ++ "\x7d"

def dumpsItems : List Json → List String
  | [] => []
  | item :: items => item.dumps :: dumpsItems items

def dumpsEntries : List (String × Json) → List (String × String)
  | [] => []
  | (key, value) :: entries => (key, value.dumps) :: dumpsEntries entries

end

mutual

/-- `_canonicalize`: keys and strings are normalized. -/
def Json.canonicalize (nfc : String → String) : Json → Json
  | .int n => .int n
  | .str s => .str (nfc s)
  | .list items => .list (canonicalizeItems nfc items)
  | .dict entries => .dict (canonicalizeEntries nfc entries)

def canonicalizeItems (nfc : String → String) : List Json → List Json
  | [] => []
  | item :: items => item.canonicalize nfc :: canonicalizeItems nfc items

def canonicalizeEntries (nfc : String → String) : List (String × Json) → List (String × Json)
  | [] => []
  | (key, value) :: entries =>
    (nfc key, value.canonicalize nfc) :: canonicalizeEntries nfc entries

end

/-- `canonical_json_bytes`, as a text. -/
def canonicalJson (nfc : String → String) (value : Json) : String := (value.canonicalize nfc).dumps

end AlphaTrade.Library
