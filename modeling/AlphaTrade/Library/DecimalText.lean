import AlphaTrade.Library.PyValue

/-!
# Reading decimals

`Decimal(text)`: blanks around the number and underscores in it do not count, and the digits of any
script do.
-/
namespace AlphaTrade.Library

def digitZeros : List Nat :=
  [0x30, 0x660, 0x6f0, 0x7c0, 0x966, 0x9e6, 0xa66, 0xae6, 0xb66, 0xbe6, 0xc66, 0xce6, 0xd66, 0xde6,
    0xe50, 0xed0, 0xf20, 0x1040, 0x1090, 0x17e0, 0x1810, 0x1946, 0x19d0, 0x1a80, 0x1a90, 0x1b50,
    0x1bb0, 0x1c40, 0x1c50, 0xa620, 0xa8d0, 0xa900, 0xa9d0, 0xa9f0, 0xaa50, 0xabf0, 0xff10, 0x104a0,
    0x10d30, 0x11066, 0x110f0, 0x11136, 0x111d0, 0x112f0, 0x11450, 0x114d0, 0x11650, 0x116c0,
    0x11730, 0x118e0, 0x11950, 0x11c50, 0x11d50, 0x11da0, 0x11f50, 0x16a60, 0x16ac0, 0x16b50,
    0x1d7ce, 0x1d7d8, 0x1d7e2, 0x1d7ec, 0x1d7f6, 0x1e140, 0x1e2f0, 0x1e4f0, 0x1e950, 0x1fbf0]

def digitValue (c : Char) : Option Nat :=
  (digitZeros.find? fun nought => nought ≤ c.toNat ∧ c.toNat < nought + 10).map (c.toNat - ·)

def leadingDigits : List Char → List Nat × List Char
  | [] => ([], [])
  | c :: rest =>
    match digitValue c with
    | some digit => (digit :: (leadingDigits rest).1, (leadingDigits rest).2)
    | none => ([], c :: rest)

def ofDigits (digits : List Nat) : Nat := digits.foldl (fun n digit => 10 * n + digit) 0

def leadingSign : List Char → Bool × List Char
  | '-' :: rest => (true, rest)
  | '+' :: rest => (false, rest)
  | rest => (false, rest)

def readExponent : List Char → Option Int
  | [] => some 0
  | c :: rest =>
    let digits := leadingDigits (leadingSign rest).2
    if (c ≠ 'e' ∧ c ≠ 'E') ∨ digits.1 = [] ∨ digits.2 ≠ [] then none
    else if (leadingSign rest).1 then some (-ofDigits digits.1) else some (ofDigits digits.1)

namespace PyDecimal

def special (negative : Bool) (text : List Char) : Option PyDecimal :=
  let lowered := text.map Char.toLower
  let nan := lowered.take 3 = "nan".toList ∧ (leadingDigits (lowered.drop 3)).2 = []
  let signaling := lowered.take 4 = "snan".toList ∧ (leadingDigits (lowered.drop 4)).2 = []
  if lowered = "inf".toList ∨ lowered = "infinity".toList then some (infinite negative)
  else if nan ∨ signaling then some .nan
  else none

/-- `Decimal(text)`, or `none` where that is an `InvalidOperation`. -/
def ofText (text : String) : Option PyDecimal :=
  let (negative, number) := leadingSign ((strip text).toList.filter (· ≠ '_'))
  let (whole, rest) := leadingDigits number
  let (fraction, rest) := match rest with
    | '.' :: rest => leadingDigits rest
    | rest => ([], rest)
  if whole = [] ∧ fraction = [] then special negative number
  else (readExponent rest).map fun exponent =>
    .finite negative (ofDigits (whole ++ fraction)) (exponent - fraction.length)

example : ofText " -1_0.50e-3" = some (.finite true 1050 (-5)) := by decide

end PyDecimal

end AlphaTrade.Library
