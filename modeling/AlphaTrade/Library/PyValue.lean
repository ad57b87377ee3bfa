import Mathlib.Data.Rat.Defs
import Mathlib.Algebra.Order.Field.Rat

/-!
# Python decimals, datetimes and blank strings

A `Decimal` keeps its coefficient and exponent, so one number has many
representations and `str` tells them apart; `toRat` is the number itself. Where
no representation is read, `DecimalValue` is enough. A `datetime` is its
wall-clock reading with an optional UTC offset.
-/
namespace AlphaTrade.Library

/-- `decimal.Decimal`. -/
inductive PyDecimal where
  | finite (negative : Bool) (coefficient : Nat) (exponent : Int)
  | infinite (negative : Bool)
  | nan
  deriving DecidableEq, Repr

namespace PyDecimal

def isFinite : PyDecimal → Bool
  | .finite .. => true
  | _ => false

def toRat : PyDecimal → ℚ
  | .finite negative coefficient exponent =>
    let magnitude : ℚ := match exponent with
      | .ofNat n => coefficient * 10 ^ n
      | .negSucc n => coefficient / 10 ^ (n + 1)
    if negative then -magnitude else magnitude
  | _ => 0

/-- `"%+d" % n`. -/
def signedText (n : Int) : String := if n < 0 then toString n else "+" ++ toString n

/-- `str(value)`: plain notation down to six leading zeros, else scientific. -/
def str : PyDecimal → String
  | .nan => "NaN"
  | .infinite negative => (if negative then "-" else "") ++ "Infinity"
  | .finite negative coefficient exponent =>
    let digits := Nat.toDigits 10 coefficient
    let leftDigits : Int := exponent + digits.length
    let dotPlace : Int := if exponent ≤ 0 ∧ leftDigits > -6 then leftDigits else 1
    let mantissa : List Char :=
      if dotPlace ≤ 0 then '0' :: '.' :: (List.replicate (-dotPlace).toNat '0' ++ digits)
      else if dotPlace ≥ digits.length then
        digits ++ List.replicate (dotPlace - digits.length).toNat '0'
      else digits.take dotPlace.toNat ++ '.' :: digits.drop dotPlace.toNat
    let scale := if leftDigits = dotPlace then "" else "E" ++ signedText (leftDigits - dotPlace)
    (if negative then "-" else "") ++ String.ofList mantissa ++ scale

end PyDecimal

/-- What a decimal denotes. A comparison or a difference that has no value raises
`InvalidOperation`, which is `none` here. -/
inductive DecimalValue where
  | finite (x : ℚ)
  | infinite (negative : Bool)
  | nan
  deriving DecidableEq, Repr

namespace DecimalValue

def isFinite : DecimalValue → Bool
  | .finite _ => true
  | _ => false

def toRat : DecimalValue → ℚ
  | .finite x => x
  | _ => 0

/-- `value > 0`. -/
def isPositive : DecimalValue → Option Bool
  | .finite x => some (0 < x)
  | .infinite negative => some !negative
  | .nan => none

/-- `left - right`. -/
def sub : DecimalValue → DecimalValue → Option DecimalValue
  | .finite x, .finite y => some (.finite (x - y))
  | .nan, _ => some .nan
  | _, .nan => some .nan
  | .infinite p, .finite _ => some (.infinite p)
  | .finite _, .infinite q => some (.infinite !q)
  | .infinite p, .infinite q => if p = q then none else some (.infinite p)

end DecimalValue

/-- `value.quantize` to a number of decimal places, ties going to the even digit. -/
def quantizeHalfEven (places : Nat) (x : ℚ) : ℚ :=
  let scaled := x * 10 ^ places
  let below := scaled.floor
  let rest := scaled - below
  let digits :=
    if rest < 1 / 2 then below else if 1 / 2 < rest then below + 1
    else if below % 2 = 0 then below else below + 1
  digits / 10 ^ places

/-- `datetime.datetime`, with the UTC offset in seconds when it is aware. -/
structure PyDateTime where
  year : Nat
  month : Nat
  day : Nat
  hour : Nat
  minute : Nat
  second : Nat
  microsecond : Nat
  utcOffset : Option Int
  deriving DecidableEq, Repr

namespace PyDateTime

def padded (width n : Nat) : String :=
  let digits := Nat.toDigits 10 n
  String.ofList (List.replicate (width - digits.length) '0' ++ digits)

def offsetText (offset : Int) : String :=
  let seconds := offset.natAbs
  let rest := if seconds % 60 = 0 then "" else ":" ++ padded 2 (seconds % 60)
  (if offset < 0 then "-" else "+") ++ padded 2 (seconds / 3600) ++ ":" ++
    padded 2 (seconds / 60 % 60) ++ rest

/-- `value.isoformat()`. -/
def isoformat (t : PyDateTime) : String :=
  padded 4 t.year ++ "-" ++ padded 2 t.month ++ "-" ++ padded 2 t.day ++ "T" ++
    padded 2 t.hour ++ ":" ++ padded 2 t.minute ++ ":" ++ padded 2 t.second ++
    (if t.microsecond = 0 then "" else "." ++ padded 6 t.microsecond) ++
    (t.utcOffset.elim "" offsetText)

def isLeap (year : Nat) : Bool := year % 4 == 0 && (year % 100 != 0 || year % 400 == 0)

def daysBeforeMonth (year month : Nat) : Nat :=
  [0, 31, 59, 90, 120, 151, 181, 212, 243, 273, 304, 334].getD (month - 1) 0 +
    if 2 < month ∧ isLeap year then 1 else 0

/-- `value.toordinal()`, in the proleptic Gregorian calendar. -/
def toordinal (t : PyDateTime) : Nat :=
  let y := t.year - 1
  y * 365 + y / 4 - y / 100 + y / 400 + daysBeforeMonth t.year t.month + t.day

def instant (t : PyDateTime) : Int :=
  ((t.toordinal * 86400 + t.hour * 3600 + t.minute * 60 + t.second : Nat) -
    t.utcOffset.getD 0) * 1000000 + t.microsecond

def aware (t : PyDateTime) : PyDateTime :=
  { t with utcOffset := some (t.utcOffset.getD 0) }

end PyDateTime

/-- `str.isspace` on one character. -/
def isSpace (c : Char) : Bool :=
  let n := c.toNat
  (9 ≤ n && n ≤ 13) || (28 ≤ n && n ≤ 32) || n == 0x85 || n == 0xa0 || n == 0x1680 ||
    (0x2000 ≤ n && n ≤ 0x200a) || n == 0x2028 || n == 0x2029 || n == 0x202f || n == 0x205f ||
    n == 0x3000

/-- `value.strip()`. -/
def strip (s : String) : String :=
  String.ofList ((s.toList.dropWhile isSpace).reverse.dropWhile isSpace).reverse

/-- `not value.strip()`. -/
def isBlank (s : String) : Bool := s.toList.all isSpace

end AlphaTrade.Library
