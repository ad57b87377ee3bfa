import AlphaTrade.Library.PyValue

/-!
# Readings in UTC

The reading of an instant in UTC, by the calendar arithmetic of `datetime.fromordinal`, and the
comparison of readings, which has no value between an aware and a naive one.
-/
namespace AlphaTrade.Library.PyDateTime

/-- `_ord2ymd`. -/
def civil (ordinal : Nat) : Nat × Nat × Nat :=
  let n := ordinal - 1
  let n400 := n / 146097
  let n := n % 146097
  let n100 := n / 36524
  let n := n % 36524
  let n4 := n / 1461
  let n := n % 1461
  let n1 := n / 365
  let n := n % 365
  let year := n400 * 400 + 1 + n100 * 100 + n4 * 4 + n1
  if n1 = 4 ∨ n100 = 4 then (year - 1, 12, 31)
  else
    let month := ((List.range' 1 12).filter fun month => daysBeforeMonth year month ≤ n).length
    (year, month, n - daysBeforeMonth year month + 1)

def ofInstant (instant : Int) : PyDateTime :=
  let (year, month, day) := civil (instant / 86400000000).toNat
  let micros := (instant % 86400000000).toNat
  { year := year, month := month, day := day
    hour := micros / 3600000000
    minute := micros / 60000000 % 60
    second := micros / 1000000 % 60
    microsecond := micros % 1000000
    utcOffset := some 0 }

/-- Some leap day is read back. -/
example : ofInstant (instant ⟨2024, 2, 29, 23, 59, 58, 7, some 0⟩) =
    ⟨2024, 2, 29, 23, 59, 58, 7, some 0⟩ := by decide

/-- `value.astimezone(UTC)` of an aware reading, as an instant: years have four digits. -/
def astimezoneUtc (value : PyDateTime) : Option Int :=
  let instant := value.instant
  if 86400000000 ≤ instant ∧ instant < 3652060 * 86400000000 then some instant else none

/-! ## Comparisons -/

/-- What a comparison reads of a `datetime`. -/
inductive Moment where
  | aware (instant : Int)
  | naive (wall : Int)
  deriving DecidableEq, Repr

/-- `value.tzinfo is not None`. -/
def IsAware (value : PyDateTime) : Prop := value.utcOffset.isSome

instance (value : PyDateTime) : Decidable value.IsAware :=
  inferInstanceAs (Decidable (value.utcOffset.isSome = true))

def moment (value : PyDateTime) : Moment :=
  if value.IsAware then .aware value.instant else .naive value.instant

variable {value : PyDateTime}

theorem moment_of_aware (aware : value.IsAware) :
    value.moment = .aware value.instant := if_pos aware

theorem moment_of_naive (naive : ¬value.IsAware) :
    value.moment = .naive value.instant := if_neg naive

/-- `left <= right`, which raises `TypeError` between an aware and a naive reading. -/
def Moment.le : Moment → Moment → Option Bool
  | .aware left, .aware right => some (left ≤ right)
  | .naive left, .naive right => some (left ≤ right)
  | _, _ => none

end AlphaTrade.Library.PyDateTime
