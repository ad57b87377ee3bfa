/-!
# JSON values in Python

What `json` hands over: scalars, arrays and objects. Python's conversions and its equality
are parameters, with the few laws that hold of them on plain integers and flags.
-/
namespace AlphaTrade.Library

/-- Floats, arrays and nested objects are known by their text. -/
inductive PyJson where
  | none
  | bool (b : Bool)
  | int (n : Int)
  | float (text : String)
  | str (s : String)
  | list (text : String)
  | dict (text : String)
  deriving DecidableEq, Repr

/-- `type(left) is type(right)`. -/
def PyJson.sameType : PyJson → PyJson → Bool
  | .none, .none | .bool _, .bool _ | .int _, .int _ | .float _, .float _ | .str _, .str _
  | .list _, .list _ | .dict _, .dict _ => true
  | _, _ => false

inductive PyRaised where
  | keyError | typeError | valueError | overflowError | indexError
  deriving DecidableEq, Repr

/-- `int`, `str` and `==`. -/
structure PyBuiltins where
  int : PyJson → Except PyRaised Int
  str : PyJson → String
  eq : PyJson → PyJson → Bool
  int_int : ∀ n, int (.int n) = .ok n
  eq_bool : ∀ b, eq (.bool b) (.bool b) = true

/-- An object with its keys. -/
abbrev PyDict := List (String × PyJson)

namespace PyDict

/-- `value[key]`. -/
def item (dict : PyDict) (key : String) : Except PyRaised PyJson :=
  match dict.lookup key with
  | some value => .ok value
  | none => .error .keyError

/-- `value.get(key)`. -/
def get (dict : PyDict) (key : String) : PyJson := (dict.lookup key).getD .none

end PyDict

/-- A response body: an array of objects and other values, or something else. -/
inductive PyPayload where
  | list (items : List (Option PyDict))
  | other

end AlphaTrade.Library
