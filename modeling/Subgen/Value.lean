import Subgen.Lib.Json
import Subgen.Lib.Rounding

/-!
# Python values and exceptions

What the modelled functions see of the values handed to them from outside: a
`Value` is one of the built-in kinds they tell apart, or an object with its
attributes and what its `to_dict` gives. Numbers are rationals, and the operations
on them exact unless another `Rounding` is opened; a float that is not finite has
no value. An exception (`Exc`) keeps its class, as far
as a handler looks at it, and its message.
-/

namespace Subgen

/-- The operation during which a worker could not allocate memory. -/
inductive AllocationPhase
  | load
  | transcribe
  deriving DecidableEq, Repr

/-- An exception: the classes that the source raises, and `foreign` for one that
    comes out of a callback, which is an `Exception` or only a `BaseException`. -/
inductive Exc
  | segmentationError (message : String)
  | nonMonotonicResult (message : String)
  | valueError (message : String)
  | typeError (message : String)
  | runtimeError (message : String)
  | attributeError (message : String)
  | memoryPressureYield (message : String)
  | cohortCancelled (message : String)
  | cancelledError
  | workerAllocationFailure (phase : AllocationPhase) (worker : Option String)
      (attemptedSeconds : Option ℚ)
  | cohortReleaseError (message : String)
  | cohortLoadError (message : String)
  | mediaProcessReleaseUnconfirmed
  | timeoutError (message : String)
  | keyError
  | indexError (message : String)
  | segmentJournalError (message : String)
  | segmentJournalCommitError (message : String)
  | segmentJournalPoisonedError (message : String)
  | foreign (name : String) (isException : Bool)
  deriving DecidableEq, Repr

/-- Whether `except Exception` catches it. -/
def Exc.isException : Exc → Bool
  | foreign _ b => b
  | _ => true

/-- Whether `except MemoryPressureYield` catches it. -/
def Exc.isMemoryPressureYield : Exc → Bool
  | memoryPressureYield _ => true
  | _ => false

/-- A Python value, as far as the source looks at it. A mapping is the list of its
    items in insertion order; lists and tuples are the same here; `object` is any
    other object, with the outcome of its `to_dict` if it has one. -/
inductive Value
  | none
  | bool (b : Bool)
  | int (n : ℤ)
  | float (q : ℚ)
  | nonFinite
  | str (s : String)
  | list (items : List Value)
  | dict (items : List (String × Value))
  | object (attributes : List (String × Value)) (toDict : Option (Except Exc Value))

/-- The items of a mapping with text keys. -/
abbrev Dict := List (String × Value)

/-- `mapping.get(name)`. -/
def Dict.get (items : Dict) (name : String) : Value := (items.lookup name).getD .none

/-- `_finite_number` on a value from outside: an integer is rounded to a float, and a float
    is a number of the machine already. -/
def finiteNumber [Rounding] (value : Value) (label : String) : Except Exc ℚ :=
  match value with
  | .int n => .ok (rounded n)
  | .float q => .ok q
  | _ => .error (.segmentationError s!"{label} must be a finite number")

/-- `str.isspace` for one character. -/
def isSpace (c : Char) : Bool :=
  let n := c.toNat
  (9 ≤ n && n ≤ 13) || (28 ≤ n && n ≤ 32) || n = 0x85 || n = 0xa0 || n = 0x1680 ||
    (0x2000 ≤ n && n ≤ 0x200a) || n = 0x2028 || n = 0x2029 || n = 0x202f || n = 0x205f ||
    n = 0x3000

/-- `str.strip()`. -/
def strip (s : String) : String :=
  String.ofList ((s.toList.dropWhile isSpace).reverse.dropWhile isSpace).reverse

/-! The same of a text, by its code points. -/

/-- `str.isspace`, of one character. -/
def isWhitespace (c : ℕ) : Bool := isSpace (Char.ofNat c)

/-- `t.split()`. -/
def words (t : Text) : List Text := (t.splitOnP isWhitespace).filter (· ≠ [])

/-- `t.strip()`. -/
def stripText (t : Text) : Text :=
  ((t.dropWhile isWhitespace).reverse.dropWhile isWhitespace).reverse

end Subgen
