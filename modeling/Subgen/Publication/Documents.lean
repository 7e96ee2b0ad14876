import Mathlib.Data.Rat.Defs
import Subgen.Lib.Procedure
import Subgen.Lib.Utf8

/-!
# The documents of the publication journal

`canonical_json_bytes` and `_strict_json_object`, and the equality of the values that they give. A
payload is refused (`LoadError.isBlocked`) by a `PublicationBlocked` with a code, or by one with any of
the three codes of a text that is no JSON object of distinct keys.

What the interpreter brings along is a parameter: how floats are read and what their values are, and
for which texts `json.loads` or `json.dumps` raises something else, because an integer has too many
digits or the nesting is too deep.
-/

namespace Subgen

/-- What the Python interpreter brings along: its floats, and the texts `json.loads` runs out of recursion
    on. -/
structure Interpreter where
  floats : FloatReader
  floatValue : Text → ℚ
  refuses : Text → Bool

/-- What reads `1.0`, and nothing else, reads it as itself. -/
theorem reads_one : (if text "1.0" = text "1.0" then some (text "1.0") else none) = some (text "1.0") :=
  if_pos rfl

/-- `PublicationBlocked`, or another exception. -/
inductive LoadError
  | blocked (code : String)
  | unreadable (label : String)
  | uncaught
  deriving DecidableEq

/-- Whether it is a `PublicationBlocked`. -/
def LoadError.isBlocked : LoadError → Bool
  | blocked _ | unreadable _ => true
  | uncaught => false

/-- `canonical_json_bytes`. -/
def canonicalJsonBytes (v : Json) : Except LoadError Text :=
  match v.dumps with
  | some t => .ok (t ++ [10])
  | none => .error (.blocked "noncanonical_json")

namespace Interpreter

variable (I : Interpreter)

/-- `_strict_json_object`. -/
def strictJsonObject (label : String) (payload : List ℕ) : Except LoadError (List (Text × Json)) :=
  if payload = [] ∨ [0xef, 0xbb, 0xbf] <+: payload ∨ 13 ∈ payload then
    .error (.blocked (label ++ "_encoding"))
  else
    match decodeUtf8 payload with
    | none => .error (.unreadable label)
    | some t =>
      if I.refuses t then .error .uncaught
      else
        match Json.loads I.floats t with
        | none => .error (.unreadable label)
        | some (.object items) => .ok items
        | some _ => .error (.blocked (label ++ "_not_object"))

/-- A strict object whose canonical form is the payload itself. -/
def canonicalObject (label : String) (payload : List ℕ) : Except LoadError (List (Text × Json)) := do
  let items ← I.strictJsonObject label payload
  let canonical ← canonicalJsonBytes (.object items)
  if canonical = payload then return items else throw (.blocked (label ++ "_not_canonical"))

/-- The value of a number. -/
def number : Json → Option ℚ
  | .bool b => some (if b then 1 else 0)
  | .int n => some n
  | .float (some repr) => some (I.floatValue repr)
  | _ => none

mutual

/-- `==`. Booleans are numbers, and an object does not depend on the order of its keys. -/
def same : Json → Json → Bool
  | .null, .null => true
  | .str s, .str s' => s = s'
  | .array vs, .array vs' => sameElements vs vs'
  | .object items, .object items' => items.length = items'.length && sameMembers items items'
  | v, v' =>
    match I.number v, I.number v' with
    | some x, some x' => x = x'
    | _, _ => false

/-- Two arrays are equal element by element. -/
def sameElements : List Json → List Json → Bool
  | [], [] => true
  | v :: vs, v' :: vs' => same v v' && sameElements vs vs'
  | _, _ => false

/-- Two objects are equal key by key. -/
def sameMembers : List (Text × Json) → List (Text × Json) → Bool
  | [], _ => true
  | (k, v) :: items, items' =>
    (match items'.lookup k with
      | some v' => same v v'
      | none => false) && sameMembers items items'

end

end Interpreter

end Subgen
