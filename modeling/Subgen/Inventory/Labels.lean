import Subgen.Lib.PosixPath
import Subgen.Lib.Utf8
import Subgen.Value

/-!
# Labels and paths

What the inventory calls a library (`safeLabel`, `uniqueLibraryLabel`), and by what it knows the path
of an item (`pathKey`). A path or a name is any object; `none` is one whose `str` raises.

A label is one line without control characters, cut to eighty characters, and unique among the labels that
are in use: a number is put behind it until it is. The key of a path is a hash of the normalized path, so that
two spellings of one path are one item.
-/

namespace Subgen

/-- `MAX_LABEL_LENGTH`. -/
def maxLabelLength : ℕ := 80

/-- `_safe_label`: one line without control characters, and not too long. -/
def safeLabel (value : Option Text) (fallback : Text) : Text :=
  let spaced := (value.getD fallback).map fun c => if c < 32 ∨ c = 127 then 32 else c
  let cleaned := stripText ([32].intercalate (words spaced))
  let label := if cleaned = [] then fallback else cleaned
  if maxLabelLength < label.length then label.take (maxLabelLength - 1) ++ text "…" else label

/-- The label of a library whose own name is unsafe. -/
def fallbackLabel : Text := text "Library"

/-- The label with a number. -/
def numberedLabel (base : Text) (n : ℕ) : Text :=
  let suffix := text " (" ++ Json.printNat n ++ text ")"
  safeLabel (some (base.take (max 1 (maxLabelLength - suffix.length)) ++ suffix)) fallbackLabel

/-- The loop of `_unique_library_label`, for a number of rounds. -/
def uniqueLabelFrom (base : Text) (used : List Text) : ℕ → ℕ → Text → Text
  | 0, _, candidate => candidate
  | rounds + 1, n, candidate =>
    if candidate ∈ used then uniqueLabelFrom base used rounds (n + 1) (numberedLabel base n)
    else candidate

/-- `_unique_library_label`. Different numbers make different labels, so that there are no more
    rounds than labels. -/
def uniqueLibraryLabel (base : Text) (used : List Text) : Text :=
  uniqueLabelFrom base used used.length 2 (safeLabel (some base) fallbackLabel)

/-- `_normalized_path`. -/
def normalizedPath (path : Option Text) : Option Text :=
  match path with
  | none => none
  | some t =>
    let stripped := (stripText t).map fun c => if c = 92 then 47 else c
    if stripped = [] ∨ 0 ∈ stripped then none
    else
      let normalized := PosixPath.normpath stripped
      if normalized = [] ∨ normalized = PosixPath.dot then none else some normalized

/-- A digest. -/
abbrev ItemKey := List ℕ

/-- `_path_key`. A surrogate is encoded like any other code point. -/
def pathKey (sha256 : List ℕ → ItemKey) (path : Option Text) : Option ItemKey :=
  (normalizedPath path).map fun normalized => sha256 (normalized.flatMap utf8Char)

example : numberedLabel (text "Films") 2 = text "Films (2)" := by decide

end Subgen
