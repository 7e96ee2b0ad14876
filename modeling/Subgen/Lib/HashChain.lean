import Mathlib.Data.List.Basic
import Mathlib.Data.List.Induction

/-!
# Hash chains

A list of records, oldest first, each of which names the digest of the one before it. The first names
none. What is known of the newest record is known of all of them: two chains that end in one record are the
same chain (`Linked.unique`).

The digest is any function, and the records are of any type. That no two records of the chains have the same
digest is a premise, and the only one.
-/

namespace Subgen

variable {α δ : Type*} {digest : α → δ} {previous : α → Option δ}

/-- The digest of the newest record. -/
def lastDigest (digest : α → δ) (l : List α) : Option δ := l.getLast?.map digest

/-- Each record names the digest of the one before it. -/
inductive Linked (digest : α → δ) (previous : α → Option δ) : List α → Prop
  | nil : Linked digest previous []
  | snoc {l : List α} {a : α} (h : Linked digest previous l) (hlast : previous a = lastDigest digest l) :
    Linked digest previous (l ++ [a])

@[simp] theorem lastDigest_nil : lastDigest digest [] = none := rfl

@[simp] theorem lastDigest_append (l : List α) (a : α) : lastDigest digest (l ++ [a]) = some (digest a) := by
  simp [lastDigest]

/-- Two chains whose newest records have the same digest are the same chain, if no two of their records
    have the same digest. -/
theorem Linked.unique {l l' : List α} (h : Linked digest previous l) (h' : Linked digest previous l')
    (hinj : ∀ a ∈ l, ∀ b ∈ l', digest a = digest b → a = b)
    (hlast : lastDigest digest l = lastDigest digest l') : l = l' := by
  -- The newest records are equal, so they name the same digest, which is that of the records before.
  induction h generalizing l' with
  | nil =>
    cases h' with
    | nil => rfl
    | snoc => simp at hlast
  | @snoc l a h hprevious ih =>
    cases h' with
    | nil => simp at hlast
    | @snoc l' b h' hprevious' =>
      rw [lastDigest_append, lastDigest_append, Option.some_inj] at hlast
      obtain rfl : a = b := hinj a (by simp) b (by simp) hlast
      have hl : l = l' := ih h' (fun a ha b hb => hinj a (by simp [ha]) b (by simp [hb]))
        (hprevious.symm.trans hprevious')
      rw [hl]

end Subgen
