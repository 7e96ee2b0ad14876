import Subgen.Lib.JsonRoundTrip

/-!
# Numbers with leading zeros

Numbers that are written with as many digits, the first ones zeros, are in the order of their texts
(`padded_lt`). So file names with such numbers can be sorted as texts.

The width is any number of digits. A number that needs more digits than that is not cut, and the order is
that of the numbers only for those that fit, which is what the lemma asks for.
-/

namespace Subgen.Json

theorem natOf_append (ds es : Text) : natOf (ds ++ es) = natOf ds * 10 ^ es.length + natOf es := by
  have hfold : ∀ (es : Text) (n : ℕ), es.foldl (fun n d => 10 * n + (d - 48)) n =
      n * 10 ^ es.length + es.foldl (fun n d => 10 * n + (d - 48)) 0 := by
    intro es
    induction es with
    | nil => simp
    | cons e es ih =>
      intro n
      rw [List.foldl_cons, List.foldl_cons, ih, ih (10 * 0 + (e - 48)), List.length_cons]
      ring
  rw [natOf, List.foldl_append, hfold]
  rfl

theorem natOf_cons (c : ℕ) (ds : Text) : natOf (c :: ds) = (c - 48) * 10 ^ ds.length + natOf ds := by
  have h := natOf_append [c] ds
  rwa [show natOf [c] = c - 48 from by simp [natOf]] at h

theorem natOf_lt {ds : Text} (h : ∀ c ∈ ds, isDigit c = true) : natOf ds < 10 ^ ds.length := by
  induction ds with
  | nil => simp [natOf]
  | cons c ds ih =>
    obtain ⟨hc, hds⟩ := List.forall_mem_cons.1 h
    have hdigit : c - 48 ≤ 9 := by
      simp only [isDigit, decide_eq_true_eq] at hc
      omega
    have := ih hds
    have hmul := Nat.mul_le_mul_right (10 ^ ds.length) hdigit
    rw [natOf_cons, List.length_cons, pow_succ]
    omega

/-- Of as many digits, the text of the smaller number is the smaller one, whatever follows. -/
theorem lt_of_natOf_lt {a b : Text} (ha : ∀ c ∈ a, isDigit c = true) (hb : ∀ c ∈ b, isDigit c = true)
    (hlength : a.length = b.length) (h : natOf a < natOf b) (s t : Text) : a ++ s < b ++ t := by
  induction a generalizing b with
  | nil =>
    obtain rfl := List.length_eq_zero_iff.1 hlength.symm
    exact absurd h (lt_irrefl _)
  | cons c a ih =>
    cases b with
    | nil => cases hlength
    | cons d b =>
      obtain ⟨hc, ha⟩ := List.forall_mem_cons.1 ha
      obtain ⟨hd, hb'⟩ := List.forall_mem_cons.1 hb
      have hlength' : a.length = b.length := Nat.succ.inj hlength
      rw [natOf_cons, natOf_cons, hlength'] at h
      rw [List.cons_append, List.cons_append, List.cons_lt_cons_iff]
      have hbound := natOf_lt hb'
      simp only [isDigit, decide_eq_true_eq] at hc hd
      rcases lt_trichotomy c d with hlt | rfl | hgt
      · exact .inl hlt
      · exact .inr ⟨rfl, ih ha hb' hlength' (by omega)⟩
      · have hmul := Nat.mul_le_mul_right (10 ^ b.length) (show d - 48 + 1 ≤ c - 48 by omega)
        rw [Nat.add_mul, one_mul] at hmul
        omega

/-- With this many digits, if they are enough. -/
def padded (width n : ℕ) : Text := List.replicate (width - (printNat n).length) 48 ++ printNat n

theorem isDigit_padded {width n : ℕ} : ∀ c ∈ padded width n, isDigit c = true := by
  intro c hc
  rcases List.mem_append.1 hc with hc | hc
  · rw [(List.mem_replicate.1 hc).2]
    decide
  · exact isDigit_printNat n c hc

theorem natOf_padded (width n : ℕ) : natOf (padded width n) = n := by
  have hzeros : ∀ k, natOf (List.replicate k 48) = 0 := by
    intro k
    induction k with
    | zero => rfl
    | succ k ih => rw [List.replicate_succ, natOf_cons, ih, Nat.sub_self, zero_mul]
  rw [padded, natOf_append, hzeros, natOf_printNat, zero_mul, zero_add]

theorem length_padded {width n : ℕ} (hn : n < 10 ^ width) (hwidth : 0 < width) : (padded width n).length = width := by
  have hprint : (printNat n).length ≤ width := length_printNat_le hwidth hn
  rw [padded, List.length_append, List.length_replicate]
  omega

theorem padded_lt {width m n : ℕ} (hwidth : 0 < width) (hn : n < 10 ^ width) (h : m < n) (s t : Text) :
    padded width m ++ s < padded width n ++ t := by
  refine lt_of_natOf_lt isDigit_padded isDigit_padded ?_ ?_ s t
  · rw [length_padded (h.trans hn) hwidth, length_padded hn hwidth]
  · rwa [natOf_padded, natOf_padded]

end Subgen.Json
