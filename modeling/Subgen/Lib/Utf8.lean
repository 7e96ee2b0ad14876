import Subgen.Lib.Json

/-!
# UTF-8

The codec of Python, strict: a surrogate is not encoded, and bytes that are no shortest form, that
stand for a surrogate or for nothing are not decoded.

A code point is a number, and a text a list of them. The decoder is the table of first bytes (`utf8Lead`):
how many bytes follow one of them, and within which bounds the second one has to be. The bounds are what
keeps long forms, surrogates and numbers that are too large out.

* `decodeUtf8_encode`: what is encoded is decoded again;
* `encode_decodeUtf8`: what is decoded is encoded as the same bytes.
-/

namespace Subgen

/-- A surrogate, which UTF-8 has no bytes for. -/
def isSurrogate (c : ℕ) : Bool := 0xd800 ≤ c ∧ c ≤ 0xdfff

/-- The bytes of a code point. -/
def utf8Char (c : ℕ) : List ℕ :=
  if c < 0x80 then [c]
  else if c < 0x800 then [0xc0 + c / 0x40, 0x80 + c % 0x40]
  else if c < 0x10000 then [0xe0 + c / 0x1000, 0x80 + c / 0x40 % 0x40, 0x80 + c % 0x40]
  else [0xf0 + c / 0x40000, 0x80 + c / 0x1000 % 0x40, 0x80 + c / 0x40 % 0x40, 0x80 + c % 0x40]

/-- What a first byte announces: how many bytes follow, the range of the next one, and the bits of
    its own. -/
structure Utf8Lead where
  need : ℕ
  low : ℕ
  high : ℕ
  bits : ℕ

/-- What the first byte of a character says of the bytes behind it. -/
def utf8Lead (b : ℕ) : Option Utf8Lead :=
  if b < 0x80 then some ⟨0, 0, 0, b⟩
  else if 0xc2 ≤ b ∧ b ≤ 0xdf then some ⟨1, 0x80, 0xbf, b - 0xc0⟩
  else if 0xe0 ≤ b ∧ b ≤ 0xef then
    some ⟨2, if b = 0xe0 then 0xa0 else 0x80, if b = 0xed then 0x9f else 0xbf, b - 0xe0⟩
  else if 0xf0 ≤ b ∧ b ≤ 0xf4 then
    some ⟨3, if b = 0xf0 then 0x90 else 0x80, if b = 0xf4 then 0x8f else 0xbf, b - 0xf0⟩
  else none

/-- The code points of some bytes. If `need` is not zero, so many bytes belong to a code point that
    has begun, and the first of them is in the range. -/
def decodeFrom : ℕ → ℕ → ℕ → ℕ → List ℕ → Option Text
  | 0, _, _, _, [] => some []
  | _ + 1, _, _, _, [] => none
  | 0, _, _, _, b :: bytes =>
    match utf8Lead b with
    | none => none
    | some lead =>
      if lead.need = 0 then (decodeFrom 0 0 0 0 bytes).map (b :: ·)
      else decodeFrom lead.need lead.low lead.high lead.bits bytes
  | need + 1, low, high, bits, b :: bytes =>
    if low ≤ b ∧ b ≤ high then
      if need = 0 then (decodeFrom 0 0 0 0 bytes).map ((bits * 0x40 + (b - 0x80)) :: ·)
      else decodeFrom need 0x80 0xbf (bits * 0x40 + (b - 0x80)) bytes
    else none

/-- `decode("utf-8")`. -/
def decodeUtf8 (bytes : List ℕ) : Option Text := decodeFrom 0 0 0 0 bytes

example : decodeUtf8 [0xe2, 0x82, 0xac, 0x41] = some [0x20ac, 0x41] := by decide

variable {c : ℕ} {bytes : List ℕ}

/-- A byte that begins a code point. -/
theorem decodeUtf8_cons_eq (b : ℕ) (bytes : List ℕ) : decodeUtf8 (b :: bytes) =
    (utf8Lead b).bind fun lead =>
      if lead.need = 0 then (decodeUtf8 bytes).map (b :: ·)
      else decodeFrom lead.need lead.low lead.high lead.bits bytes := by
  change (match utf8Lead b with | none => none | some lead => _) = _
  cases utf8Lead b <;> rfl

/-- A byte that does not. -/
theorem decodeFrom_succ_cons (need low high bits b : ℕ) (bytes : List ℕ) :
    decodeFrom (need + 1) low high bits (b :: bytes) =
      if low ≤ b ∧ b ≤ high then
        if need = 0 then (decodeUtf8 bytes).map ((bits * 0x40 + (b - 0x80)) :: ·)
        else decodeFrom need 0x80 0xbf (bits * 0x40 + (b - 0x80)) bytes
      else none := rfl

theorem decodeUtf8_lead {b : ℕ} {lead : Utf8Lead} (h : utf8Lead b = some lead) (hneed : lead.need ≠ 0) :
    decodeUtf8 (b :: bytes) = decodeFrom lead.need lead.low lead.high lead.bits bytes := by
  rw [decodeUtf8_cons_eq, h]
  exact if_neg hneed

theorem decodeFrom_last {low high bits b : ℕ} (h : low ≤ b ∧ b ≤ high) (hc : bits * 0x40 + (b - 0x80) = c) :
    decodeFrom 1 low high bits (b :: bytes) = (decodeUtf8 bytes).map (c :: ·) := by
  rw [decodeFrom_succ_cons, if_pos h, if_pos rfl, hc]

theorem decodeFrom_next {need low high bits b : ℕ} (h : low ≤ b ∧ b ≤ high) :
    decodeFrom (need + 2) low high bits (b :: bytes) =
      decodeFrom (need + 1) 0x80 0xbf (bits * 0x40 + (b - 0x80)) bytes := by
  rw [decodeFrom_succ_cons, if_pos h, if_neg (Nat.succ_ne_zero _)]

/-- One code point is decoded. -/
theorem decodeUtf8_utf8Char (hc : c < 0x110000) (hsurrogate : isSurrogate c = false) :
    decodeUtf8 (utf8Char c ++ bytes) = (decodeUtf8 bytes).map (c :: ·) := by
  have hs : c < 0xd800 ∨ 0xdfff < c := by
    by_contra h
    simp only [isSurrogate, decide_eq_false_iff_not] at hsurrogate
    omega
  rw [utf8Char]
  split
  · next h =>
    have hlead : utf8Lead c = some ⟨0, 0, 0, c⟩ := if_pos h
    rw [List.singleton_append, decodeUtf8_cons_eq, hlead]
    rfl
  · next h₁ =>
    split
    · have hlead : utf8Lead (0xc0 + c / 0x40) = some ⟨1, 0x80, 0xbf, c / 0x40⟩ := by
        rw [utf8Lead, if_neg (by omega), if_pos (by omega), Nat.add_sub_cancel_left]
      rw [List.cons_append, List.singleton_append, decodeUtf8_lead hlead (by simp)]
      dsimp only
      rw [decodeFrom_last (c := c) (by omega) (by omega)]
    · next h₂ =>
      split
      · have hlead : utf8Lead (0xe0 + c / 0x1000) =
            some ⟨2, if 0xe0 + c / 0x1000 = 0xe0 then 0xa0 else 0x80,
              if 0xe0 + c / 0x1000 = 0xed then 0x9f else 0xbf, c / 0x1000⟩ := by
          rw [utf8Lead, if_neg (by omega), if_neg (by omega), if_pos (by omega), Nat.add_sub_cancel_left]
        rw [List.cons_append, List.cons_append, List.singleton_append, decodeUtf8_lead hlead (by simp)]
        dsimp only
        rw [decodeFrom_next (by split <;> split <;> omega), decodeFrom_last (c := c) (by omega) (by omega)]
      · have hlead : utf8Lead (0xf0 + c / 0x40000) =
            some ⟨3, if 0xf0 + c / 0x40000 = 0xf0 then 0x90 else 0x80,
              if 0xf0 + c / 0x40000 = 0xf4 then 0x8f else 0xbf, c / 0x40000⟩ := by
          rw [utf8Lead, if_neg (by omega), if_neg (by omega), if_neg (by omega), if_pos (by omega),
            Nat.add_sub_cancel_left]
        rw [List.cons_append, List.cons_append, List.cons_append, List.singleton_append,
          decodeUtf8_lead hlead (by simp)]
        dsimp only
        rw [decodeFrom_next (by split <;> split <;> omega), decodeFrom_next (by omega),
          decodeFrom_last (c := c) (by omega) (by omega)]

/-- A text of code points that are no surrogates. -/
def Encodable (t : Text) : Prop := ∀ c ∈ t, c < 0x110000 ∧ isSurrogate c = false

/-- What is encoded is decoded again. -/
theorem decodeUtf8_encode {t : Text} (h : Encodable t) : decodeUtf8 (t.flatMap utf8Char) = some t := by
  induction t with
  | nil => rfl
  | cons c t ih =>
    obtain ⟨hc, hsurrogate⟩ := h c List.mem_cons_self
    rw [List.flatMap_cons, decodeUtf8_utf8Char hc hsurrogate,
      ih fun d hd => h d (List.mem_cons_of_mem _ hd)]
    rfl

/-- ASCII stands for itself. -/
theorem decodeUtf8_ascii {t : Text} (h : ∀ c ∈ t, c < 0x80) : decodeUtf8 t = some t := by
  induction t with
  | nil => rfl
  | cons c t ih =>
    obtain ⟨hc, ht⟩ := List.forall_mem_cons.1 h
    have hchar : utf8Char c = [c] := if_pos hc
    have hsurrogate : isSurrogate c = false := by
      rw [isSurrogate, decide_eq_false_iff_not]
      omega
    have hdecode : decodeUtf8 (utf8Char c ++ t) = (decodeUtf8 t).map (c :: ·) :=
      decodeUtf8_utf8Char (by omega) hsurrogate
    rw [hchar, List.singleton_append, ih ht] at hdecode
    exact hdecode

/-- The bytes that a code point still needs. -/
theorem decodeFrom_succ {need low high bits : ℕ} {t : Text} (h : decodeFrom (need + 1) low high bits bytes = some t) :
    ∃ b rest, bytes = b :: rest ∧ low ≤ b ∧ b ≤ high ∧
      (if need = 0 then ∃ t', t = (bits * 0x40 + (b - 0x80)) :: t' ∧ decodeUtf8 rest = some t'
      else decodeFrom need 0x80 0xbf (bits * 0x40 + (b - 0x80)) rest = some t) := by
  rcases bytes with _ | ⟨b, rest⟩
  · cases h
  · rw [decodeFrom_succ_cons] at h
    split at h
    · next hrange =>
      refine ⟨b, rest, rfl, hrange.1, hrange.2, ?_⟩
      split at h
      · next hneed =>
        obtain ⟨t', ht', rfl⟩ := Option.map_eq_some_iff.1 h
        rw [if_pos hneed]
        exact ⟨t', rfl, ht'⟩
      · next hneed => rwa [if_neg hneed]
    · cases h

/-- The first code point that is decoded. -/
theorem decodeUtf8_cons {b : ℕ} {t : Text} (h : decodeUtf8 (b :: bytes) = some t) :
    ∃ c rest t', t = c :: t' ∧ b :: bytes = utf8Char c ++ rest ∧ decodeUtf8 rest = some t' := by
  rw [decodeUtf8_cons_eq, utf8Lead] at h
  by_cases h₁ : b < 0x80
  · rw [if_pos h₁] at h
    obtain ⟨t', ht', rfl⟩ := Option.map_eq_some_iff.1 h
    exact ⟨b, bytes, t', rfl, by rw [utf8Char, if_pos h₁, List.singleton_append], ht'⟩
  rw [if_neg h₁] at h
  by_cases h₂ : 0xc2 ≤ b ∧ b ≤ 0xdf
  · rw [if_pos h₂] at h
    obtain ⟨b₁, rest, rfl, hlow, hhigh, t', rfl, ht'⟩ := decodeFrom_succ h
    dsimp only at hlow hhigh
    refine ⟨(b - 0xc0) * 0x40 + (b₁ - 0x80), rest, t', rfl, ?_, ht'⟩
    -- The digits of the code point in base 64 are the bytes that were read.
    generalize hc : (b - 0xc0) * 0x40 + (b₁ - 0x80) = c
    have hb : 0xc0 + c / 0x40 = b := by omega
    have hb₁ : 0x80 + c % 0x40 = b₁ := by omega
    rw [utf8Char, if_neg (by omega), if_pos (by omega), hb, hb₁]
    rfl
  rw [if_neg h₂] at h
  by_cases h₃ : 0xe0 ≤ b ∧ b ≤ 0xef
  · rw [if_pos h₃] at h
    obtain ⟨b₁, _, rfl, hlow, hhigh, h⟩ := decodeFrom_succ h
    obtain ⟨b₂, rest, rfl, hlow₂, hhigh₂, t', rfl, ht'⟩ := decodeFrom_succ h
    dsimp only at hlow hhigh
    -- The bound on the second byte rules out a form that is too long.
    have hlow' : 0x80 ≤ b₁ ∧ (b = 0xe0 → 0xa0 ≤ b₁) := by split at hlow <;> omega
    have hhigh' : b₁ ≤ 0xbf := by split at hhigh <;> omega
    refine ⟨((b - 0xe0) * 0x40 + (b₁ - 0x80)) * 0x40 + (b₂ - 0x80), rest, t', rfl, ?_, ht'⟩
    generalize hc : ((b - 0xe0) * 0x40 + (b₁ - 0x80)) * 0x40 + (b₂ - 0x80) = c
    have hb : 0xe0 + c / 0x1000 = b := by omega
    have hb₁ : 0x80 + c / 0x40 % 0x40 = b₁ := by omega
    have hb₂ : 0x80 + c % 0x40 = b₂ := by omega
    rw [utf8Char, if_neg (by omega), if_neg (by omega), if_pos (by omega), hb, hb₁, hb₂]
    rfl
  rw [if_neg h₃] at h
  by_cases h₄ : 0xf0 ≤ b ∧ b ≤ 0xf4
  · rw [if_pos h₄] at h
    obtain ⟨b₁, _, rfl, hlow, hhigh, h⟩ := decodeFrom_succ h
    obtain ⟨b₂, _, rfl, hlow₂, hhigh₂, h⟩ := decodeFrom_succ h
    obtain ⟨b₃, rest, rfl, hlow₃, hhigh₃, t', rfl, ht'⟩ := decodeFrom_succ h
    dsimp only at hlow hhigh
    -- As before: the second byte is bounded below behind the least leading byte.
    have hlow' : 0x80 ≤ b₁ ∧ (b = 0xf0 → 0x90 ≤ b₁) := by split at hlow <;> omega
    have hhigh' : b₁ ≤ 0xbf := by split at hhigh <;> omega
    refine ⟨(((b - 0xf0) * 0x40 + (b₁ - 0x80)) * 0x40 + (b₂ - 0x80)) * 0x40 + (b₃ - 0x80), rest, t', rfl, ?_, ht'⟩
    generalize hc : (((b - 0xf0) * 0x40 + (b₁ - 0x80)) * 0x40 + (b₂ - 0x80)) * 0x40 + (b₃ - 0x80) = c
    have hb : 0xf0 + c / 0x40000 = b := by omega
    have hb₁ : 0x80 + c / 0x1000 % 0x40 = b₁ := by omega
    have hb₂ : 0x80 + c / 0x40 % 0x40 = b₂ := by omega
    have hb₃ : 0x80 + c % 0x40 = b₃ := by omega
    rw [utf8Char, if_neg (by omega), if_neg (by omega), if_neg (by omega), hb, hb₁, hb₂, hb₃]
    rfl
  · rw [if_neg h₄] at h
    cases h

/-- What is decoded is encoded as the same bytes. -/
theorem encode_decodeUtf8 {t : Text} (h : decodeUtf8 bytes = some t) : t.flatMap utf8Char = bytes := by
  induction t generalizing bytes with
  | nil =>
    rcases bytes with _ | ⟨b, bytes⟩
    · rfl
    · obtain ⟨c, rest, t', ht, -⟩ := decodeUtf8_cons h
      cases ht
  | cons c t ih =>
    rcases bytes with _ | ⟨b, bytes⟩
    · cases h
    · obtain ⟨c', rest, t', ht, hbytes, hrest⟩ := decodeUtf8_cons h
      obtain ⟨rfl, rfl⟩ := List.cons.inj ht
      rw [List.flatMap_cons, ih hrest, hbytes]

end Subgen
