import Subgen.Lib.Json

/-!
# JSON that is written is read back

The writer is that of `json.dumps`, with a layout as its parameter: compact, with spaces, or indented. The
reader is that of `json.loads`. A value is read back as it was but for one thing: two surrogates that follow
each other in a string are read as the character that they stand for (`norm`). Floats are not written here,
as their texts depend on the interpreter.

The proof goes along the tokens. For a string it is an induction on its characters, with the escapes of each
kind (`scanString_writeChar`); for a number the digits are read until one that is none, so that what follows a
number must not begin with a character of a number (`Follows`). A value is read by recursion with fuel, and
each value has fuel enough if there is as much as there are characters.

* `readText_write`: of a value in any layout. Only two surrogates that follow each other in a string are
  read as the character that they stand for (`norm`);
* `loads_print`: of a value in which nothing has to be escaped;
* `le_of_mem_print`, `length_print_object_le`: what is written is printable, and how long it is.
-/

namespace Subgen

namespace Json

variable {F : FloatReader} {R : Reader} {L : Layout} {s t : Text}

/-! ## Strings -/

/-- The surrogates of a character that needs two of them. -/
def utf16 (c : ℕ) : Text :=
  if c < 0x10000 then [c]
  else [0xd800 + (c - 0x10000) / 0x400 % 0x400, 0xdc00 + (c - 0x10000) % 0x400]

/-- The code points that are read of a character. -/
def Layout.units (L : Layout) (c : ℕ) : Text :=
  if L.ascii = false ∧ 127 ≤ c then [c] else utf16 c

-- The equations of the scanners.
attribute [local simp] scanString joinSurrogates scanInteger

/-- A hexadecimal digit is read back. -/
theorem hexDigit_digit {d : ℕ} (hd : d < 16) : hexDigit (printUnicode.digit d) = some d := by
  rw [printUnicode.digit, hexDigit]
  split_ifs <;> first | omega | simp

/-- Four of them are. -/
theorem unicodeEscape_printUnicode {c : ℕ} (hc : c < 0x10000) :
    unicodeEscape (printUnicode.digit (c / 4096 % 16)) (printUnicode.digit (c / 256 % 16))
      (printUnicode.digit (c / 16 % 16)) (printUnicode.digit (c % 16)) = some c := by
  simp only [unicodeEscape, hexDigit_digit (Nat.mod_lt _ (by decide : 0 < 16)), Option.bind_eq_bind,
    Option.bind_some, Option.some.injEq]
  omega

/-- A character that stands for itself. -/
theorem scanString_cons {c : ℕ} (hc : 32 ≤ c ∧ c ≠ 34 ∧ c ≠ 92) :
    scanString (c :: t) = (scanString t).map fun (s, t) => (c :: s, t) := by
  have hchar : ¬ (c < 32 ∨ c = 92) := by omega
  rw [scanString]
  · rw [if_neg hchar]
    cases scanString t <;> rfl
  · exact hc.2.1
  · exact fun _ _ _ _ _ h _ => hc.2.2 h
  · exact fun _ _ h _ => hc.2.2 h

/-- So is the escape of a character. -/
theorem scanString_printUnicode {c : ℕ} (hc : c < 0x10000) :
    scanString (printUnicode c ++ t) = (scanString t).map fun (s, t) => (c :: s, t) := by
  rw [printUnicode]
  simp only [List.cons_append, List.nil_append, scanString, unicodeEscape_printUnicode hc]
  cases scanString t <;> rfl

/-- A character is read back, a large one as its two surrogates. -/
theorem scanString_printChar {c : ℕ} (hc : c < 0x110000) :
    scanString (printChar c ++ t) = (scanString t).map fun (s, t) => (utf16 c ++ s, t) := by
  rw [printChar]
  split
  · next e he =>
    have hshort : c = 34 ∧ e = 34 ∨ c = 92 ∧ e = 92 ∨ c = 10 ∧ e = 110 ∨ c = 13 ∧ e = 114 ∨
        c = 9 ∧ e = 116 ∨ c = 12 ∧ e = 102 ∨ c = 8 ∧ e = 98 := by
      obtain ⟨l, l', hl, -⟩ := List.lookup_eq_some_iff.1 he
      have hmem : (c, e) ∈ l ++ (c, e) :: l' := List.mem_append_right _ List.mem_cons_self
      rw [← hl] at hmem
      simpa using hmem
    rcases hshort with ⟨rfl, rfl⟩ | ⟨rfl, rfl⟩ | ⟨rfl, rfl⟩ | ⟨rfl, rfl⟩ | ⟨rfl, rfl⟩ | ⟨rfl, rfl⟩ | ⟨rfl, rfl⟩ <;>
      simp only [List.cons_append, List.nil_append, scanString, shortEscape] <;>
      cases scanString t <;> rfl
  · next hnone =>
    rw [List.lookup_eq_none_iff] at hnone
    have hother : c ≠ 34 ∧ c ≠ 92 := by
      constructor <;> rintro rfl <;> simp at hnone
    split_ifs with hprintable hbmp
    · rw [utf16, if_pos (by omega)]
      exact scanString_cons ⟨hprintable.1, hother⟩
    · rw [utf16, if_pos hbmp]
      exact scanString_printUnicode hbmp
    · rw [utf16, if_neg hbmp, List.append_assoc, scanString_printUnicode (by omega),
        scanString_printUnicode (by omega)]
      cases scanString t <;> rfl

/-- The same in every layout. -/
theorem scanString_writeChar {c : ℕ} (hc : c < 0x110000) :
    scanString (L.writeChar c ++ t) = (scanString t).map fun (s, t) => (L.units c ++ s, t) := by
  rw [Layout.writeChar, Layout.units]
  split_ifs with hraw
  · exact scanString_cons (by omega)
  · exact scanString_printChar hc

/-- The code points of a string are code points. -/
def CodePoints (s : Text) : Prop := ∀ c ∈ s, c < 0x110000

/-- A string is read back, as the code points that it was written with. -/
theorem scanString_writeString (hs : CodePoints s) :
    scanString (s.flatMap L.writeChar ++ 34 :: t) = some (s.flatMap L.units, t) := by
  induction s with
  | nil => simp
  | cons c s ih =>
    obtain ⟨hc, hs⟩ := List.forall_mem_cons.1 hs
    rw [List.flatMap_cons, List.append_assoc, scanString_writeChar hc, ih hs]
    rfl

/-- A code point that does not begin a pair stays. -/
theorem joinSurrogates_cons {c : ℕ} (hc : ∀ d ∈ t.head?, ¬ (0xd800 ≤ c ∧ c ≤ 0xdbff ∧ 0xdc00 ≤ d ∧ d ≤ 0xdfff)) :
    joinSurrogates (c :: t) = c :: joinSurrogates t := by
  cases t with
  | nil => rfl
  | cons d t => rw [joinSurrogates, if_neg (hc d rfl)]

/-- What is read of the pair of a character. -/
theorem joinSurrogates_utf16 {c : ℕ} (hc : c < 0x110000) (hpair : 0x10000 ≤ c) :
    joinSurrogates (utf16 c ++ t) = c :: joinSurrogates t := by
  rw [utf16, if_neg (by omega), List.cons_append, List.cons_append, joinSurrogates, if_pos (by omega)]
  refine List.cons_eq_cons.2 ⟨?_, rfl⟩
  omega

/-- The surrogates of the large characters are joined again. -/
theorem joinSurrogates_units (hs : CodePoints s) :
    joinSurrogates (s.flatMap L.units) = joinSurrogates s := by
  have hunits : ∀ c, L.units c = [c] ∨ (0x10000 ≤ c ∧ L.units c = utf16 c) := by
    intro c
    rw [Layout.units, utf16]
    split_ifs <;> simp; omega
  -- By the pairs of the string; what stands behind a code point begins with it, or with a high one.
  induction s using joinSurrogates.induct with
  | case1 => rfl
  | case2 c =>
    obtain ⟨hc, -⟩ := List.forall_mem_cons.1 hs
    rcases hunits c with h | ⟨hpair, h⟩
    · simp [h]
    · rw [List.flatMap_singleton, h, ← List.append_nil (utf16 c)]
      exact joinSurrogates_utf16 hc hpair
  | case3 high low s hpair ih =>
    obtain ⟨hc, hd, hs⟩ : high < 0x110000 ∧ low < 0x110000 ∧ CodePoints s := by simpa [CodePoints] using hs
    have hhigh : L.units high = [high] := (hunits high).resolve_right (by omega)
    have hlow : L.units low = [low] := (hunits low).resolve_right (by omega)
    rw [List.flatMap_cons, List.flatMap_cons, hhigh, hlow]
    simp only [List.cons_append, List.nil_append]
    rw [joinSurrogates, if_pos hpair, joinSurrogates, if_pos hpair, ih hs]
  | case4 high low s hpair ih =>
    obtain ⟨hc, hs⟩ := List.forall_mem_cons.1 hs
    obtain ⟨hd, -⟩ := List.forall_mem_cons.1 hs
    rw [List.flatMap_cons, joinSurrogates_cons (c := high) (by simpa using hpair), ← ih hs]
    rcases hunits high with h | ⟨hbig, h⟩
    · rw [h, List.singleton_append]
      refine joinSurrogates_cons fun d hd => ?_
      rw [List.flatMap_cons] at hd
      rcases hunits low with h | ⟨hbig, h⟩
      · simp only [h, List.cons_append, List.head?_cons, Option.mem_def, Option.some.injEq] at hd
        omega
      · simp only [h, utf16, if_neg (show ¬ low < 0x10000 by omega), List.cons_append, List.head?_cons,
          Option.mem_def, Option.some.injEq] at hd
        omega
    · rw [h, joinSurrogates_utf16 hc hbig]

/-! ## Numbers -/

/-- What may stand behind a number. -/
def Follows (t : Text) : Prop := ∀ c ∈ t.head?, isDigit c = false ∧ c ≠ 46 ∧ c ≠ 101 ∧ c ≠ 69

/-- Digits end where something else follows. -/
theorem takeWhile_digits {d : Text} (hd : ∀ c ∈ d, isDigit c = true) (ht : Follows t) :
    (d ++ t).takeWhile isDigit = d := by
  rw [List.takeWhile_append_of_pos hd]
  cases t with
  | nil => simp
  | cons c t =>
    rw [List.takeWhile_cons_of_neg (by simp [(ht c rfl).1]), List.append_nil]

/-- What follows on digits is left. -/
theorem dropWhile_digits {d : Text} (hd : ∀ c ∈ d, isDigit c = true) (ht : Follows t) :
    (d ++ t).dropWhile isDigit = t := by
  rw [List.dropWhile_append_of_pos hd]
  cases t with
  | nil => rfl
  | cons c t => rw [List.dropWhile_cons_of_neg (by simp [(ht c rfl).1])]

/-- A number is written in digits. -/
theorem isDigit_printNat (n : ℕ) : ∀ c ∈ printNat n, isDigit c = true := by
  intro c hc
  rw [printNat] at hc
  split at hc
  · simp only [List.mem_singleton] at hc
    subst hc
    rfl
  · simp only [List.mem_map, List.mem_reverse] at hc
    obtain ⟨d, hd, rfl⟩ := hc
    have hlt := Nat.digits_lt_base (by decide : 1 < 10) hd
    simp [isDigit]
    omega

/-- A number is read back from its digits. -/
theorem natOf_printNat (n : ℕ) : natOf (printNat n) = n := by
  rw [printNat]
  split
  · next hzero => rw [hzero]; rfl
  · have hfold : ∀ ds : List ℕ, natOf (ds.reverse.map (· + 48)) = Nat.ofDigits 10 ds := by
      intro ds
      induction ds with
      | nil => rfl
      | cons d ds ih =>
        rw [natOf] at ih ⊢
        rw [List.reverse_cons, List.map_append, List.foldl_append, ih, Nat.ofDigits_cons]
        simp
        ring
    rw [hfold, Nat.ofDigits_digits]

/-- A number other than zero does not begin with one. -/
theorem printNat_cons (n : ℕ) : ∃ c ds, printNat n = c :: ds ∧ (n ≠ 0 → c ≠ 48) := by
  rw [printNat]
  split
  · next hzero => exact ⟨48, [], rfl, fun h => absurd hzero h⟩
  · next hn =>
    have hne : Nat.digits 10 n ≠ [] := Nat.digits_ne_nil_iff_ne_zero.2 hn
    refine ⟨(Nat.digits 10 n).getLast hne + 48, ((Nat.digits 10 n).dropLast).reverse.map (· + 48),
      ?_, fun _ => ?_⟩
    · conv_lhs => rw [← List.dropLast_append_getLast hne]
      simp
    · have hlast := Nat.getLast_digit_ne_zero 10 hn
      omega

/-- Its digits are all taken. -/
theorem scanNatural_printNat (n : ℕ) (ht : Follows t) :
    scanInteger.scanNatural (printNat n ++ t) = some (printNat n, t) := by
  obtain ⟨c, ds, hprint, hhead⟩ := printNat_cons n
  by_cases hn : n = 0
  · subst hn
    rfl
  · have htake := takeWhile_digits (isDigit_printNat n) ht
    have hdrop := dropWhile_digits (isDigit_printNat n) ht
    rw [hprint, List.cons_append] at htake hdrop ⊢
    rw [scanInteger.scanNatural]
    · rw [if_neg (by rw [htake]; simp), htake, hdrop]
    · exact fun _ h => hhead hn (List.cons.inj h).1

/-- Behind a number there is no fraction. -/
theorem scanFraction_follows (ht : Follows t) : scanFraction t = ([], t) := by
  cases t with
  | nil => rfl
  | cons c t =>
    rw [scanFraction]
    exact fun _ h => (ht c rfl).2.1 (List.cons.inj h).1

/-- Behind a number there is no exponent. -/
theorem scanExponent_follows (ht : Follows t) : scanExponent t = ([], t) := by
  match t with
  | [] => rfl
  | [c] => rfl
  | c :: d :: t =>
    rw [scanExponent, if_neg]
    rintro (h | h)
    · exact (ht c rfl).2.2.1 h
    · exact (ht c rfl).2.2.2 h

/-- The sign and the digits of an integer are all taken. -/
theorem scanInteger_printInt (n : ℤ) (ht : Follows t) :
    scanInteger (printInt n ++ t) = some (printInt n, t) := by
  cases n with
  | ofNat n =>
    obtain ⟨c, ds, hprint, _⟩ := printNat_cons n
    have hc : isDigit c = true := isDigit_printNat n c (hprint ▸ List.mem_cons_self)
    have hscan := scanNatural_printNat n ht
    rw [printInt]
    rw [hprint, List.cons_append] at hscan ⊢
    rw [scanInteger]
    · exact hscan
    · rintro _ ⟨rfl, _⟩
      exact absurd hc (by decide)
  | negSucc n =>
    rw [printInt, List.cons_append, scanInteger, scanNatural_printNat _ ht]
    rfl

/-- An integer is read back. -/
theorem intOf_printInt (n : ℤ) : intOf (printInt n) = n := by
  cases n with
  | ofNat n =>
    obtain ⟨c, ds, hprint, _⟩ := printNat_cons n
    have hc : isDigit c = true := isDigit_printNat n c (hprint ▸ List.mem_cons_self)
    have hvalue := natOf_printNat n
    rw [printInt]
    rw [hprint] at hvalue ⊢
    rw [intOf]
    · rw [hvalue]
      rfl
    · rintro _ ⟨rfl, _⟩
      exact absurd hc (by decide)
  | negSucc n =>
    rw [printInt, intOf, natOf_printNat]
    rfl

/-- An integer is scanned as a number. -/
theorem scanNumber_printInt (n : ℤ) (ht : Follows t) :
    scanNumber F (printInt n ++ t) = some (.int n, t) := by
  rw [scanNumber, scanInteger_printInt n ht]
  simp [scanFraction_follows ht, scanExponent_follows ht, intOf_printInt]

/-- The only float that the source writes is scanned as one. -/
theorem scanNumber_one (ht : Follows t) :
    scanNumber F (text "1.0" ++ t) = some (.float (some (text "1.0")), t) := by
  have htake : (48 :: t).takeWhile isDigit = [48] := takeWhile_digits (d := [48]) (by decide) ht
  have hdrop : (48 :: t).dropWhile isDigit = t := dropWhile_digits (d := [48]) (by decide) ht
  have hfraction : scanFraction (46 :: 48 :: t) = ([46, 48], t) := by
    rw [scanFraction, if_neg (by rw [htake]; simp), htake, hdrop]
  have hinteger : scanInteger (49 :: 46 :: 48 :: t) = some ([49], 46 :: 48 :: t) := by
    rfl
  change scanNumber F (49 :: 46 :: 48 :: t) = _
  rw [scanNumber, hinteger]
  simp only [Option.bind_eq_bind, Option.bind_some, hfraction, scanExponent_follows ht]
  rw [if_neg (by simp)]
  exact congrArg (fun r => some (Json.float r, t)) F.read_one

/-! ## Values -/

mutual

/-- A value that can be read: its strings hold code points, its keys are distinct when they are read,
    and there is no float other than `1.0`. -/
def Readable : Json → Prop
  | .float repr => repr = some (text "1.0")
  | .str s => CodePoints s
  | .array items => ReadableElements items
  | .object items => (items.map fun item => joinSurrogates item.1).Nodup ∧ ReadableMembers items
  | _ => True

/-- All of the elements are readable. -/
def ReadableElements : List Json → Prop
  | [] => True
  | v :: vs => v.Readable ∧ ReadableElements vs

/-- All of the members are. -/
def ReadableMembers : List (Text × Json) → Prop
  | [] => True
  | (k, v) :: items => CodePoints k ∧ v.Readable ∧ ReadableMembers items

end

mutual

/-- A value as it is read: two surrogates that follow each other are one code point. -/
def norm : Json → Json
  | .str s => .str (joinSurrogates s)
  | .array items => .array (normElements items)
  | .object items => .object (normMembers items)
  | v => v

/-- The elements as they are read back. -/
def normElements : List Json → List Json
  | [] => []
  | v :: vs => v.norm :: normElements vs

/-- The members as they are read back. -/
def normMembers : List (Text × Json) → List (Text × Json)
  | [] => []
  | (k, v) :: items => (joinSurrogates k, v.norm) :: normMembers items

end

/-- Each member is read back for itself. -/
theorem normMembers_eq_map (items : List (Text × Json)) :
    normMembers items = items.map fun item => (joinSurrogates item.1, item.2.norm) := by
  induction items with
  | nil => rfl
  | cons item items ih => rw [normMembers, ih, List.map_cons]

/-- The keys of the members that are read back. -/
theorem map_fst_normMembers (items : List (Text × Json)) :
    (normMembers items).map Prod.fst = items.map fun item => joinSurrogates item.1 := by
  rw [normMembers_eq_map, List.map_map]
  rfl

/-- Each of the elements is readable. -/
theorem readableElements_iff {vs : List Json} : ReadableElements vs ↔ ∀ v ∈ vs, v.Readable := by
  induction vs with
  | nil => simp [ReadableElements]
  | cons v vs ih => rw [ReadableElements, ih, List.forall_mem_cons]

/-- Each of the members is. -/
theorem readableMembers_iff {items : List (Text × Json)} :
    ReadableMembers items ↔ ∀ item ∈ items, CodePoints item.1 ∧ item.2.Readable := by
  induction items with
  | nil => simp [ReadableMembers]
  | cons item items ih => rw [ReadableMembers, ih, List.forall_mem_cons, and_assoc]

/-- Distinct keys stay as they are. -/
theorem lastValues_of_nodup {items : List (Text × Json)} (h : (items.map Prod.fst).Nodup) :
    lastValues items = items := by
  have hfold : ∀ before : List (Text × Json), ((before ++ items).map Prod.fst).Nodup →
      items.foldl lastValues.assign before = before ++ items := by
    clear h
    induction items with
    | nil => simp
    | cons item items ih =>
      intro before hnodup
      have hnew : item.1 ∉ before.map Prod.fst := by
        intro hmem
        rw [List.map_append, List.nodup_append] at hnodup
        exact hnodup.2.2 _ hmem item.1 (by simp) rfl
      rw [List.foldl_cons, lastValues.assign, if_neg hnew, ih _ (by simpa using hnodup), List.append_assoc,
        List.singleton_append]
  simpa [lastValues] using hfold [] h

/-- A character that is no space ends the space. -/
theorem skipSpace_cons {c : ℕ} (hc : isSpace c = false) : skipSpace (c :: t) = c :: t :=
  List.dropWhile_cons_of_neg (by simp [hc])

/-- The line break of a layout is space. -/
theorem skipSpace_newline (level : ℕ) : skipSpace (L.newline level ++ t) = skipSpace t := by
  rw [Layout.newline]
  split
  · rfl
  · next k _ =>
    have hspaces : ∀ c ∈ 10 :: List.replicate (k * level) 32, isSpace c = true := by
      intro c hc
      rcases List.mem_cons.1 hc with rfl | hc
      · rfl
      · rw [List.eq_of_mem_replicate hc]
        rfl
    rw [skipSpace, List.dropWhile_append_of_pos hspaces]
    rfl

/-- A scalar does not begin with the opening of anything else. -/
theorem scanValue_scalar {n c : ℕ} (hc : c ≠ 34 ∧ c ≠ 91 ∧ c ≠ 123) :
    scanValue R (n + 1) (c :: t) = scanScalar R (c :: t) := by
  rw [scanValue]
  · exact fun _ h => hc.1 (List.cons.inj h).1
  · exact fun _ h => hc.2.1 (List.cons.inj h).1
  · exact fun _ h => hc.2.2 (List.cons.inj h).1

/-- A scalar that does not begin with a letter is a number. -/
theorem scanScalar_number {c : ℕ} {r : Json × Text} (hc : c ≤ 57)
    (hr : scanNumber R.toFloatReader (c :: t) = some r) : scanScalar R (c :: t) = some r := by
  have hother : ∀ d u, 57 < d → ¬ (d :: u <+: c :: t) := by
    intro d u hd h
    have heq := (List.cons_prefix_cons.1 h).1
    omega
  have hnull : ¬ text "null" <+: c :: t := hother 110 _ (by decide)
  have htrue : ¬ text "true" <+: c :: t := hother 116 _ (by decide)
  have hfalse : ¬ text "false" <+: c :: t := hother 102 _ (by decide)
  rw [scanScalar, if_neg hnull, if_neg htrue, if_neg hfalse, hr]

/-- An integer is scanned as a value. -/
theorem scanValue_int {n : ℕ} (m : ℤ) (ht : Follows t) :
    scanValue R (n + 1) (printInt m ++ t) = some (.int m, t) := by
  have hnumber := scanNumber_printInt (F := R.toFloatReader) m ht
  have hhead : ∃ c ds, printInt m = c :: ds ∧ c ≤ 57 ∧ c ≠ 34 := by
    cases m with
    | ofNat m =>
      obtain ⟨c, ds, hprint, _⟩ := printNat_cons m
      have hc : isDigit c = true := isDigit_printNat m c (hprint ▸ List.mem_cons_self)
      simp only [isDigit, decide_eq_true_eq] at hc
      exact ⟨c, ds, hprint, hc.2, by omega⟩
    | negSucc m => exact ⟨45, _, rfl, by decide, by decide⟩
  obtain ⟨c, ds, hprint, hle, hne⟩ := hhead
  rw [hprint, List.cons_append] at hnumber ⊢
  rw [scanValue_scalar ⟨hne, by omega, by omega⟩, scanScalar_number hle hnumber]

/-- The first character of a value that is written. -/
theorem write_cons (level : ℕ) {v : Json} (hv : v.Readable) :
    ∃ c ds, v.write L level = c :: ds ∧ isSpace c = false ∧ c ≠ 93 ∧ c ≠ 125 := by
  match v with
  | .null => exact ⟨110, _, rfl, rfl, by decide, by decide⟩
  | .bool true => exact ⟨116, _, rfl, rfl, by decide, by decide⟩
  | .bool false => exact ⟨102, _, rfl, rfl, by decide, by decide⟩
  | .int (.ofNat n) =>
    obtain ⟨c, ds, hprint, _⟩ := printNat_cons n
    have hc : isDigit c = true := isDigit_printNat n c (hprint ▸ List.mem_cons_self)
    simp only [isDigit, decide_eq_true_eq] at hc
    refine ⟨c, ds, hprint, ?_, by omega, by omega⟩
    simp [isSpace]
    omega
  | .int (.negSucc n) => exact ⟨45, _, rfl, rfl, by decide, by decide⟩
  | .float repr =>
    rw [Readable] at hv
    subst hv
    exact ⟨49, _, rfl, rfl, by decide, by decide⟩
  | .str s => exact ⟨34, _, rfl, rfl, by decide, by decide⟩
  | .array [] => exact ⟨91, _, rfl, rfl, by decide, by decide⟩
  | .array (v :: vs) => exact ⟨91, _, rfl, rfl, by decide, by decide⟩
  | .object [] => exact ⟨123, _, rfl, rfl, by decide, by decide⟩
  | .object ((k, v) :: items) => exact ⟨123, _, rfl, rfl, by decide, by decide⟩

/-- A value does not begin with space. -/
theorem skipSpace_write (level : ℕ) {v : Json} (hv : v.Readable) :
    skipSpace (v.write L level ++ t) = v.write L level ++ t := by
  obtain ⟨c, ds, hprint, hspace, _⟩ := write_cons (L := L) level hv
  rw [hprint, List.cons_append]
  exact skipSpace_cons hspace

/-- A value is not written as the empty text. -/
theorem length_write_pos (level : ℕ) {v : Json} (hv : v.Readable) : 0 < (v.write L level).length := by
  obtain ⟨c, ds, hprint, _⟩ := write_cons (L := L) level hv
  simp [hprint]

/-- The rest of an array is not empty either. -/
theorem length_writeElements_pos (level : ℕ) (vs : List Json) : 0 < (writeElements L level vs).length := by
  cases vs <;> simp [writeElements]

/-- Nor is the rest of an object. -/
theorem length_writeMembers_pos (level : ℕ) (items : List (Text × Json)) :
    0 < (writeMembers L level items).length := by
  rcases items with _ | ⟨⟨k, v⟩, items⟩ <;> simp [writeMembers]

/-- A character that is no part of a number may follow on one. -/
theorem follows_cons {c : ℕ} (hc : isDigit c = false ∧ c ≠ 46 ∧ c ≠ 101 ∧ c ≠ 69) : Follows (c :: t) := by
  intro d hd
  cases hd
  exact hc

/-- So may a line break. -/
theorem follows_newline (level : ℕ) (ht : Follows t) : Follows (L.newline level ++ t) := by
  rw [Layout.newline]
  split
  · exact ht
  · exact follows_cons (by decide)

/-- So may the rest of an array. -/
theorem follows_writeElements (level : ℕ) (vs : List Json) : Follows (writeElements L level vs ++ t) := by
  cases vs with
  | nil =>
    rw [writeElements, List.append_assoc]
    exact follows_newline level (follows_cons (by decide))
  | cons v vs => exact follows_cons (by decide)

/-- So may the rest of an object. -/
theorem follows_writeMembers (level : ℕ) (items : List (Text × Json)) :
    Follows (writeMembers L level items ++ t) := by
  rcases items with _ | ⟨⟨k, v⟩, items⟩
  · rw [writeMembers, List.append_assoc]
    exact follows_newline level (follows_cons (by decide))
  · exact follows_cons (by decide)

/-- Behind the colon, the value begins. -/
theorem skipSpace_colon : ∃ u, L.colon = 58 :: u ∧ ∀ t, skipSpace (u ++ t) = skipSpace t := by
  rw [Layout.colon]
  split
  · exact ⟨[32], rfl, fun t => rfl⟩
  · exact ⟨[], rfl, fun t => rfl⟩

mutual

/-- What is written is read back, whatever stands behind it. -/
theorem scanValue_write (level : ℕ) {n : ℕ} {t : Text} (v : Json) (hv : v.Readable) (ht : Follows t)
    (hn : 2 * (v.write L level).length ≤ n) : scanValue R n (v.write L level ++ t) = some (v.norm, t) := by
  have hpos := length_write_pos (L := L) level hv
  obtain ⟨n, rfl⟩ : ∃ m, n = m + 1 := ⟨n - 1, by omega⟩
  match v with
  | .null => rfl
  | .bool true => rfl
  | .bool false => rfl
  | .int m => exact scanValue_int m ht
  | .float repr =>
    rw [Readable] at hv
    subst hv
    exact scanScalar_number (by decide) (scanNumber_one ht)
  | .str s =>
    rw [Readable] at hv
    rw [write, Layout.writeString, List.cons_append, scanValue, List.append_assoc, List.singleton_append,
      scanString_writeString hv, Option.map_some, norm, ← joinSurrogates_units (L := L) hv]
  | .array [] => rfl
  | .array (v :: vs) =>
    obtain ⟨hv, hvs⟩ : v.Readable ∧ ReadableElements vs := hv
    -- A value starts neither with a space nor with the bracket that would close the array.
    obtain ⟨c, ds, hprint, hspace, hclose, _⟩ := write_cons (L := L) (level + 1) hv
    rw [write, List.length_cons, List.length_append, List.length_append] at hn
    -- The fuel is twice the length, and each level takes at most two characters of it.
    have hread := scanElements_write level (t := t) (n := n) v vs hv hvs
      (by rw [List.length_append]; omega)
    rw [write, List.cons_append, scanValue, List.append_assoc, List.append_assoc, skipSpace_newline]
    rw [List.append_assoc] at hread
    rw [hprint, List.cons_append] at hread ⊢
    rw [skipSpace_cons hspace]
    split
    · next h => exact absurd (List.cons.inj h).1 hclose
    · rw [hread]
      rfl
  | .object [] => rfl
  | .object ((k, v) :: items) =>
    rw [Readable, ReadableMembers] at hv
    obtain ⟨hnodup, hk, hv, hitems⟩ := hv
    rw [write, List.length_cons, List.length_append] at hn
    have hread := scanMembers_write level (t := t) (n := n) k v items hk hv hitems (by omega)
    rw [write, List.cons_append, scanValue, List.append_assoc, skipSpace_newline]
    rw [Layout.writeString, List.cons_append, List.cons_append] at hread ⊢
    rw [skipSpace_cons (by rfl)]
    split
    · next h => exact absurd (List.cons.inj h).1 (by decide)
    · rw [hread]
      -- The keys differ, so that none of the members replaces another one.
      have hkeys : (((joinSurrogates k, v.norm) :: normMembers items).map Prod.fst).Nodup := by
        rwa [List.map_cons, map_fst_normMembers]
      simp only [Option.bind_eq_bind, Option.bind_some]
      rw [lastValues_of_nodup hkeys, if_pos hkeys, ite_self, norm, normMembers]

/-- The rest of an array is read back, of which each element is. -/
theorem scanElements_write (level : ℕ) {n : ℕ} {t : Text} (v : Json) (vs : List Json) (hv : v.Readable)
    (hvs : ReadableElements vs) (hn : 2 * (v.write L (level + 1) ++ writeElements L level vs).length ≤ n) :
    scanElements R n (v.write L (level + 1) ++ writeElements L level vs ++ t) =
      some (v.norm :: normElements vs, t) := by
  have hpos := length_write_pos (L := L) (level + 1) hv
  have hpos' := length_writeElements_pos (L := L) level vs
  rw [List.length_append] at hn
  obtain ⟨n, rfl⟩ : ∃ m, n = m + 1 := ⟨n - 1, by omega⟩
  have hread := scanValue_write (level + 1) (t := writeElements L level vs ++ t) (n := n) v hv
    (follows_writeElements level vs) (by omega)
  rw [scanElements, List.append_assoc, hread]
  simp only [Option.bind_eq_bind, Option.bind_some]
  match vs with
  | [] =>
    rw [writeElements, List.append_assoc, skipSpace_newline]
    rfl
  | w :: ws =>
    obtain ⟨hw, hws⟩ : w.Readable ∧ ReadableElements ws := hvs
    rw [writeElements, List.length_cons, List.append_assoc, List.length_append] at hn
    have hrest := scanElements_write level (t := t) (n := n) w ws hw hws (by omega)
    rw [writeElements, List.cons_append, skipSpace_cons (by rfl)]
    simp only []
    rw [List.append_assoc] at hrest
    rw [List.append_assoc, List.append_assoc, skipSpace_newline, skipSpace_write (level + 1) hw, hrest]
    rfl

/-- The rest of an object is read back, of which each member is. -/
theorem scanMembers_write (level : ℕ) {n : ℕ} {t : Text} (k : Text) (v : Json)
    (items : List (Text × Json)) (hk : CodePoints k) (hv : v.Readable) (hitems : ReadableMembers items)
    (hn : 2 * (L.writeString k ++ (L.colon ++ (v.write L (level + 1) ++
      writeMembers L level items))).length ≤ n) :
    scanMembers R n (L.writeString k ++ (L.colon ++ (v.write L (level + 1) ++
        writeMembers L level items)) ++ t) =
      some ((joinSurrogates k, v.norm) :: normMembers items, t) := by
  have hpos := length_write_pos (L := L) (level + 1) hv
  have hpos' := length_writeMembers_pos (L := L) level items
  rw [List.length_append, List.length_append, List.length_append] at hn
  obtain ⟨n, rfl⟩ : ∃ m, n = m + 1 := ⟨n - 1, by omega⟩
  -- The value ends at a comma or at the end of a line, which no value goes on with.
  have hread := scanValue_write (level + 1) (t := writeMembers L level items ++ t) (n := n) v hv
    (follows_writeMembers level items) (by omega)
  obtain ⟨u, hcolon, hskip⟩ := skipSpace_colon (L := L)
  rw [Layout.writeString, List.cons_append, List.cons_append, scanMembers, hcolon]
  simp only [List.append_assoc, List.cons_append, List.nil_append]
  rw [scanString_writeString hk]
  simp only [Option.bind_eq_bind, Option.bind_some, joinSurrogates_units hk]
  rw [skipSpace_cons (by rfl)]
  simp only []
  rw [hskip, skipSpace_write (level + 1) hv, hread]
  simp only [Option.bind_some]
  match items with
  | [] =>
    rw [writeMembers, List.append_assoc, skipSpace_newline]
    rfl
  | (l, w) :: items =>
    obtain ⟨hl, hw, hitems⟩ : CodePoints l ∧ w.Readable ∧ ReadableMembers items := hitems
    rw [writeMembers, List.length_cons, List.length_append] at hn
    have hrest := scanMembers_write level (t := t) (n := n) l w items hl hw hitems (by omega)
    rw [writeMembers, List.cons_append, skipSpace_cons (by rfl)]
    simp only []
    rw [List.append_assoc, skipSpace_newline]
    rw [Layout.writeString, List.cons_append, List.cons_append] at hrest ⊢
    rw [skipSpace_cons (by rfl), hrest]
    rfl

end

/-- A value is read back from its text. -/
theorem readText_write (level : ℕ) {v : Json} (hv : v.Readable) (ht : ∀ c ∈ t, isSpace c = true) :
    readText R (v.write L level ++ t) = some v.norm := by
  have hfollows : Follows t := by
    intro c hc
    have hspace := ht c (List.mem_of_mem_head? hc)
    simp only [isSpace, decide_eq_true_eq] at hspace
    simp only [isDigit, decide_eq_false_iff_not]
    omega
  have hskip : skipSpace t = [] := List.dropWhile_eq_nil_iff.2 ht
  rw [readText, skipSpace_write level hv, scanValue_write level v hv hfollows]
  · simp [hskip]
  · rw [List.length_append]
    omega

/-! ## The layout without anything between the tokens -/

/-- The layout of `print`. -/
def Layout.compact : Layout := ⟨true, none⟩

mutual

/-- In that layout a value is written as `print` does. -/
theorem write_compact (level : ℕ) (v : Json) : v.write .compact level = v.print := by
  match v with
  | .null => rfl
  | .bool true => rfl
  | .bool false => rfl
  | .int n => rfl
  | .float repr => rfl
  | .str s => rfl
  | .array [] => rfl
  | .array (v :: vs) =>
    rw [write, print, write_compact (level + 1) v, writeElements_compact level vs]
    rfl
  | .object [] => rfl
  | .object ((k, v) :: items) =>
    rw [write, print, write_compact (level + 1) v, writeMembers_compact level items]
    rfl

/-- So are the elements. -/
theorem writeElements_compact (level : ℕ) (vs : List Json) :
    writeElements .compact level vs = printElements vs := by
  match vs with
  | [] => rfl
  | v :: vs =>
    rw [writeElements, printElements, write_compact (level + 1) v, writeElements_compact level vs]
    rfl

/-- So are the members. -/
theorem writeMembers_compact (level : ℕ) (items : List (Text × Json)) :
    writeMembers .compact level items = printMembers items := by
  match items with
  | [] => rfl
  | (k, v) :: items =>
    rw [writeMembers, printMembers, write_compact (level + 1) v, writeMembers_compact level items]
    rfl

end

/-- A value that was printed is read back. -/
theorem readText_print {v : Json} (hv : v.Readable) (ht : ∀ c ∈ t, isSpace c = true) :
    readText R (v.print ++ t) = some v.norm := by
  rw [← write_compact 0 v]
  exact readText_write 0 hv ht

/-! ## Values without escapes -/

/-- A string in which nothing has to be escaped. -/
def PlainText (s : Text) : Prop := ∀ c ∈ s, 32 ≤ c ∧ c ≤ 126 ∧ c ≠ 34 ∧ c ≠ 92

/-- A plain character stands for itself. -/
theorem printChar_plain {c : ℕ} (hc : 32 ≤ c ∧ c ≤ 126 ∧ c ≠ 34 ∧ c ≠ 92) : printChar c = [c] := by
  have hnone : [(34, 34), (92, 92), (10, 110), (13, 114), (9, 116), (12, 102), (8, 98)].lookup c =
      (none : Option ℕ) := by
    rw [List.lookup_eq_none_iff]
    simp
    omega
  rw [printChar, hnone]
  simp [hc.1, hc.2.1]

/-- A plain text is written between quotes. -/
theorem printString_plain (hs : PlainText s) : printString s = 34 :: (s ++ [34]) := by
  have hflat : s.flatMap printChar = s := by
    induction s with
    | nil => rfl
    | cons c s ih =>
      obtain ⟨hc, hs⟩ := List.forall_mem_cons.1 hs
      rw [List.flatMap_cons, printChar_plain hc, ih hs]
      rfl
  rw [printString, hflat]

/-- There are no surrogates in a plain text. -/
theorem joinSurrogates_plain (hs : PlainText s) : joinSurrogates s = s := by
  induction s with
  | nil => rfl
  | cons c s ih =>
    obtain ⟨hc, hs⟩ := List.forall_mem_cons.1 hs
    cases s with
    | nil => rfl
    | cons d s => rw [joinSurrogates, if_neg (by omega), ih hs]

mutual

/-- A value that is written without escapes, and without a float other than `1.0`. -/
def Plain : Json → Prop
  | .float repr => repr = some (text "1.0")
  | .str s => PlainText s
  | .array items => PlainElements items
  | .object items => (items.map Prod.fst).Nodup ∧ PlainMembers items
  | _ => True

/-- All of the elements are plain. -/
def PlainElements : List Json → Prop
  | [] => True
  | v :: vs => v.Plain ∧ PlainElements vs

/-- All of the members are. -/
def PlainMembers : List (Text × Json) → Prop
  | [] => True
  | (k, v) :: items => PlainText k ∧ v.Plain ∧ PlainMembers items

end

/-- A plain text has code points. -/
theorem PlainText.codePoints (hs : PlainText s) : CodePoints s := fun c hc => by
  have hle := (hs c hc).2.1
  omega

mutual

/-- A value without escapes is read as it is. -/
theorem Plain.readable (v : Json) (hv : v.Plain) : v.Readable ∧ v.norm = v := by
  match v with
  | .null => exact ⟨trivial, rfl⟩
  | .bool b => exact ⟨trivial, rfl⟩
  | .int n => exact ⟨trivial, rfl⟩
  | .float repr =>
    rw [Plain] at hv
    exact ⟨hv, rfl⟩
  | .str s =>
    rw [Plain] at hv
    exact ⟨hv.codePoints, congrArg Json.str (joinSurrogates_plain hv)⟩
  | .array vs =>
    obtain ⟨hvs, hnorm⟩ := PlainElements.readable vs hv
    exact ⟨hvs, congrArg Json.array hnorm⟩
  | .object items =>
    rw [Plain] at hv
    obtain ⟨hitems, hnorm⟩ := PlainMembers.readable items hv.2
    refine ⟨⟨?_, hitems⟩, congrArg Json.object hnorm⟩
    rw [← map_fst_normMembers, hnorm]
    exact hv.1

/-- Plain elements are read back as themselves. -/
theorem PlainElements.readable (vs : List Json) (hvs : PlainElements vs) :
    ReadableElements vs ∧ normElements vs = vs := by
  match vs with
  | [] => exact ⟨trivial, rfl⟩
  | v :: vs =>
    obtain ⟨hv, hnorm⟩ := Plain.readable v hvs.1
    obtain ⟨hvs, hnorms⟩ := PlainElements.readable vs hvs.2
    exact ⟨⟨hv, hvs⟩, by rw [normElements, hnorm, hnorms]⟩

/-- Plain members are read back as themselves. -/
theorem PlainMembers.readable (items : List (Text × Json)) (hitems : PlainMembers items) :
    ReadableMembers items ∧ normMembers items = items := by
  match items with
  | [] => exact ⟨trivial, rfl⟩
  | (k, v) :: items =>
    obtain ⟨hk, hv, hitems⟩ := hitems
    obtain ⟨hv, hnorm⟩ := Plain.readable v hv
    obtain ⟨hitems, hnorms⟩ := PlainMembers.readable items hitems
    exact ⟨⟨hk.codePoints, hv, hitems⟩, by rw [normMembers, hnorm, hnorms, joinSurrogates_plain hk]⟩

end

/-- A plain value is read back as itself. -/
theorem loads_print {v : Json} (hv : v.Plain) {t : Text} (ht : ∀ c ∈ t, isSpace c = true) :
    loads F (v.print ++ t) = some v := by
  obtain ⟨hreadable, hnorm⟩ := Plain.readable v hv
  rw [loads, readText_print hreadable ht, hnorm]

/-! ## What is written -/

/-- Printable characters of ASCII. -/
def Printable (t : Text) : Prop := ∀ c ∈ t, 32 ≤ c ∧ c ≤ 126

instance : Decidable (Printable t) := inferInstanceAs (Decidable (∀ c ∈ t, 32 ≤ c ∧ c ≤ 126))

/-- One more printable character. -/
theorem printable_cons {c : ℕ} (hc : 32 ≤ c ∧ c ≤ 126) (ht : Printable t) : Printable (c :: t) :=
  List.forall_mem_cons.2 ⟨hc, ht⟩

/-- Two printable texts. -/
theorem Printable.append {u : Text} (ht : Printable t) (hu : Printable u) : Printable (t ++ u) :=
  List.forall_mem_append.2 ⟨ht, hu⟩

/-- An integer is written in printable characters. -/
theorem printable_printInt (n : ℤ) : Printable (printInt n) := by
  have hnat : ∀ m, Printable (printNat m) := by
    intro m c hc
    have hdigit := isDigit_printNat m c hc
    simp only [isDigit, decide_eq_true_eq] at hdigit
    omega
  cases n with
  | ofNat m => exact hnat m
  | negSucc m => exact printable_cons (by decide) (hnat (m + 1))

/-- So is an escape. -/
theorem printable_printUnicode (c : ℕ) : Printable (printUnicode c) := by
  have hdigit : ∀ d, 32 ≤ printUnicode.digit (d % 16) ∧ printUnicode.digit (d % 16) ≤ 126 := by
    intro d
    rw [printUnicode.digit]
    split_ifs <;> omega
  rw [printUnicode]
  refine printable_cons (by decide) (printable_cons (by decide) ?_)
  exact printable_cons (hdigit _) (printable_cons (hdigit _) (printable_cons (hdigit _)
    (printable_cons (hdigit _) nofun)))

/-- So is every character. -/
theorem printable_printChar (c : ℕ) : Printable (printChar c) := by
  rw [printChar]
  split
  · next e he =>
    obtain ⟨l, l', hl, -⟩ := List.lookup_eq_some_iff.1 he
    have hmem : (c, e) ∈ l ++ (c, e) :: l' := List.mem_append_right _ List.mem_cons_self
    rw [← hl] at hmem
    refine printable_cons (by decide) (printable_cons ?_ nofun)
    simp only [List.mem_cons, Prod.mk.injEq, List.not_mem_nil, or_false] at hmem
    omega
  · split_ifs with hprintable hbmp
    · exact printable_cons hprintable nofun
    · exact printable_printUnicode c
    · exact (printable_printUnicode _).append (printable_printUnicode _)

/-- So is every string. -/
theorem printable_printString (s : Text) : Printable (printString s) := by
  refine printable_cons (by decide) (Printable.append ?_ (printable_cons (by decide) nofun))
  intro c hc
  obtain ⟨d, -, hc⟩ := List.mem_flatMap.1 hc
  exact printable_printChar d c hc

mutual

/-- Everything that is written is printable. -/
theorem printable_print (v : Json) (hv : v.Readable) : Printable v.print := by
  match v with
  | .null => decide
  | .bool true => decide
  | .bool false => decide
  | .int n => exact printable_printInt n
  | .float repr =>
    rw [Readable] at hv
    subst hv
    decide
  | .str s => exact printable_printString s
  | .array [] => decide
  | .array (v :: vs) =>
    obtain ⟨hv, hvs⟩ : v.Readable ∧ ReadableElements vs := hv
    rw [print]
    exact printable_cons (by decide) ((printable_print v hv).append (printable_printElements vs hvs))
  | .object [] => decide
  | .object ((k, v) :: items) =>
    rw [Readable, ReadableMembers] at hv
    obtain ⟨-, -, hv, hitems⟩ := hv
    rw [print]
    exact printable_cons (by decide) ((printable_printString k).append (printable_cons (by decide)
      ((printable_print v hv).append (printable_printMembers items hitems))))

/-- So are the elements. -/
theorem printable_printElements (vs : List Json) (hvs : ReadableElements vs) :
    Printable (printElements vs) := by
  match vs with
  | [] => decide
  | v :: vs =>
    obtain ⟨hv, hvs⟩ : v.Readable ∧ ReadableElements vs := hvs
    rw [printElements]
    exact printable_cons (by decide) ((printable_print v hv).append (printable_printElements vs hvs))

/-- So are the members. -/
theorem printable_printMembers (items : List (Text × Json)) (hitems : ReadableMembers items) :
    Printable (printMembers items) := by
  match items with
  | [] => decide
  | (k, v) :: items =>
    obtain ⟨-, hv, hitems⟩ : CodePoints k ∧ v.Readable ∧ ReadableMembers items := hitems
    rw [printMembers]
    exact printable_cons (by decide) ((printable_printString k).append (printable_cons (by decide)
      ((printable_print v hv).append (printable_printMembers items hitems))))

end

/-- A plain value is written in ASCII. -/
theorem le_of_mem_print (v : Json) (hv : v.Plain) : ∀ c ∈ v.print, c ≤ 126 := fun c hc =>
  (printable_print v (Plain.readable v hv).1 c hc).2

/-- An object ends with a brace. -/
theorem exists_print_object (items : List (Text × Json)) :
    ∃ u, (Json.object items).print = u ++ [125] := by
  have hmembers : ∀ items : List (Text × Json), ∃ u, printMembers items = u ++ [125] := by
    intro items
    induction items with
    | nil => exact ⟨[], rfl⟩
    | cons item items ih =>
      obtain ⟨u, hu⟩ := ih
      obtain ⟨k, v⟩ := item
      exact ⟨44 :: (printString k ++ 58 :: (v.print ++ u)), by simp [printMembers, hu]⟩
  rcases items with _ | ⟨⟨k, v⟩, items⟩
  · exact ⟨[123], rfl⟩
  · obtain ⟨u, hu⟩ := hmembers items
    exact ⟨123 :: (printString k ++ 58 :: (v.print ++ u)), by simp [print, hu]⟩

/-- A number below a power of ten has so many digits. -/
theorem length_printNat_le {n k : ℕ} (hk : 0 < k) (hn : n < 10 ^ k) : (printNat n).length ≤ k := by
  rw [printNat]
  split
  · exact hk
  · rw [List.length_map, List.length_reverse]
    exact (Nat.digits_length_le_iff (by decide) n).2 hn

/-- A plain text gets two quotes. -/
theorem length_printString (hs : PlainText s) : (printString s).length = s.length + 2 := by
  simp [printString_plain hs]

/-- The members are as long as they are many, and as the longest one. -/
theorem length_printMembers_le {m : ℕ} {items : List (Text × Json)}
    (h : ∀ item ∈ items, (printString item.1).length + item.2.print.length ≤ m) :
    (printMembers items).length ≤ items.length * (m + 2) + 1 := by
  induction items with
  | nil => simp [printMembers]
  | cons item items ih =>
    obtain ⟨hitem, hitems⟩ := List.forall_mem_cons.1 h
    have hrest := ih hitems
    simp only [printMembers, List.length_cons, List.length_append, add_mul]
    omega

/-- So is an object. -/
theorem length_print_object_le {m : ℕ} {items : List (Text × Json)}
    (h : ∀ item ∈ items, (printString item.1).length + item.2.print.length ≤ m) :
    (Json.object items).print.length ≤ items.length * (m + 2) + 2 := by
  have hle := length_printMembers_le h
  rcases items with _ | ⟨⟨k, v⟩, items⟩
  · simp [print]
  · simp only [printMembers, print, List.length_cons, List.length_append] at hle ⊢
    omega

/-- The elements are as long as they are many, and as the longest one. -/
theorem length_printElements_le {m : ℕ} {vs : List Json} (h : ∀ v ∈ vs, v.print.length ≤ m) :
    (printElements vs).length ≤ vs.length * (m + 1) + 1 := by
  induction vs with
  | nil => simp [printElements]
  | cons v vs ih =>
    obtain ⟨hv, hvs⟩ := List.forall_mem_cons.1 h
    have hrest := ih hvs
    simp only [printElements, List.length_cons, List.length_append, add_mul]
    omega

/-- So is an array. -/
theorem length_print_array_le {m : ℕ} {vs : List Json} (h : ∀ v ∈ vs, v.print.length ≤ m) :
    (Json.array vs).print.length ≤ vs.length * (m + 1) + 2 := by
  have hle := length_printElements_le h
  cases vs with
  | nil => simp [print]
  | cons v vs =>
    simp only [printElements, print, List.length_cons, List.length_append] at hle ⊢
    omega

end Json

end Subgen
