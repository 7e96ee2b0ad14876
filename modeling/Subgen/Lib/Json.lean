import Mathlib.Data.List.Lex
import Mathlib.Data.List.Sort
import Mathlib.Data.List.TakeWhile
import Mathlib.Data.Nat.Digits.Lemmas
import Mathlib.Tactic.Linarith

/-!
# JSON

The reader and the writer of the `json` module of Python. A text is the list of its code points, since
a string that was read may hold code points that are no characters (surrogates).

* `readText`: the value of a text, or `none` where it raises a `ValueError`. `loads` is that of a strict
  reader;
* `write`: the text of a value in a layout. `print` is the one without anything between the tokens and
  with everything but ASCII escaped, and `dumps` sorts the keys as well.

A float is given by its `repr`, which determines it. How a decimal text is rounded to a
float is a parameter (`FloatReader`), of which only the text `1.0` is used.
-/

namespace Subgen

/-- A text, as the list of its code points. -/
abbrev Text := List ℕ

-- Found under one name wherever it is decided whether a text is in a list.
instance : LawfulBEq Text := inferInstanceAs (LawfulBEq (List ℕ))

instance : LawfulBEq (Option Text) := inferInstanceAs (LawfulBEq (Option (List ℕ)))

/-- The code points of a literal. -/
def text (s : String) : Text := s.toList.map Char.toNat

/-- `float(text)`, by the `repr` of its result; one that is no finite number has none. -/
structure FloatReader where
  read : Text → Option Text
  read_one : read (text "1.0") = some (text "1.0")

/-- How a text is read: whether a key may be repeated, so that its last value counts, and whether there
    are the constants that are no numbers. -/
structure Reader extends FloatReader where
  repeated : Bool
  constants : Bool

/-- The hooks that reject both. -/
def FloatReader.strict (F : FloatReader) : Reader := ⟨F, false, false⟩

/-- A JSON value. The members of an object keep their order. -/
inductive Json
  | null
  | bool (b : Bool)
  | int (n : ℤ)
  | float (repr : Option Text)
  | str (s : Text)
  | array (items : List Json)
  | object (items : List (Text × Json))

namespace Json

/-! ## Tokens -/

/-- The white space of JSON. -/
def isSpace (c : ℕ) : Bool := c = 32 ∨ c = 9 ∨ c = 10 ∨ c = 13

/-- The text behind its leading white space. -/
def skipSpace (t : Text) : Text := t.dropWhile isSpace

/-- `[0-9]`. -/
def isDigit (c : ℕ) : Bool := 48 ≤ c ∧ c ≤ 57

/-- The value of a hexadecimal digit. -/
def hexDigit (c : ℕ) : Option ℕ :=
  if 48 ≤ c ∧ c ≤ 57 then some (c - 48)
  else if 97 ≤ c ∧ c ≤ 102 then some (c - 87)
  else if 65 ≤ c ∧ c ≤ 70 then some (c - 55)
  else none

/-- The code point of `\uXXXX`. -/
def unicodeEscape (a b c d : ℕ) : Option ℕ := do
  let a ← hexDigit a
  let b ← hexDigit b
  let c ← hexDigit c
  let d ← hexDigit d
  some (((a * 16 + b) * 16 + c) * 16 + d)

/-- The code point of an escape of one letter. -/
def shortEscape (c : ℕ) : Option ℕ :=
  [(34, 34), (92, 92), (47, 47), (98, 8), (102, 12), (110, 10), (114, 13), (116, 9)].lookup c

/-- The rest of a string, behind its opening quote. Control characters have to be escaped. -/
def scanString : Text → Option (Text × Text)
  | [] => none
  | 34 :: t => some ([], t)
  | 92 :: 117 :: a :: b :: c :: d :: t => do
    let u ← unicodeEscape a b c d
    let (s, t) ← scanString t
    some (u :: s, t)
  | 92 :: e :: t => do
    let u ← shortEscape e
    let (s, t) ← scanString t
    some (u :: s, t)
  | c :: t =>
    if c < 32 ∨ c = 92 then none
    else do
      let (s, t) ← scanString t
      some (c :: s, t)

/-- Two surrogates that follow each other are one code point. -/
def joinSurrogates : Text → Text
  | [] => []
  | [c] => [c]
  | high :: low :: s =>
    if 0xd800 ≤ high ∧ high ≤ 0xdbff ∧ 0xdc00 ≤ low ∧ low ≤ 0xdfff then
      (0x10000 + ((high - 0xd800) * 0x400 + (low - 0xdc00))) :: joinSurrogates s
    else
      high :: joinSurrogates (low :: s)

/-- `-?(0|[1-9][0-9]*)`. -/
def scanInteger : Text → Option (Text × Text)
  | 45 :: t => (scanNatural t).map fun (digits, t) => (45 :: digits, t)
  | t => scanNatural t
where
  scanNatural : Text → Option (Text × Text)
    | 48 :: t => some ([48], t)
    | t => if t.takeWhile isDigit = [] then none else some (t.takeWhile isDigit, t.dropWhile isDigit)

/-- `(\.[0-9]+)?`. -/
def scanFraction : Text → Text × Text
  | 46 :: t =>
    if t.takeWhile isDigit = [] then ([], 46 :: t)
    else (46 :: t.takeWhile isDigit, t.dropWhile isDigit)
  | t => ([], t)

/-- `([eE][-+]?[0-9]+)?`. -/
def scanExponent : Text → Text × Text
  | e :: sign :: t =>
    if e = 101 ∨ e = 69 then
      if sign = 45 ∨ sign = 43 then
        if t.takeWhile isDigit = [] then ([], e :: sign :: t)
        else (e :: sign :: t.takeWhile isDigit, t.dropWhile isDigit)
      else if (sign :: t).takeWhile isDigit = [] then ([], e :: sign :: t)
      else (e :: (sign :: t).takeWhile isDigit, (sign :: t).dropWhile isDigit)
    else
      ([], e :: sign :: t)
  | t => ([], t)

/-- `int(text)`, of the digits of an integer. -/
def natOf (digits : Text) : ℕ := digits.foldl (fun n d => 10 * n + (d - 48)) 0

/-- The value of digits with an optional sign. -/
def intOf : Text → ℤ
  | 45 :: digits => -natOf digits
  | digits => natOf digits

/-- An integer, if it has neither a fraction nor an exponent, and a float if it has. -/
def scanNumber (F : FloatReader) (t : Text) : Option (Json × Text) := do
  let (integer, t) ← scanInteger t
  let (fraction, t) := scanFraction t
  let (exponent, t) := scanExponent t
  some (if fraction = [] ∧ exponent = [] then .int (intOf integer)
    else .float (F.read (integer ++ fraction ++ exponent)), t)

/-- The constants that are no finite numbers. -/
def scanConstant (t : Text) : Option (Json × Text) :=
  if text "NaN" <+: t then some (.float none, t.drop 3)
  else if text "Infinity" <+: t then some (.float none, t.drop 8)
  else if text "-Infinity" <+: t then some (.float none, t.drop 9)
  else none

/-- A literal, a number or, if they are read, one of the constants. -/
def scanScalar (R : Reader) (t : Text) : Option (Json × Text) :=
  if text "null" <+: t then some (.null, t.drop 4)
  else if text "true" <+: t then some (.bool true, t.drop 4)
  else if text "false" <+: t then some (.bool false, t.drop 5)
  else
    match scanNumber R.toFloatReader t with
    | some r => some r
    | none => if R.constants then scanConstant t else none

/-- `dict(pairs)`: a key stands where it is first, with the value that it has last. -/
def lastValues (items : List (Text × Json)) : List (Text × Json) :=
  items.foldl assign []
where
  assign (items : List (Text × Json)) (item : Text × Json) : List (Text × Json) :=
    if item.1 ∈ items.map Prod.fst then items.map fun i => if i.1 = item.1 then item else i
    else items ++ [item]

/-! ## Reading -/

mutual

/-- `scan_once`. Every call reads a character or leaves it to another one, so that the fuel is
    enough if it is twice the length of the text. -/
def scanValue (R : Reader) : ℕ → Text → Option (Json × Text)
  | 0, _ => none
  | _ + 1, 34 :: t => (scanString t).map fun (s, t) => (.str (joinSurrogates s), t)
  | n + 1, 91 :: t =>
    match skipSpace t with
    | 93 :: t => some (.array [], t)
    | t => (scanElements R n t).map fun (items, t) => (.array items, t)
  | n + 1, 123 :: t =>
    match skipSpace t with
    | 125 :: t => some (.object [], t)
    | t => do
      let (items, t) ← scanMembers R n t
      if R.repeated then some (.object (lastValues items), t)
      -- `_reject_duplicate_pairs`.
      else if (items.map Prod.fst).Nodup then some (.object items, t)
      else none
  | _ + 1, t => scanScalar R t

/-- The elements of an array, from the first on. -/
def scanElements (R : Reader) : ℕ → Text → Option (List Json × Text)
  | 0, _ => none
  | n + 1, t => do
    let (v, t) ← scanValue R n t
    match skipSpace t with
    | 93 :: t => some ([v], t)
    | 44 :: t => (scanElements R n (skipSpace t)).map fun (vs, t) => (v :: vs, t)
    | _ => none

/-- The members of an object, from the first on. -/
def scanMembers (R : Reader) : ℕ → Text → Option (List (Text × Json) × Text)
  | 0, _ => none
  | n + 1, 34 :: t => do
    let (k, t) ← scanString t
    match skipSpace t with
    | 58 :: t => do
      let (v, t) ← scanValue R n (skipSpace t)
      match skipSpace t with
      | 125 :: t => some ([(joinSurrogates k, v)], t)
      | 44 :: t =>
        (scanMembers R n (skipSpace t)).map fun (items, t) => ((joinSurrogates k, v) :: items, t)
      | _ => none
    | _ => none
  | _ + 1, _ => none

end

/-- `json.loads`. -/
def readText (R : Reader) (t : Text) : Option Json := do
  let (v, rest) ← scanValue R (2 * t.length) (skipSpace t)
  if skipSpace rest = [] then some v else none

/-- `json.loads`, with the hooks that reject repeated keys and constants. -/
def loads (F : FloatReader) (t : Text) : Option Json := readText F.strict t

/-! ## Writing -/

/-- A natural number in decimal. -/
def printNat (n : ℕ) : Text :=
  if n = 0 then [48] else (Nat.digits 10 n).reverse.map (· + 48)

/-- An integer in decimal. -/
def printInt : ℤ → Text
  | .ofNat n => printNat n
  | .negSucc n => 45 :: printNat (n + 1)

/-- `\uXXXX`. -/
def printUnicode (c : ℕ) : Text :=
  [92, 117, digit (c / 4096 % 16), digit (c / 256 % 16), digit (c / 16 % 16), digit (c % 16)]
where
  digit (d : ℕ) : ℕ := if d < 10 then d + 48 else d + 87

/-- A character of a string, escaped where it has to be. -/
def printChar (c : ℕ) : Text :=
  match [(34, 34), (92, 92), (10, 110), (13, 114), (9, 116), (12, 102), (8, 98)].lookup c with
  | some e => [92, e]
  | none =>
    if 32 ≤ c ∧ c ≤ 126 then [c]
    else if c < 0x10000 then printUnicode c
    else printUnicode (0xd800 + (c - 0x10000) / 0x400 % 0x400) ++
      printUnicode (0xdc00 + (c - 0x10000) % 0x400)

/-- A string in quotes. -/
def printString (s : Text) : Text := 34 :: (s.flatMap printChar ++ [34])

mutual

/-- A value, without anything between the tokens. -/
def print : Json → Text
  | .null => text "null"
  | .bool true => text "true"
  | .bool false => text "false"
  | .int n => printInt n
  | .float repr => repr.getD []
  | .str s => printString s
  | .array [] => [91, 93]
  | .array (v :: vs) => 91 :: (v.print ++ printElements vs)
  | .object [] => [123, 125]
  | .object ((k, v) :: items) => 123 :: (printString k ++ 58 :: (v.print ++ printMembers items))

/-- The elements of an array behind another one. -/
def printElements : List Json → Text
  | [] => [93]
  | v :: vs => 44 :: (v.print ++ printElements vs)

/-- The members of an object behind another one. -/
def printMembers : List (Text × Json) → Text
  | [] => [125]
  | (k, v) :: items => 44 :: (printString k ++ 58 :: (v.print ++ printMembers items))

end

/-- A layout: whether everything but ASCII is escaped, and by how much each level is indented, if the
    tokens are not to follow each other. -/
structure Layout where
  ascii : Bool
  indent : Option ℕ

namespace Layout

variable (L : Layout)

/-- A character of a string that may hold others than ASCII. -/
def writeChar (c : ℕ) : Text :=
  if L.ascii = false ∧ 127 ≤ c then [c] else printChar c

/-- A string in quotes, in a layout. -/
def writeString (s : Text) : Text := 34 :: (s.flatMap L.writeChar ++ [34])

/-- The line break before a member, with its indentation. -/
def newline (level : ℕ) : Text :=
  match L.indent with
  | none => []
  | some k => 10 :: List.replicate (k * level) 32

/-- What stands between a key and its value. -/
def colon : Text := if L.indent.isSome then [58, 32] else [58]

end Layout

mutual

/-- A value in a layout. -/
def write (L : Layout) (level : ℕ) : Json → Text
  | .null => text "null"
  | .bool true => text "true"
  | .bool false => text "false"
  | .int n => printInt n
  | .float repr => repr.getD []
  | .str s => L.writeString s
  | .array [] => [91, 93]
  | .array (v :: vs) => 91 :: (L.newline (level + 1) ++ v.write L (level + 1) ++ writeElements L level vs)
  | .object [] => [123, 125]
  | .object ((k, v) :: items) =>
    123 :: (L.newline (level + 1) ++ (L.writeString k ++ (L.colon ++
      (v.write L (level + 1) ++ writeMembers L level items))))

/-- The elements of an array behind another one. -/
def writeElements (L : Layout) (level : ℕ) : List Json → Text
  | [] => L.newline level ++ [93]
  | v :: vs => 44 :: (L.newline (level + 1) ++ v.write L (level + 1) ++ writeElements L level vs)

/-- The members of an object behind another one. -/
def writeMembers (L : Layout) (level : ℕ) : List (Text × Json) → Text
  | [] => L.newline level ++ [125]
  | (k, v) :: items =>
    44 :: (L.newline (level + 1) ++ (L.writeString k ++ (L.colon ++
      (v.write L (level + 1) ++ writeMembers L level items))))

end

/-- The members of an object in the order of their keys, which are distinct. -/
def sortItems (items : List (Text × Json)) : List (Text × Json) :=
  items.insertionSort fun a b => a.1 ≤ b.1

mutual

/-- The keys of every object sorted. -/
def sortKeys : Json → Json
  | .array items => .array (sortElements items)
  | .object items => .object (sortItems (sortMembers items))
  | v => v

/-- The elements of an array with their keys sorted. -/
def sortElements : List Json → List Json
  | [] => []
  | v :: vs => v.sortKeys :: sortElements vs

/-- The members of an object with the keys of their values sorted. -/
def sortMembers : List (Text × Json) → List (Text × Json)
  | [] => []
  | (k, v) :: items => (k, v.sortKeys) :: sortMembers items

/-- Whether there is no infinite float. -/
def finite : Json → Bool
  | .float repr => repr.isSome
  | .array items => finiteElements items
  | .object items => finiteMembers items
  | _ => true

/-- No element holds an infinite number or a NaN. -/
def finiteElements : List Json → Bool
  | [] => true
  | v :: vs => v.finite && finiteElements vs

/-- No member holds an infinite number or a NaN. -/
def finiteMembers : List (Text × Json) → Bool
  | [] => true
  | (_, v) :: items => v.finite && finiteMembers items

end

/-- `json.dumps(value, sort_keys=True, separators=(",", ":"), ensure_ascii=True,
    allow_nan=False)`. -/
def dumps (v : Json) : Option Text := if v.finite then some v.sortKeys.print else none

variable {F : FloatReader} {s t : Text}

/-! ## Members -/

/-- `value[key]`, of a key that is there. -/
def get (items : List (Text × Json)) (k : Text) : Json := (items.lookup k).getD .null

variable {items : List (Text × Json)}

theorem get_of_mem {k : Text} {v : Json} (hnodup : (items.map Prod.fst).Nodup)
    (hmem : (k, v) ∈ items) : get items k = v := by
  induction items with
  | nil => cases hmem
  | cons item items ih =>
    obtain ⟨l, w⟩ := item
    rw [List.map_cons, List.nodup_cons] at hnodup
    rcases List.mem_cons.1 hmem with heq | htail
    · obtain ⟨rfl, rfl⟩ := heq
      rw [get, List.lookup_cons_self]
      rfl
    · have hne : k ≠ l := by
        rintro rfl
        exact hnodup.1 (List.mem_map.2 ⟨_, htail, rfl⟩)
      have hrest := ih hnodup.2 htail
      rw [get] at hrest ⊢
      rwa [List.lookup_cons, beq_false_of_ne hne]

theorem eq_map_get (hnodup : (items.map Prod.fst).Nodup) :
    items = (items.map Prod.fst).map fun k => (k, get items k) := by
  rw [List.map_map]
  refine (List.map_id items).symm.trans (List.map_congr_left fun item hitem => ?_)
  exact Prod.ext rfl (get_of_mem hnodup hitem).symm

theorem sortItems_perm (items : List (Text × Json)) : (sortItems items).Perm items :=
  List.perm_insertionSort _ _

/-- The keys determine the order, and the values follow them. -/
theorem sortItems_eq {keys : List Text} (hsorted : keys.Pairwise (· < ·))
    (hnodup : (items.map Prod.fst).Nodup) (hkeys : ∀ k, k ∈ items.map Prod.fst ↔ k ∈ keys) :
    sortItems items = keys.map fun k => (k, get items k) := by
  have hperm := sortItems_perm items
  have hnodup' : ((sortItems items).map Prod.fst).Nodup := (hperm.map _).nodup_iff.2 hnodup
  have horder : ((sortItems items).map Prod.fst).Pairwise (· ≤ ·) := by
    rw [List.pairwise_map]
    exact List.pairwise_insertionSort _ _
  have hfst : (sortItems items).map Prod.fst = keys := by
    refine List.Perm.eq_of_pairwise' horder (hsorted.imp le_of_lt) ?_
    refine (List.perm_ext_iff_of_nodup hnodup' (hsorted.imp ne_of_lt)).2 fun k => ?_
    rw [(hperm.map _).mem_iff, hkeys]
  have hget : ∀ k ∈ keys, get (sortItems items) k = get items k := by
    intro k hk
    rw [← hfst, List.mem_map] at hk
    obtain ⟨⟨_, v⟩, hmem, rfl⟩ := hk
    rw [get_of_mem hnodup' hmem, get_of_mem hnodup (hperm.mem_iff.1 hmem)]
  rw [eq_map_get hnodup', hfst]
  exact List.map_congr_left fun k hk => Prod.ext rfl (hget k hk)

theorem sortMembers_eq (items : List (Text × Json)) :
    sortMembers items = items.map fun item => (item.1, item.2.sortKeys) := by
  induction items with
  | nil => rfl
  | cons item items ih => rw [sortMembers, ih]; rfl

/-- What is read has no key twice. -/
theorem nodup_of_loads {v : Json} (hload : loads F t = some v) (hv : v = .object items) :
    (items.map Prod.fst).Nodup := by
  subst hv
  rw [loads, readText, Option.bind_eq_bind, Option.bind_eq_some_iff] at hload
  obtain ⟨⟨v, rest⟩, hscan, hrest⟩ := hload
  simp only [] at hrest
  obtain rfl : v = .object items := by
    split_ifs at hrest
    exact Option.some.inj hrest
  -- A scalar is not an object, so the text starts with the brace of one.
  have hscalar : ∀ t, scanScalar F.strict t ≠ some (.object items, rest) := by
    intro t h
    simp only [scanScalar, FloatReader.strict, Bool.false_eq_true, if_false] at h
    split_ifs at h
    · cases h
    · cases h
    · cases h
    split at h
    · next r hnumber =>
      cases h
      simp only [scanNumber, Option.bind_eq_bind, Option.bind_eq_some_iff] at hnumber
      obtain ⟨_, _, hvalue⟩ := hnumber
      have hvalue := (Prod.mk.inj (Option.some.inj hvalue)).1
      split_ifs at hvalue
    · cases h
  generalize 2 * t.length = n at hscan
  rw [scanValue.eq_def] at hscan
  simp only [FloatReader.strict, Bool.false_eq_true, if_false] at hscan
  split at hscan
  · cases hscan
  · simp at hscan
  · split at hscan <;> simp at hscan
  · split at hscan
    · cases hscan
      exact List.nodup_nil
    · rw [Option.bind_eq_bind, Option.bind_eq_some_iff] at hscan
      obtain ⟨⟨members, rest'⟩, _, hmembers⟩ := hscan
      simp only [] at hmembers
      split_ifs at hmembers with hnodup
      cases hmembers
      exact hnodup
  · exact absurd hscan (hscalar _)

end Json

end Subgen
