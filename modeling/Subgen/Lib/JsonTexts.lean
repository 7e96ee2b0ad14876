import Subgen.Lib.JsonRoundTrip
import Subgen.Lib.Utf8

/-!
# The strings of a value

What is written without escapes can be encoded only if its strings can, and then it is read as it is.

* `encodable_texts`: the strings of a value that was written and encoded;
* `encodable_write`: a value whose strings are encodable is written as such a text;
* `norm_eq_self`: a value whose strings are encodable is read as it is;
* `Writable.read`: such a value is encoded, decoded and read back;
* `Writable.dumps`: also with its keys sorted, where they are looked up as before (`get_sortItems`);
* `write_infix`: on one line, a member is written within its object as it is by itself.
-/

namespace Subgen

namespace Json

mutual

/-- The strings of a value, its keys included. -/
def texts : Json → List Text
  | .str s => [s]
  | .array items => textsElements items
  | .object items => textsMembers items
  | _ => []

/-- The texts of all elements. -/
def textsElements : List Json → List Text
  | [] => []
  | v :: vs => v.texts ++ textsElements vs

/-- The keys and the texts of all members. -/
def textsMembers : List (Text × Json) → List Text
  | [] => []
  | (k, v) :: items => k :: (v.texts ++ textsMembers items)

end

variable {s : Text}

/-- A text of an array is one of an element. -/
theorem mem_textsElements {vs : List Json} : s ∈ textsElements vs ↔ ∃ v ∈ vs, s ∈ v.texts := by
  induction vs with
  | nil => simp [textsElements]
  | cons v vs ih => simp [textsElements, ih]

/-- A text of an object is a key or one of a member. -/
theorem mem_textsMembers {items : List (Text × Json)} :
    s ∈ textsMembers items ↔ ∃ item ∈ items, s = item.1 ∨ s ∈ item.2.texts := by
  induction items with
  | nil => simp [textsMembers]
  | cons item items ih => simp [textsMembers, ih, or_assoc]

/-! ## What is written -/

section Write

variable {L : Layout} {c : ℕ}

/-- A character that is not ASCII is written as it is. -/
theorem mem_writeString (hascii : L.ascii = false) (hc : 127 ≤ c) (hmem : c ∈ s) : c ∈ L.writeString s := by
  have hchar : c ∈ L.writeChar c := by
    rw [Layout.writeChar, if_pos ⟨hascii, hc⟩]
    exact List.mem_singleton_self c
  rw [Layout.writeString]
  exact List.mem_cons_of_mem _ (List.mem_append_left _ (List.mem_flatMap.2 ⟨c, hmem, hchar⟩))

mutual

/-- A character of a text that is not escaped is found in what is written. -/
theorem mem_write (hascii : L.ascii = false) (hc : 127 ≤ c) (hmem : c ∈ s) (level : ℕ) (v : Json)
    (hs : s ∈ v.texts) : c ∈ v.write L level := by
  match v with
  | .null | .bool _ | .int _ | .float _ => cases hs
  | .str _ =>
    rw [texts, List.mem_singleton] at hs
    exact mem_writeString hascii hc (hs ▸ hmem)
  | .array [] | .object [] => cases hs
  | .array (v :: vs) =>
    rw [texts, textsElements, List.mem_append] at hs
    rw [write]
    rcases hs with hs | hs
    · simp [mem_write hascii hc hmem (level + 1) v hs]
    · simp [mem_writeElements hascii hc hmem level vs hs]
  | .object ((k, v) :: items) =>
    rw [texts, textsMembers, List.mem_cons, List.mem_append] at hs
    rw [write]
    rcases hs with rfl | hs | hs
    · simp [mem_writeString hascii hc hmem]
    · simp [mem_write hascii hc hmem (level + 1) v hs]
    · simp [mem_writeMembers hascii hc hmem level items hs]

/-- The same for the rest of an array. -/
theorem mem_writeElements (hascii : L.ascii = false) (hc : 127 ≤ c) (hmem : c ∈ s) (level : ℕ)
    (vs : List Json) (hs : s ∈ textsElements vs) : c ∈ writeElements L level vs := by
  match vs with
  | [] => cases hs
  | v :: vs =>
    rw [textsElements, List.mem_append] at hs
    rw [writeElements]
    rcases hs with hs | hs
    · simp [mem_write hascii hc hmem (level + 1) v hs]
    · simp [mem_writeElements hascii hc hmem level vs hs]

/-- The same for the rest of an object. -/
theorem mem_writeMembers (hascii : L.ascii = false) (hc : 127 ≤ c) (hmem : c ∈ s) (level : ℕ)
    (items : List (Text × Json)) (hs : s ∈ textsMembers items) : c ∈ writeMembers L level items := by
  match items with
  | [] => cases hs
  | (k, v) :: items =>
    rw [textsMembers, List.mem_cons, List.mem_append] at hs
    rw [writeMembers]
    rcases hs with rfl | hs | hs
    · simp [mem_writeString hascii hc hmem]
    · simp [mem_write hascii hc hmem (level + 1) v hs]
    · simp [mem_writeMembers hascii hc hmem level items hs]

end

/-- Of what is written without escapes, nothing is encoded but what is encodable. -/
theorem encodable_texts (hascii : L.ascii = false) {level : ℕ} {v : Json} {t : Text}
    (h : Encodable (v.write L level ++ t)) (hs : s ∈ v.texts) : Encodable s := by
  intro c hc
  by_cases hsmall : c < 127
  · refine ⟨by omega, ?_⟩
    simp only [isSurrogate, decide_eq_false_iff_not]
    omega
  · exact h c (List.mem_append_left _ (mem_write hascii (not_lt.1 hsmall) hc level v hs))

/-- ASCII is encodable. -/
theorem encodable_ascii {t : Text} (h : ∀ c ∈ t, c ≤ 126) : Encodable t := by
  intro c hc
  have hle := h c hc
  refine ⟨by omega, ?_⟩
  simp only [isSurrogate, decide_eq_false_iff_not]
  omega

/-- One more character of ASCII. -/
theorem encodable_cons {t : Text} (hc : c ≤ 126) (ht : Encodable t) : Encodable (c :: t) :=
  List.forall_mem_cons.2 ⟨encodable_ascii (List.forall_mem_singleton.2 hc) c (List.mem_singleton_self c), ht⟩

/-- Two encodable texts. -/
theorem encodable_append {t u : Text} (ht : Encodable t) (hu : Encodable u) : Encodable (t ++ u) :=
  List.forall_mem_append.2 ⟨ht, hu⟩

/-- Printable characters are of ASCII. -/
theorem encodable_printable {t : Text} (h : Printable t) : Encodable t :=
  encodable_ascii fun c hc => (h c hc).2

/-- A line break of a layout is of ASCII. -/
theorem encodable_newline (level : ℕ) : Encodable (L.newline level) := by
  rw [Layout.newline]
  cases L.indent with
  | none => exact fun _ hmem => absurd hmem List.not_mem_nil
  | some k =>
    refine encodable_cons (by decide) (encodable_ascii fun c hc => ?_)
    rw [List.eq_of_mem_replicate hc]
    decide

/-- So is what stands behind a key. -/
theorem encodable_colon : Encodable L.colon := by
  rw [Layout.colon]
  split_ifs
  · exact encodable_ascii (by decide)
  · exact encodable_ascii (by decide)

/-- An encodable text is encodable when it is written. -/
theorem encodable_writeString (hs : Encodable s) : Encodable (L.writeString s) := by
  refine encodable_cons (by decide) (encodable_append (fun d hd => ?_) (encodable_ascii (by decide)))
  obtain ⟨c, hc, hd⟩ := List.mem_flatMap.1 hd
  rw [Layout.writeChar] at hd
  split_ifs at hd
  · rw [List.mem_singleton.1 hd]
    exact hs c hc
  · exact encodable_printable (printable_printChar c) d hd

mutual

/-- What is written can be encoded, if the strings can. -/
theorem encodable_write (level : ℕ) (v : Json) (hv : v.Readable) (h : ∀ s ∈ v.texts, Encodable s) :
    Encodable (v.write L level) := by
  match v with
  | .null =>
    rw [write]
    exact encodable_ascii (by decide)
  | .bool true =>
    rw [write]
    exact encodable_ascii (by decide)
  | .bool false =>
    rw [write]
    exact encodable_ascii (by decide)
  | .int n => exact encodable_printable (printable_printInt n)
  | .float repr =>
    rw [Readable] at hv
    subst hv
    rw [write]
    exact encodable_ascii (by decide)
  | .str s => exact encodable_writeString (h s (List.mem_singleton_self s))
  | .array [] =>
    rw [write]
    exact encodable_ascii (by decide)
  | .array (v :: vs) =>
    obtain ⟨hv, hvs⟩ : v.Readable ∧ ReadableElements vs := hv
    rw [texts, textsElements, List.forall_mem_append] at h
    rw [write]
    exact encodable_cons (by decide) (encodable_append (encodable_append (encodable_newline _)
      (encodable_write (level + 1) v hv h.1)) (encodable_writeElements level vs hvs h.2))
  | .object [] =>
    rw [write]
    exact encodable_ascii (by decide)
  | .object ((k, v) :: items) =>
    rw [Readable, ReadableMembers] at hv
    obtain ⟨-, -, hv, hitems⟩ := hv
    rw [texts, textsMembers, List.forall_mem_cons, List.forall_mem_append] at h
    rw [write]
    exact encodable_cons (by decide) (encodable_append (encodable_newline _) (encodable_append
      (encodable_writeString h.1) (encodable_append encodable_colon (encodable_append
        (encodable_write (level + 1) v hv h.2.1) (encodable_writeMembers level items hitems h.2.2)))))

/-- The rest of an array is, if its texts are. -/
theorem encodable_writeElements (level : ℕ) (vs : List Json) (hvs : ReadableElements vs)
    (h : ∀ s ∈ textsElements vs, Encodable s) : Encodable (writeElements L level vs) := by
  match vs with
  | [] => exact encodable_append (encodable_newline level) (encodable_ascii (by decide))
  | v :: vs =>
    obtain ⟨hv, hvs⟩ : v.Readable ∧ ReadableElements vs := hvs
    rw [textsElements, List.forall_mem_append] at h
    rw [writeElements]
    exact encodable_cons (by decide) (encodable_append (encodable_append (encodable_newline _)
      (encodable_write (level + 1) v hv h.1)) (encodable_writeElements level vs hvs h.2))

/-- The rest of an object is, if its texts are. -/
theorem encodable_writeMembers (level : ℕ) (items : List (Text × Json)) (hitems : ReadableMembers items)
    (h : ∀ s ∈ textsMembers items, Encodable s) : Encodable (writeMembers L level items) := by
  match items with
  | [] => exact encodable_append (encodable_newline level) (encodable_ascii (by decide))
  | (k, v) :: items =>
    obtain ⟨-, hv, hitems⟩ : CodePoints k ∧ v.Readable ∧ ReadableMembers items := hitems
    rw [textsMembers, List.forall_mem_cons, List.forall_mem_append] at h
    rw [writeMembers]
    exact encodable_cons (by decide) (encodable_append (encodable_newline _) (encodable_append
      (encodable_writeString h.1) (encodable_append encodable_colon (encodable_append
        (encodable_write (level + 1) v hv h.2.1) (encodable_writeMembers level items hitems h.2.2)))))

end

end Write

/-! ## What is read -/

/-- What is encodable has code points. -/
theorem codePoints_of_encodable (h : Encodable s) : CodePoints s := fun c hc => (h c hc).1

/-- It has no surrogates. -/
theorem joinSurrogates_of_encodable (h : Encodable s) : joinSurrogates s = s := by
  induction s with
  | nil => rfl
  | cons c t ih =>
    obtain ⟨hc, ht⟩ := List.forall_mem_cons.1 h
    rw [joinSurrogates_cons, ih ht]
    intro d _ hpair
    simp only [isSurrogate, decide_eq_false_iff_not] at hc
    omega

mutual

/-- A value with encodable texts is read back as itself. -/
theorem norm_eq_self (v : Json) (h : ∀ s ∈ v.texts, Encodable s) : v.norm = v := by
  match v with
  | .null | .bool _ | .int _ | .float _ => rfl
  | .str s => rw [norm, joinSurrogates_of_encodable (h s (List.mem_singleton_self s))]
  | .array vs => rw [norm, normElements_eq_self vs h]
  | .object items => rw [norm, normMembers_eq_self items h]

/-- So are the elements. -/
theorem normElements_eq_self (vs : List Json) (h : ∀ s ∈ textsElements vs, Encodable s) :
    normElements vs = vs := by
  match vs with
  | [] => rfl
  | v :: vs =>
    rw [normElements, norm_eq_self v fun s hs => h s (List.mem_append_left _ hs),
      normElements_eq_self vs fun s hs => h s (List.mem_append_right _ hs)]

/-- So are the members. -/
theorem normMembers_eq_self (items : List (Text × Json)) (h : ∀ s ∈ textsMembers items, Encodable s) :
    normMembers items = items := by
  match items with
  | [] => rfl
  | (k, v) :: items =>
    obtain ⟨hk, hrest⟩ := List.forall_mem_cons.1 h
    rw [normMembers, joinSurrogates_of_encodable hk,
      norm_eq_self v fun s hs => hrest s (List.mem_append_left _ hs),
      normMembers_eq_self items fun s hs => hrest s (List.mem_append_right _ hs)]

end

/-! ## Values that are encoded and read back -/

/-- The strings can be encoded, and no object has a key twice. -/
structure Writable (v : Json) : Prop where
  readable : v.Readable
  encodable : ∀ s ∈ v.texts, Encodable s

/-- An integer can be written. -/
theorem writable_int (n : ℤ) : (Json.int n).Writable := ⟨trivial, nofun⟩

/-- An encodable text can be written. -/
theorem writable_str (h : Encodable s) : (Json.str s).Writable :=
  ⟨codePoints_of_encodable h, List.forall_mem_singleton.2 h⟩

/-- An array can be written if its elements can. -/
theorem writable_array {vs : List Json} (h : ∀ v ∈ vs, v.Writable) : (Json.array vs).Writable := by
  refine ⟨readableElements_iff.2 fun v hv => (h v hv).readable, fun s hs => ?_⟩
  obtain ⟨v, hv, hs⟩ := mem_textsElements.1 hs
  exact (h v hv).encodable s hs

/-- An object can be written if its keys are distinct and its members can. -/
theorem writable_object {items : List (Text × Json)} (hnodup : (items.map Prod.fst).Nodup)
    (h : ∀ item ∈ items, Encodable item.1 ∧ item.2.Writable) : (Json.object items).Writable := by
  have hkeys : items.map (fun item => joinSurrogates item.1) = items.map Prod.fst :=
    List.map_congr_left fun item hitem => joinSurrogates_of_encodable (h item hitem).1
  refine ⟨⟨hkeys ▸ hnodup, readableMembers_iff.2 fun item hitem =>
    ⟨codePoints_of_encodable (h item hitem).1, (h item hitem).2.readable⟩⟩, fun s hs => ?_⟩
  obtain ⟨item, hitem, rfl | hs⟩ := mem_textsMembers.1 hs
  · exact (h item hitem).1
  · exact (h item hitem).2.encodable s hs

/-- What can be written is read back as itself, in every layout. -/
theorem Writable.read {v : Json} (h : v.Writable) (R : Reader) (L : Layout) (level : ℕ) :
    (decodeUtf8 ((v.write L level).flatMap utf8Char)).bind (readText R) = some v := by
  have hread := readText_write (t := []) (R := R) (L := L) level h.readable (by simp)
  rw [List.append_nil, norm_eq_self v h.encodable] at hread
  rw [decodeUtf8_encode (encodable_write level v h.readable h.encodable), Option.bind_some, hread]

/-- What it takes for an object to be written. -/
theorem writable_object_iff {items : List (Text × Json)} : (Json.object items).Writable ↔
    (items.map Prod.fst).Nodup ∧ ∀ item ∈ items, Encodable item.1 ∧ item.2.Writable := by
  refine ⟨fun h => ?_, fun h => writable_object h.1 h.2⟩
  have hmem : ∀ item ∈ items, Encodable item.1 ∧ item.2.Writable := fun item hitem =>
    ⟨h.encodable _ (mem_textsMembers.2 ⟨item, hitem, .inl rfl⟩),
      (readableMembers_iff.1 h.readable.2 item hitem).2,
      fun s hs => h.encodable s (mem_textsMembers.2 ⟨item, hitem, .inr hs⟩)⟩
  have hkeys : items.map (fun item => joinSurrogates item.1) = items.map Prod.fst :=
    List.map_congr_left fun item hitem => joinSurrogates_of_encodable (hmem item hitem).1
  exact ⟨hkeys ▸ h.readable.1, hmem⟩

/-- What it takes for an array to be written. -/
theorem writable_array_iff {vs : List Json} : (Json.array vs).Writable ↔ ∀ v ∈ vs, v.Writable :=
  ⟨fun h v hv => ⟨readableElements_iff.1 h.readable v hv,
    fun s hs => h.encodable s (mem_textsElements.2 ⟨v, hv, hs⟩)⟩, writable_array⟩

/-! ## Sorted keys -/

/-- Each of the elements is sorted for itself. -/
theorem sortElements_eq (vs : List Json) : sortElements vs = vs.map sortKeys := by
  induction vs with
  | nil => rfl
  | cons v vs ih => rw [sortElements, ih, List.map_cons]

/-- The keys stay where they are while the members are sorted in themselves. -/
theorem map_fst_sortMembers (items : List (Text × Json)) :
    (sortMembers items).map Prod.fst = items.map Prod.fst := by
  rw [sortMembers_eq, List.map_map]
  rfl

/-- The sorted members are the same members. -/
theorem mem_sortItems {items : List (Text × Json)} {item : Text × Json} :
    item ∈ sortItems items ↔ item ∈ items := (sortItems_perm items).mem_iff

/-- The order of the keys does not matter for a look-up. -/
theorem get_sortItems {items : List (Text × Json)} (hnodup : (items.map Prod.fst).Nodup) (k : Text) :
    get (sortItems items) k = get items k := by
  have hperm := sortItems_perm items
  have hnodup' : ((sortItems items).map Prod.fst).Nodup := (hperm.map _).nodup_iff.2 hnodup
  by_cases hk : k ∈ items.map Prod.fst
  · obtain ⟨item, hitem, rfl⟩ := List.mem_map.1 hk
    rw [get_of_mem hnodup' (hperm.mem_iff.2 hitem), get_of_mem hnodup hitem]
  · have hnone : ∀ l : List (Text × Json), k ∉ l.map Prod.fst → l.lookup k = none := by
      refine fun l hl => List.lookup_eq_none_iff.2 fun item hitem => ?_
      have hne : k ≠ item.1 := by
        rintro rfl
        exact hl (List.mem_map_of_mem hitem)
      simpa using hne
    rw [get, get, hnone _ hk, hnone _ fun hk' => hk ((hperm.map _).mem_iff.1 hk')]

/-- A member is found under its key, sorted. -/
theorem get_sortMembers (items : List (Text × Json)) (k : Text) :
    get (sortMembers items) k = (get items k).sortKeys := by
  induction items with
  | nil => rfl
  | cons item items ih =>
    obtain ⟨l, v⟩ := item
    rw [get, get, sortMembers, List.lookup_cons, List.lookup_cons]
    cases k == l with
    | true => rfl
    | false => exact ih

mutual

/-- What can be written can be written with sorted keys. -/
theorem Writable.sortKeys (v : Json) (h : v.Writable) : v.sortKeys.Writable := by
  match v with
  | .null | .bool _ | .int _ | .float _ | .str _ => exact h
  | .array vs =>
    rw [Json.sortKeys]
    exact writable_array (writable_sortElements vs (writable_array_iff.1 h))
  | .object items =>
    obtain ⟨hnodup, hitems⟩ := writable_object_iff.1 h
    rw [Json.sortKeys]
    refine writable_object ?_ fun item hitem =>
      writable_sortMembers items hitems item (mem_sortItems.1 hitem)
    rw [((sortItems_perm _).map _).nodup_iff, map_fst_sortMembers]
    exact hnodup

/-- So can the elements. -/
theorem writable_sortElements (vs : List Json) (h : ∀ v ∈ vs, v.Writable) :
    ∀ v ∈ sortElements vs, v.Writable := by
  match vs with
  | [] => exact nofun
  | v :: vs =>
    obtain ⟨hv, hvs⟩ := List.forall_mem_cons.1 h
    exact List.forall_mem_cons.2 ⟨Writable.sortKeys v hv, writable_sortElements vs hvs⟩

/-- So can the members. -/
theorem writable_sortMembers (items : List (Text × Json))
    (h : ∀ item ∈ items, Encodable item.1 ∧ item.2.Writable) :
    ∀ item ∈ sortMembers items, Encodable item.1 ∧ item.2.Writable := by
  match items with
  | [] => exact nofun
  | (k, v) :: items =>
    obtain ⟨hitem, hitems⟩ := List.forall_mem_cons.1 h
    exact List.forall_mem_cons.2 ⟨⟨hitem.1, Writable.sortKeys v hitem.2⟩, writable_sortMembers items hitems⟩

end

mutual

/-- What is readable has finite numbers only. -/
theorem finite_of_readable (v : Json) (h : v.Readable) : v.finite = true := by
  match v with
  | .null | .bool _ | .int _ | .str _ => rfl
  | .float repr =>
    rw [Readable] at h
    rw [h]
    rfl
  | .array vs => exact finiteElements_of_readable vs h
  | .object items => exact finiteMembers_of_readable items h.2

/-- So have the elements. -/
theorem finiteElements_of_readable (vs : List Json) (h : ReadableElements vs) : finiteElements vs = true := by
  match vs with
  | [] => rfl
  | v :: vs => rw [finiteElements, finite_of_readable v h.1, finiteElements_of_readable vs h.2, Bool.and_self]

/-- So have the members. -/
theorem finiteMembers_of_readable (items : List (Text × Json)) (h : ReadableMembers items) :
    finiteMembers items = true := by
  match items with
  | [] => rfl
  | (k, v) :: items =>
    rw [finiteMembers, finite_of_readable v h.2.1, finiteMembers_of_readable items h.2.2, Bool.and_self]

end

mutual

/-- Keys that are sorted stay as they are. -/
theorem sortKeys_sortKeys (v : Json) : v.sortKeys.sortKeys = v.sortKeys := by
  match v with
  | .null | .bool _ | .int _ | .float _ | .str _ => rfl
  | .array vs =>
    rw [Json.sortKeys, Json.sortKeys, sortElements_sortElements vs]
  | .object items =>
    have hsorted : sortMembers (sortItems (sortMembers items)) = sortItems (sortMembers items) := by
      rw [sortMembers_eq (sortItems _)]
      refine (List.map_congr_left fun item hitem => ?_).trans (List.map_id _)
      exact Prod.ext rfl (sortKeys_sortMembers items item (mem_sortItems.1 hitem))
    rw [Json.sortKeys, Json.sortKeys, hsorted]
    exact congrArg Json.object (List.Pairwise.insertionSort_eq (List.pairwise_insertionSort _ _))

/-- Elements that are sorted in themselves stay so. -/
theorem sortElements_sortElements (vs : List Json) : sortElements (sortElements vs) = sortElements vs := by
  match vs with
  | [] => rfl
  | v :: vs => rw [sortElements, sortElements, sortKeys_sortKeys v, sortElements_sortElements vs]

/-- So do members. -/
theorem sortKeys_sortMembers (items : List (Text × Json)) :
    ∀ item ∈ sortMembers items, item.2.sortKeys = item.2 := by
  match items with
  | [] => exact fun _ h => absurd h List.not_mem_nil
  | (k, v) :: items => exact List.forall_mem_cons.2 ⟨sortKeys_sortKeys v, sortKeys_sortMembers items⟩

end

/-- `dumps` does not raise on what can be written. -/
theorem Writable.dumps {v : Json} (h : v.Writable) : v.dumps = some v.sortKeys.print :=
  if_pos (finite_of_readable v h.readable)

/-- A strict reader reads it back. -/
theorem Writable.loads {v : Json} (h : v.Writable) (F : FloatReader) : loads F v.print = some v := by
  have hread := readText_print (t := []) (R := F.strict) h.readable (by simp)
  rwa [List.append_nil, norm_eq_self v h.encodable] at hread

/-! ## One line -/

section Line

variable {L : Layout}

/-- Without an indent there are no line breaks. -/
theorem newline_none (hL : L.indent = none) (level : ℕ) : L.newline level = [] := by
  rw [Layout.newline, hL]

mutual

/-- Without line breaks the level does not matter. -/
theorem write_level (hL : L.indent = none) (m n : ℕ) (v : Json) : v.write L m = v.write L n := by
  match v with
  | .null | .bool true | .bool false | .int _ | .float _ | .str _ | .array [] | .object [] => rfl
  | .array (v :: vs) =>
    rw [write, write, newline_none hL, newline_none hL, write_level hL (m + 1) (n + 1) v,
      writeElements_level hL m n vs]
  | .object ((k, v) :: items) =>
    rw [write, write, newline_none hL, newline_none hL, write_level hL (m + 1) (n + 1) v,
      writeMembers_level hL m n items]

/-- Without an indent the level of an array does not matter. -/
theorem writeElements_level (hL : L.indent = none) (m n : ℕ) (vs : List Json) :
    writeElements L m vs = writeElements L n vs := by
  match vs with
  | [] => rw [writeElements, writeElements, newline_none hL, newline_none hL]
  | v :: vs =>
    rw [writeElements, writeElements, newline_none hL, newline_none hL, write_level hL (m + 1) (n + 1) v,
      writeElements_level hL m n vs]

/-- Nor does that of an object. -/
theorem writeMembers_level (hL : L.indent = none) (m n : ℕ) (items : List (Text × Json)) :
    writeMembers L m items = writeMembers L n items := by
  match items with
  | [] => rw [writeMembers, writeMembers, newline_none hL, newline_none hL]
  | (k, v) :: items =>
    rw [writeMembers, writeMembers, newline_none hL, newline_none hL, write_level hL (m + 1) (n + 1) v,
      writeMembers_level hL m n items]

end

/-- A member within the text of the first one and of those behind it. -/
theorem infix_members (hL : L.indent = none) {level : ℕ} {first item : Text × Json} {items : List (Text × Json)}
    (h : item ∈ first :: items) : item.2.write L level <:+: L.newline (level + 1) ++ (L.writeString first.1 ++
      (L.colon ++ (first.2.write L (level + 1) ++ writeMembers L level items))) := by
  refine List.infix_append_of_infix_right (List.infix_append_of_infix_right (List.infix_append_of_infix_right ?_))
  induction items generalizing first with
  | nil =>
    rw [List.mem_singleton.1 h, write_level hL (level + 1) level]
    exact List.infix_append_left
  | cons next items ih =>
    rcases List.mem_cons.1 h with rfl | h
    · rw [write_level hL (level + 1) level]
      exact List.infix_append_left
    · refine List.infix_append_of_infix_right (List.infix_cons ?_)
      exact List.infix_append_of_infix_right (List.infix_append_of_infix_right
        (List.infix_append_of_infix_right (ih h)))

/-- Without an indent a member stands in its object as it is written alone. -/
theorem write_infix (hL : L.indent = none) (level : ℕ) {items : List (Text × Json)} {item : Text × Json}
    (h : item ∈ items) : item.2.write L level <:+: (Json.object items).write L level := by
  match items with
  | [] => cases h
  | (k, v) :: items =>
    rw [write]
    exact List.infix_cons (infix_members hL h)

end Line

end Json

end Subgen
