import Mathlib.Logic.Function.Basic
import Subgen.Lib.PaddedNumbers
import Subgen.Lib.Script
import Subgen.Lib.Storage
import Subgen.Publication.Chain

/-!
# The files of the publication journal

The directory of the journal while receipts are appended to it: names that lead to files, and how many
of them lead to each. Only the journal changes it. A call of the system may fail, and then does nothing,
except that a write may have put any beginning of its bytes into the file.

Receipts are numbered. They are listed in the order of their names, which is that of the numbers as long
as these have eight digits.

* `JournalFiles.run`: what a call does;
* `LooksLike`: what a directory looks like, whatever its files are (`Shape`), with a rule for each call.
-/

namespace Subgen

open Relation

/-- The names in the directory. -/
inductive JournalName
  | head
  | headNext
  | headNextStaged
  | transaction
  | transactionStaged
  | receipt (n : ℕ)
  | receiptStaged (n : ℕ)
  deriving DecidableEq

/-- The system calls of the journal. -/
inductive JournalCall
  | lstat (name : JournalName)
  /-- `open`, `fstat`, `read` and `close`. -/
  | read (name : JournalName)
  | create (name : JournalName)
  | chmod (name : JournalName)
  | write (name : JournalName) (payload : List ℕ)
  | sync (name : JournalName)
  | link (source target : JournalName)
  | unlink (name : JournalName)
  | replace (source target : JournalName)
  | fsync
  /-- `glob("checkpoint-*.json")`, sorted. -/
  | receipts
  /-- `glob(".checkpoint-*.staged.json")`, sorted. -/
  | stagedReceipts

/-- What a call returns: a file with its number, or the numbers of receipts. -/
abbrev JournalCall.Reply : JournalCall → Type
  | .lstat _ => ℕ × Inode
  | .read _ => Inode
  | .receipts | .stagedReceipts => List ℕ
  | _ => Unit

/-- What a call ends with: its reply or an `OSError`. -/
abbrev JournalCall.Answer (o : JournalCall) : Type := Except FileError o.Reply

/-- The number of a receipt, for its names. -/
def JournalName.number : JournalName → ℕ
  | .receipt n => n
  | .receiptStaged n => n
  | _ => 0

/-- No name has a number, and no file has a number, from `bound` or `fresh` on. -/
structure JournalFiles where
  entries : JournalName → Option ℕ
  inodes : ℕ → Inode
  fresh : ℕ
  bound : ℕ
  bounded : ∀ name, bound ≤ name.number → entries name = none
  known : ∀ name i, entries name = some i → i < fresh

namespace JournalFiles

variable (w : JournalFiles)

/-- The name leads to the file. -/
def put (name : JournalName) (i : ℕ) (hi : i < w.fresh) : JournalFiles where
  entries := Function.update w.entries name (some i)
  inodes := w.inodes
  fresh := w.fresh
  bound := max w.bound (name.number + 1)
  bounded name' h := by
    have hne : name' ≠ name := by
      rintro rfl
      omega
    rw [Function.update_of_ne hne]
    exact w.bounded name' (le_trans (le_max_left _ _) h)
  known name' j h := by
    by_cases hname : name' = name
    · rw [hname, Function.update_self] at h
      exact Option.some.inj h ▸ hi
    · rw [Function.update_of_ne hname] at h
      exact w.known name' j h

/-- The name leads nowhere. -/
def drop (name : JournalName) : JournalFiles where
  entries := Function.update w.entries name none
  inodes := w.inodes
  fresh := w.fresh
  bound := w.bound
  bounded name' h := by
    by_cases hname : name' = name
    · rw [hname, Function.update_self]
    · rw [Function.update_of_ne hname]
      exact w.bounded name' h
  known name' j h := by
    by_cases hname : name' = name
    · rw [hname, Function.update_self] at h
      cases h
    · rw [Function.update_of_ne hname] at h
      exact w.known name' j h

/-- The file is changed. -/
def change (i : ℕ) (f : Inode) : JournalFiles := { w with inodes := Function.update w.inodes i f }

/-- There is room for another file. -/
def grow : JournalFiles :=
  { w with
    fresh := w.fresh + 1
    known := fun name i h => (w.known name i h).trans (Nat.lt_succ_self _) }

/-- Names of eight digits are in the order of their numbers. -/
theorem receiptName_lt {m n : ℕ} (hn : n < 10 ^ 8) (h : m < n) : receiptName m < receiptName n := by
  have happend : ∀ {s t u : Text}, t < u → s ++ t < s ++ u := by
    intro s t u htu
    induction s with
    | nil => exact htu
    | cons c s ih => exact List.cons_lt_cons_iff.2 (.inr ⟨rfl, ih⟩)
  rw [receiptName, receiptName, List.append_assoc, List.append_assoc]
  exact happend (Json.padded_lt (by decide) hn h _ _)

/-- A file with so many names, which only the service user may open. -/
def ownFile (links : ℕ) (content : List ℕ) : Inode := ⟨true, links, true, true, true, content⟩

/-- The file is given another name, or loses one. -/
def relink (i : ℕ) (links : ℕ → ℕ) : JournalFiles :=
  w.change i { w.inodes i with links := links (w.inodes i).links }

/-- The numbers of the names of one kind, in the order of the names. -/
def numbers (name : ℕ → JournalName) : List ℕ :=
  ((List.range w.bound).filter fun n => (w.entries (name n)).isSome).insertionSort
    fun m n => receiptName m ≤ receiptName n

/-- The file that a name leads to. -/
def found {α : Type} (name : JournalName) (look : ℕ → α) : Except FileError α :=
  match w.entries name with
  | none => .error .notFound
  | some i => .ok (look i)

/-- What a call does that does not fail for another reason. -/
def run : (o : JournalCall) → o.Answer × JournalFiles
  | .lstat name => (w.found name fun i => (i, w.inodes i), w)
  | .read name => (w.found name w.inodes, w)
  | .create name =>
    if (w.entries name).isSome then (.error .exists, w)
    else (.ok (), (w.grow.change w.fresh (ownFile 1 [])).put name w.fresh (Nat.lt_succ_self _))
  | .chmod _ => (.ok (), w)
  | .write name payload =>
    match w.entries name with
    | none => (.error .other, w)
    | some i => (.ok (), w.change i { w.inodes i with content := (w.inodes i).content ++ payload })
  | .sync _ => (.ok (), w)
  | .link source target =>
    match h : w.entries source with
    | none => (.error .notFound, w)
    | some i =>
      if (w.entries target).isSome then (.error .exists, w)
      else (.ok (), (w.relink i (· + 1)).put target i (w.known source i h))
  | .unlink name =>
    match w.entries name with
    | none => (.error .notFound, w)
    | some i => (.ok (), (w.relink i (· - 1)).drop name)
  | .replace source target =>
    match h : w.entries source with
    | none => (.error .notFound, w)
    | some i =>
      match w.entries target with
      | none => (.ok (), (w.put target i (w.known source i h)).drop source)
      | some j =>
        if i = j then (.ok (), w)
        else (.ok (), ((w.relink j (· - 1)).put target i (w.known source i h)).drop source)
  | .fsync => (.ok (), w)
  | .receipts => (.ok (w.numbers .receipt), w)
  | .stagedReceipts => (.ok (w.numbers .receiptStaged), w)

/-- An empty directory. -/
def empty : JournalFiles where
  entries _ := none
  inodes _ := ownFile 0 []
  fresh := 0
  bound := 0
  bounded _ _ := rfl
  known _ _ h := by cases h

end JournalFiles

/-- A write that fails. -/
inductive Interrupted : JournalFiles → (o : JournalCall) → JournalFiles → Prop
  | before (w : JournalFiles) (o : JournalCall) : Interrupted w o w
  | within (w : JournalFiles) (name : JournalName) {payload written : List ℕ} (h : written <+: payload) :
    Interrupted w (.write name payload) (w.run (.write name written)).2

/-- Where a call is not a write, it does nothing when it fails. -/
theorem Interrupted.eq {w w' : JournalFiles} {o : JournalCall} (h : Interrupted w o w') (ho : ∀ name payload, o ≠ .write name payload) :
    w' = w := by
  cases h with
  | before => rfl
  | within name h => exact absurd rfl (ho name _)

/-- Calls may fail, and a process may be stopped, if `faulty` holds. -/
def crashing (faulty : Prop) : Setting JournalFiles JournalCall JournalCall.Answer where
  answers w o r w' := w.run o = (r, w') ∨ (faulty ∧ r = .error .other ∧ Interrupted w o w')
  others _ _ := False
  stops w w' := faulty ∧ w' = w

/-! ## What a directory looks like -/

/-- The contents by name, and the two names of one file, if there are two. -/
structure Shape where
  files : JournalName → Option (List ℕ)
  twins : Option (JournalName × JournalName)

/-- How many names the file of a name has. -/
def Shape.links (d : Shape) (name : JournalName) : ℕ :=
  if ∃ pair, d.twins = some pair ∧ (name = pair.1 ∨ name = pair.2) then 2 else 1

/-- The directory looks like this. -/
structure LooksLike (w : JournalFiles) (d : Shape) : Prop where
  view : ∀ a, (w.entries a).map w.inodes = (d.files a).map (JournalFiles.ownFile (d.links a))
  distinct : ∀ a b i, w.entries a = some i → w.entries b = some i →
    a = b ∨ d.twins = some (a, b) ∨ d.twins = some (b, a)
  twins : ∀ a b, d.twins = some (a, b) → a ≠ b ∧ ∃ i, w.entries a = some i ∧ w.entries b = some i

namespace LooksLike

open JournalFiles Function

variable {w : JournalFiles} {files : JournalName → Option (List ℕ)} {a b : JournalName} {x : List ℕ}
  {pair : Option (JournalName × JournalName)}

theorem links_none (a : JournalName) : (⟨files, none⟩ : Shape).links a = 1 := by
  rw [Shape.links, if_neg]
  rintro ⟨pair, hpair, _⟩
  cases hpair

theorem links_some (a b c : JournalName) :
    (⟨files, some (a, b)⟩ : Shape).links c = if c = a ∨ c = b then 2 else 1 := by
  rw [Shape.links]
  refine if_congr ⟨?_, fun h => ⟨(a, b), rfl, h⟩⟩ rfl rfl
  rintro ⟨_, hpair, h⟩
  cases hpair
  exact h

theorem entry_none (h : LooksLike w ⟨files, pair⟩) (ha : files a = none) : w.entries a = none := by
  have hview : _ = (files a).map _ := h.view a
  rwa [ha, Option.map_none, Option.map_eq_none_iff] at hview

theorem entry_some (h : LooksLike w ⟨files, pair⟩) (ha : files a = some x) :
    ∃ i, w.entries a = some i ∧ w.inodes i = ownFile ((⟨files, pair⟩ : Shape).links a) x := by
  have hview : _ = (files a).map _ := h.view a
  rwa [ha, Option.map_some, Option.map_eq_some_iff] at hview

/-- Without a file of two names, each name has its own. -/
theorem eq_of_entry (h : LooksLike w ⟨files, none⟩) {i : ℕ} (ha : w.entries a = some i) (hb : w.entries b = some i) :
    a = b := by
  rcases h.distinct a b i ha hb with heq | heq | heq
  · exact heq
  · cases heq
  · cases heq

theorem create (h : LooksLike w ⟨files, none⟩) (ha : files a = none) :
    ∃ w', w.run (.create a) = (.ok (), w') ∧ LooksLike w' ⟨update files a (some []), none⟩ := by
  have hentry := h.entry_none ha
  refine ⟨_, if_neg (by rw [hentry]; exact Bool.false_ne_true), ⟨fun c => ?_, fun c d i hc hd => ?_, ?_⟩⟩
  · by_cases hc : c = a
    · subst hc
      simp [put, change, grow, links_none]
    · have hview := h.view c
      rw [links_none] at hview ⊢
      simp only [put, change, grow, update_of_ne hc]
      rw [← hview]
      refine Option.map_congr fun i hi => ?_
      rw [update_of_ne (w.known c i hi).ne]
  · simp only [put, change, grow] at hc hd
    by_cases hca : c = a <;> by_cases hda : d = a
    · exact .inl (hca.trans hda.symm)
    · rw [hca, update_self] at hc
      rw [update_of_ne hda] at hd
      exact absurd (w.known d i hd) (by rw [← Option.some.inj hc]; exact lt_irrefl _)
    · rw [update_of_ne hca] at hc
      rw [hda, update_self] at hd
      exact absurd (w.known c i hc) (by rw [← Option.some.inj hd]; exact lt_irrefl _)
    · rw [update_of_ne hca] at hc
      rw [update_of_ne hda] at hd
      exact .inl (h.eq_of_entry hc hd)
  · rintro _ _ ⟨⟩

theorem write (h : LooksLike w ⟨files, none⟩) (ha : files a = some x) (payload : List ℕ) :
    ∃ w', w.run (.write a payload) = (.ok (), w') ∧ LooksLike w' ⟨update files a (some (x ++ payload)), none⟩ := by
  obtain ⟨i, hentry, hfile⟩ := h.entry_some ha
  refine ⟨w.change i { w.inodes i with content := (w.inodes i).content ++ payload }, ?_, ?_, ?_, ?_⟩
  · simp only [run, hentry]
  · intro c
    rw [links_none]
    by_cases hc : c = a
    · subst hc
      simp [change, hentry, hfile, ownFile, links_none]
    · have hview := h.view c
      rw [links_none] at hview
      simp only [change, update_of_ne hc]
      rw [← hview]
      refine Option.map_congr fun j hj => ?_
      rw [update_of_ne fun hji : j = i => hc (h.eq_of_entry (hji ▸ hj) hentry)]
  · exact fun c d j hc hd => .inl (h.eq_of_entry hc hd)
  · rintro _ _ ⟨⟩

theorem link (h : LooksLike w ⟨files, none⟩) (ha : files a = some x) (hb : files b = none) :
    ∃ w', w.run (.link a b) = (.ok (), w') ∧ LooksLike w' ⟨update files b (some x), some (a, b)⟩ := by
  obtain ⟨i, hentry, hfile⟩ := h.entry_some ha
  have htarget := h.entry_none hb
  have hab : a ≠ b := by
    rintro rfl
    cases ha.symm.trans hb
  refine ⟨(w.relink i (· + 1)).put b i (w.known a i hentry), ?_, ?_, ?_, ?_⟩
  · rw [run]
    split
    · next hnone => cases hnone.symm.trans hentry
    · next j hj =>
      obtain rfl := Option.some.inj (hj.symm.trans hentry)
      rw [if_neg (by rw [htarget]; exact Bool.false_ne_true)]
  · -- Under every name the shape shows the file and the count of its links.
    intro c
    rw [links_some]
    by_cases hcb : c = b
    · subst hcb
      simp [put, relink, change, hfile, ownFile, links_none]
    · by_cases hca : c = a
      · subst hca
        simp [put, relink, change, hcb, hentry, ha, hfile, ownFile, links_none]
      · have hview := h.view c
        rw [links_none] at hview
        simp only [put, relink, change, update_of_ne hcb, hca, hcb, or_self, if_false]
        rw [← hview]
        refine Option.map_congr fun j hj => ?_
        rw [update_of_ne fun hji : j = i => hca (h.eq_of_entry (hji ▸ hj) hentry)]
  · -- Only the two names of the link share a file.
    intro c d j hc hd
    simp only [put, relink, change] at hc hd
    by_cases hcb : c = b <;> by_cases hdb : d = b
    · exact .inl (hcb.trans hdb.symm)
    · subst hcb
      rw [update_self] at hc
      rw [update_of_ne hdb] at hd
      obtain rfl := Option.some.inj hc
      exact .inr (.inr (by rw [h.eq_of_entry hd hentry]))
    · subst hdb
      rw [update_self] at hd
      rw [update_of_ne hcb] at hc
      obtain rfl := Option.some.inj hd
      exact .inr (.inl (by rw [h.eq_of_entry hc hentry]))
    · rw [update_of_ne hcb] at hc
      rw [update_of_ne hdb] at hd
      exact .inl (h.eq_of_entry hc hd)
  · -- The names that are linked are two, and lead to the same file.
    rintro c d ⟨⟩
    refine ⟨hab, i, ?_, ?_⟩
    · simp only [put, relink, change]
      rw [update_of_ne hab, hentry]
    · simp only [put, relink, change]
      rw [update_self]

/-- The first of two names is taken away. -/
theorem unlink_twins (h : LooksLike w ⟨files, some (a, b)⟩) :
    ∃ w', w.run (.unlink a) = (.ok (), w') ∧ LooksLike w' ⟨update files a none, none⟩ := by
  obtain ⟨hab, i, ha, hb⟩ := h.twins a b rfl
  -- Only the two names lead to the inode that loses a link.
  have htwins : ∀ {c j}, w.entries c = some j → j = i → c = a ∨ c = b := by
    rintro c _ hc rfl
    rcases h.distinct c a _ hc ha with heq | heq | heq
    · exact .inl heq
    · exact .inl (congrArg Prod.fst (Option.some.inj heq)).symm
    · exact .inr (congrArg Prod.snd (Option.some.inj heq)).symm
  refine ⟨(w.relink i (· - 1)).drop a, by simp only [run, ha], fun c => ?_, fun c d j hc hd => ?_, ?_⟩
  · rw [links_none]
    by_cases hca : c = a
    · subst hca
      simp [drop]
    · -- The other name keeps the file, and stands for it alone from now on.
      have hview : _ = (files c).map _ := h.view c
      simp only [drop, relink, change, update_of_ne hca]
      by_cases hcb : c = b
      · subst hcb
        rw [links_some, if_pos (.inr rfl), hb, Option.map_some] at hview
        obtain ⟨x, hx, hfile⟩ := Option.map_eq_some_iff.1 hview.symm
        simp [hb, hx, ← hfile, ownFile]
      · rw [links_some, if_neg (by simp [hca, hcb])] at hview
        rw [← hview]
        refine Option.map_congr fun j hj => ?_
        rw [update_of_ne fun hji : j = i => (htwins hj hji).elim hca hcb]
  · simp only [drop, relink, change] at hc hd
    have hne : ∀ {e}, update w.entries a none e = some j → e ≠ a ∧ w.entries e = some j := by
      intro e he
      by_cases hea : e = a
      · rw [hea, update_self] at he
        cases he
      · rw [update_of_ne hea] at he
        exact ⟨hea, he⟩
    obtain ⟨hca, hc⟩ := hne hc
    obtain ⟨hda, hd⟩ := hne hd
    rcases h.distinct c d j hc hd with heq | heq | heq
    · exact .inl heq
    · exact absurd (congrArg Prod.fst (Option.some.inj heq)).symm hca
    · exact absurd (congrArg Prod.fst (Option.some.inj heq)).symm hda
  · rintro _ _ ⟨⟩

/-- What is left of names that are distinct, when one is taken away. -/
theorem eq_of_drop (h : LooksLike w ⟨files, none⟩) {c d : JournalName} {j : ℕ}
    (hc : update w.entries a none c = some j) (hd : update w.entries a none d = some j) : c = d := by
  have hne : ∀ {e}, update w.entries a none e = some j → w.entries e = some j := by
    intro e he
    by_cases hea : e = a
    · rw [hea, update_self] at he
      cases he
    · rwa [update_of_ne hea] at he
  exact h.eq_of_entry (hne hc) (hne hd)

theorem unlink (h : LooksLike w ⟨files, none⟩) (ha : files a = some x) :
    ∃ w', w.run (.unlink a) = (.ok (), w') ∧ LooksLike w' ⟨update files a none, none⟩ := by
  obtain ⟨i, hentry, hfile⟩ := h.entry_some ha
  refine ⟨(w.relink i (· - 1)).drop a, by simp only [run, hentry], fun c => ?_, fun c d j hc hd => ?_, ?_⟩
  · rw [links_none]
    by_cases hca : c = a
    · subst hca
      simp [drop]
    · have hview : _ = (files c).map _ := h.view c
      rw [links_none] at hview
      simp only [drop, relink, change, update_of_ne hca]
      rw [← hview]
      refine Option.map_congr fun j hj => ?_
      rw [update_of_ne fun hji : j = i => hca (h.eq_of_entry (hji ▸ hj) hentry)]
  · exact .inl (h.eq_of_drop hc hd)
  · rintro _ _ ⟨⟩

theorem replace (h : LooksLike w ⟨files, none⟩) (ha : files a = some x) (hab : a ≠ b) :
    ∃ w', w.run (.replace a b) = (.ok (), w') ∧ LooksLike w' ⟨update (update files b (some x)) a none, none⟩ := by
  obtain ⟨i, hentry, hfile⟩ := h.entry_some ha
  -- The file that had the name before may be without one now.
  have hshows : ∀ v : JournalFiles, v.entries = w.entries → (∀ c j, c ≠ b → w.entries c = some j →
      v.inodes j = w.inodes j) → ∀ hi, LooksLike ((v.put b i hi).drop a) ⟨update (update files b (some x)) a none, none⟩ := by
    intro v hentries hinodes hi
    have hupdate : ((v.put b i hi).drop a).entries = update (update w.entries b (some i)) a none := by
      rw [← hentries]
      rfl
    refine ⟨fun c => ?_, fun c d j hc hd => ?_, ?_⟩
    · rw [links_none, hupdate]
      by_cases hca : c = a
      · subst hca
        simp
      · by_cases hcb : c = b
        · subst hcb
          simp [hca, drop, put, hinodes a i hab hentry, hfile, links_none]
        · have hview : _ = (files c).map _ := h.view c
          rw [links_none] at hview
          simp only [update_of_ne hca, update_of_ne hcb]
          rw [← hview]
          exact Option.map_congr fun j hj => hinodes c j hcb hj
    · rw [hupdate] at hc hd
      have hcases : ∀ {e}, update (update w.entries b (some i)) a none e = some j →
          e = b ∧ j = i ∨ e ≠ b ∧ e ≠ a ∧ w.entries e = some j := by
        intro e he
        by_cases hea : e = a
        · rw [hea, update_self] at he
          cases he
        · rw [update_of_ne hea] at he
          by_cases heb : e = b
          · rw [heb, update_self] at he
            exact .inl ⟨heb, (Option.some.inj he).symm⟩
          · rw [update_of_ne heb] at he
            exact .inr ⟨heb, hea, he⟩
      rcases hcases hc with ⟨hcb, hci⟩ | ⟨hcb, hca, hc'⟩ <;> rcases hcases hd with ⟨hdb, hdi⟩ | ⟨hdb, hda, hd'⟩
      · exact .inl (hcb.trans hdb.symm)
      · exact absurd (h.eq_of_entry hd' (hci ▸ hentry)) hda
      · exact absurd (h.eq_of_entry hc' (hdi ▸ hentry)) hca
      · exact .inl (h.eq_of_entry hc' hd')
    · rintro _ _ ⟨⟩
  rcases htarget : w.entries b with _ | j
  · refine ⟨(w.put b i (w.known a i hentry)).drop a, ?_, hshows w rfl (fun _ _ _ _ => rfl) _⟩
    rw [run]
    split
    · next hnone => cases hnone.symm.trans hentry
    · next k hk =>
      obtain rfl := Option.some.inj (hk.symm.trans hentry)
      rw [htarget]
  · have hij : i ≠ j := by
      rintro rfl
      exact hab (h.eq_of_entry hentry htarget)
    refine ⟨((w.relink j (· - 1)).put b i (w.known a i hentry)).drop a, ?_,
      hshows (w.relink j (· - 1)) rfl (fun c k hc hk => ?_) _⟩
    · rw [run]
      split
      · next hnone => cases hnone.symm.trans hentry
      · next k hk =>
        obtain rfl := Option.some.inj (hk.symm.trans hentry)
        rw [htarget]
        exact if_neg hij
    · exact update_of_ne (fun hkj : k = j => hc (h.eq_of_entry (hkj ▸ hk) htarget)) ..

/-- The files that a name may lead to. -/
theorem lstat_none (h : LooksLike w ⟨files, pair⟩) (ha : files a = none) :
    w.run (.lstat a) = (.error .notFound, w) := by
  simp only [run, found, h.entry_none ha]

theorem lstat_some (h : LooksLike w ⟨files, pair⟩) (ha : files a = some x) :
    ∃ i, w.entries a = some i ∧
      w.run (.lstat a) = (.ok (i, ownFile ((⟨files, pair⟩ : Shape).links a) x), w) := by
  obtain ⟨i, hentry, hfile⟩ := h.entry_some ha
  exact ⟨i, hentry, by simp only [run, found, hentry, hfile]⟩

theorem read (h : LooksLike w ⟨files, pair⟩) (ha : files a = some x) :
    w.run (.read a) = (.ok (ownFile ((⟨files, pair⟩ : Shape).links a) x), w) := by
  obtain ⟨i, hentry, hfile⟩ := h.entry_some ha
  simp only [run, found, hentry, hfile]

/-- The numbers of the names of one kind, which have eight digits. -/
theorem numbers_eq (h : LooksLike w ⟨files, pair⟩) {name : ℕ → JournalName} (hname : ∀ n, (name n).number = n)
    {l : List ℕ} (hl : l.Pairwise (· < ·)) (hdigits : ∀ n ∈ l, n < 10 ^ 8)
    (hfiles : ∀ n, files (name n) ≠ none ↔ n ∈ l) : w.numbers name = l := by
  have hmem : ∀ n, n ∈ (List.range w.bound).filter (fun n => (w.entries (name n)).isSome) ↔ n ∈ l := by
    intro n
    rw [List.mem_filter, List.mem_range, ← hfiles, Option.isSome_iff_ne_none]
    have hentry : w.entries (name n) = none ↔ files (name n) = none := by
      have hview : _ = (files (name n)).map _ := h.view (name n)
      rw [← Option.map_eq_none_iff, hview, Option.map_eq_none_iff]
    rw [Ne, hentry, and_iff_right_iff_imp]
    intro hne
    by_contra hbound
    exact hne (hentry.1 (w.bounded _ (by rw [hname]; exact not_lt.1 hbound)))
  have hsorted : ((List.range w.bound).filter fun n => (w.entries (name n)).isSome).Pairwise (· < ·) :=
    List.pairwise_lt_range.filter _
  have heq : (List.range w.bound).filter (fun n => (w.entries (name n)).isSome) = l := by
    refine List.Perm.eq_of_pairwise' (hsorted.imp le_of_lt) (hl.imp le_of_lt) ?_
    exact (List.perm_ext_iff_of_nodup (hsorted.imp ne_of_lt) (hl.imp ne_of_lt)).2 hmem
  rw [numbers, heq]
  refine List.Pairwise.insertionSort_eq (hl.imp_of_mem fun {m n} _ hn hlt => ?_)
  exact (receiptName_lt (hdigits n hn) hlt).le

end LooksLike

end Subgen
