import Subgen.Lib.Procedure
import Subgen.Lib.Lines

/-!
# A file that may fail

A file is its content, the position of its handle, and a schedule of faults: every
operation takes the next entry of the schedule, and raises if there is a fault in it.
A fault says how much of the operation took effect before it raised, so that a write
may end after any byte of what it was given. Nothing is assumed of the schedule; the
rules below say what an operation does, whatever its entry is.

* `ensures_operation`: both ends of an operation;
* `operation_of_calm`: an operation on a file with no faults left;
* `base <+: s.content`: the bytes `base` are still there, which is what the rules for
  `seek`, `truncate` and `write` keep of a file that is only written behind them.
-/

namespace Subgen

open Procedure Lines

/-- `FileNotFoundError`, `FileExistsError` and the other kinds of `OSError`. -/
inductive FileError
  | notFound
  | exists
  | other
  deriving DecidableEq

/-- An operation that raises `error`, after `done` units of it took effect. -/
structure Fault (ε : Type) where
  error : ε
  done : ℕ

/-- A file open for reading and writing. -/
structure Storage (ε : Type) where
  content : List UInt8
  position : ℕ
  faults : List (Option (Fault ε))

namespace Storage

variable {ε α : Type}

/-- The handle at another position. -/
def moved (n : ℕ) (s : Storage ε) : Storage ε := { s with position := n }

/-- The file cut down, or filled up with zeros, to `n` bytes. -/
def cut (n : ℕ) (s : Storage ε) : Storage ε :=
  { s with content := s.content.take n ++ List.replicate (n - s.content.length) 0 }

/-- The bytes written over the file at the position, which moves behind them. -/
def written (bytes : List UInt8) (s : Storage ε) : Storage ε :=
  { s with
    content := s.content.take s.position ++ List.replicate (s.position - s.content.length) 0 ++
      bytes ++ s.content.drop (s.position + bytes.length)
    position := s.position + bytes.length }

/-- An operation, with what it does up to a fault and what it does without one. -/
def operation (partly : ℕ → Storage ε → Storage ε) (result : Storage ε → α)
    (effect : Storage ε → Storage ε) : EStateM ε (Storage ε) α := fun s =>
  match s.faults with
  | [] => .ok (result s) (effect s)
  | none :: rest => .ok (result s) (effect { s with faults := rest })
  | some fault :: rest => .error fault.error (partly fault.done { s with faults := rest })

/-- `seek`, to an absolute position. -/
def seek (n : ℕ) : EStateM ε (Storage ε) Unit :=
  operation (fun k s => if k = 0 then s else s.moved n) (fun _ => ()) (moved n)

/-- `truncate`, to a length. -/
def truncate (n : ℕ) : EStateM ε (Storage ε) Unit :=
  operation (fun k s => if k = 0 then s else s.cut n) (fun _ => ()) (cut n)

/-- `write`, at the position. -/
def write (bytes : List UInt8) : EStateM ε (Storage ε) Unit :=
  operation (fun k s => s.written (bytes.take k)) (fun _ => ()) (written bytes)

/-- An operation with no effect on what is read from the file. -/
def settle : EStateM ε (Storage ε) Unit := operation (fun _ s => s) (fun _ => ()) id

/-- `tell`. -/
def tell : EStateM ε (Storage ε) ℕ := operation (fun _ s => s) position id

/-- At most `n` bytes from the position on. -/
def ahead (n : ℕ) (s : Storage ε) : List UInt8 := (s.content.drop s.position).take n

/-- `read`, from the position on. -/
def read (n : ℕ) : EStateM ε (Storage ε) (List UInt8) :=
  operation (fun _ s => s) (ahead n) fun s => s.moved (s.position + (s.ahead n).length)

/-- At most `n` bytes, up to and with the first `sep`. -/
def readUpTo (sep : UInt8) (n : ℕ) : EStateM ε (Storage ε) (List UInt8) :=
  operation (fun _ s => s) (fun s => upTo sep (s.ahead n)) fun s =>
    s.moved (s.position + (upTo sep (s.ahead n)).length)

variable {s : Storage ε} {partly : ℕ → Storage ε → Storage ε} {result : Storage ε → α}
  {effect : Storage ε → Storage ε}

/-- Both ends of an operation: the schedule it leaves is not known. -/
theorem ensures_operation {Q : α → Storage ε → Prop} {E : ε → Storage ε → Prop}
    (hok : ∀ faults, Q (result s) (effect { s with faults := faults }))
    (hfault : ∀ (fault : Fault ε) faults,
      E fault.error (partly fault.done { s with faults := faults })) :
    Ensures (operation partly result effect) s Q E := by
  rw [Ensures, operation]
  rcases h : s.faults with _ | ⟨_ | fault, rest⟩
  · have heq : { s with faults := [] } = s := by rw [← h]
    have hnone := hok []
    rw [heq] at hnone
    exact hnone
  · exact hok rest
  · exact hfault fault rest

/-- Without faults an operation has its effect. -/
theorem operation_of_calm (h : s.faults = []) :
    operation partly result effect s = .ok (result s) (effect s) := by
  rw [operation, h]

theorem ensures_of_calm {Q : α → Storage ε → Prop} {E : ε → Storage ε → Prop} (h : s.faults = []) :
    Ensures (operation partly result effect) s Q E ↔ Q (result s) (effect s) :=
  ensures_of_ok (operation_of_calm h)

/-- A file with no faults left keeps none. -/
theorem preserves_calm (heffect : ∀ s, (effect s).faults = s.faults) :
    Preserves (fun s : Storage ε => s.faults = []) (operation partly result effect) :=
  fun s hs => (ensures_of_calm hs).2 ((heffect s).trans hs)

theorem calm_seek (n : ℕ) : Preserves (fun s : Storage ε => s.faults = []) (seek n) :=
  preserves_calm fun _ => rfl

theorem calm_truncate (n : ℕ) : Preserves (fun s : Storage ε => s.faults = []) (truncate n) :=
  preserves_calm fun _ => rfl

theorem calm_write (bytes : List UInt8) :
    Preserves (fun s : Storage ε => s.faults = []) (write bytes) := preserves_calm fun _ => rfl

theorem calm_settle : Preserves (fun s : Storage ε => s.faults = []) settle :=
  preserves_calm fun _ => rfl

theorem calm_tell : Preserves (fun s : Storage ε => s.faults = []) tell :=
  preserves_calm fun _ => rfl

/-! ## Bytes that stay -/

section Keep

variable {base : List UInt8}

theorem prefix_cut (h : base <+: s.content) : (s.cut base.length).content = base := by
  obtain ⟨tail, h⟩ := h
  rw [cut, ← h]
  simp

theorem prefix_written {bytes : List UInt8} (h : base <+: s.content)
    (hp : base.length ≤ s.position) : base <+: (s.written bytes).content := by
  obtain ⟨tail, h⟩ := h
  rw [written, ← h, List.take_append, List.take_of_length_le hp, List.append_assoc,
    List.append_assoc, List.append_assoc]
  exact List.prefix_append _ _

theorem written_of_eq {bytes : List UInt8} (hp : s.position = s.content.length) :
    (s.written bytes).content = s.content ++ bytes := by
  rw [written, hp]
  simp

theorem seek_spec (h : base <+: s.content) :
    Ensures (seek base.length) s (fun _ s' => base <+: s'.content ∧ s'.position = base.length)
      (fun _ s' => base <+: s'.content) := by
  refine ensures_operation (fun _ => ⟨h, rfl⟩) fun fault _ => ?_
  split_ifs
  · exact h
  · exact h

theorem truncate_spec (h : base <+: s.content) (hp : s.position = base.length) :
    Ensures (truncate base.length) s
      (fun _ s' => s'.content = base ∧ s'.position = base.length)
      (fun _ s' => base <+: s'.content) := by
  refine ensures_operation (fun _ => ⟨prefix_cut h, hp⟩) fun fault faults => ?_
  split_ifs
  · exact h
  · exact ⟨[], by rw [List.append_nil, prefix_cut (s := { s with faults := faults }) h]⟩

/-- A write at the end of the file appends, or appends a part. -/
theorem write_spec {bytes : List UInt8} (h : base <+: s.content)
    (hp : s.position = s.content.length) :
    Ensures (write bytes) s
      (fun _ s' => s'.content = s.content ++ bytes ∧ s'.position = s'.content.length)
      (fun _ s' => base <+: s'.content) := by
  refine ensures_operation (fun faults => ⟨written_of_eq hp, ?_⟩) fun fault faults => ?_
  · rw [written_of_eq (s := { s with faults := faults }) hp, List.length_append, ← hp]
    rfl
  · exact prefix_written h (hp ▸ h.length_le)

theorem settle_spec : Ensures (settle (ε := ε)) s
    (fun _ s' => s'.content = s.content ∧ s'.position = s.position)
    (fun _ s' => s'.content = s.content) :=
  ensures_operation (fun _ => ⟨rfl, rfl⟩) fun _ _ => rfl

theorem tell_spec : Ensures (tell (ε := ε)) s
    (fun n s' => s'.content = s.content ∧ n = s.position) (fun _ s' => s'.content = s.content) :=
  ensures_operation (fun _ => ⟨rfl, rfl⟩) fun _ _ => rfl

end Keep

/-! ## Reading -/

/-- A procedure that leaves the content as it is. -/
def ReadOnly (m : EStateM ε (Storage ε) α) : Prop :=
  ∀ content, Preserves (fun s => s.content = content) m

theorem readOnly_bind {β : Type} {m : EStateM ε (Storage ε) α} {f : α → EStateM ε (Storage ε) β}
    (hm : ReadOnly m) (hf : ∀ a, ReadOnly (f a)) : ReadOnly (m >>= f) :=
  fun content => preserves_bind (hm content) fun a => hf a content

theorem readOnly_ofExcept (x : Except ε α) : ReadOnly (ofExcept x : EStateM ε (Storage ε) α) :=
  fun _ _ hs => ensures_ofExcept.2 ⟨fun _ _ => hs, fun _ _ => hs⟩

theorem readOnly_operation (he : ∀ s, (effect s).content = s.content)
    (hp : ∀ k s, (partly k s).content = s.content) :
    ReadOnly (operation partly result effect) := by
  intro content s hs
  refine ensures_operation (fun _ => ?_) fun fault _ => ?_
  · rw [he]
    exact hs
  · rw [hp]
    exact hs

theorem readOnly_seek (n : ℕ) : ReadOnly (seek (ε := ε) n) := by
  refine readOnly_operation (fun _ => rfl) fun k s => ?_
  split_ifs <;> rfl

theorem readOnly_tell : ReadOnly (tell (ε := ε)) := readOnly_operation (fun _ => rfl) fun _ _ => rfl

theorem readOnly_read (n : ℕ) : ReadOnly (read (ε := ε) n) :=
  readOnly_operation (fun _ => rfl) fun _ _ => rfl

theorem readOnly_readUpTo (sep : UInt8) (n : ℕ) : ReadOnly (readUpTo (ε := ε) sep n) :=
  readOnly_operation (fun _ => rfl) fun _ _ => rfl

end Storage

end Subgen
