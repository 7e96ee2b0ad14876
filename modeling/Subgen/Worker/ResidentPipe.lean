import Subgen.Lib.Framing

/-!
# The output of a resident worker

`_read_stdout` reads the pipe from the worker piece by piece and queues its lines. What it queues depends on the
bytes alone (`readStdout_eq`): the lines up to one that is too long. Nobody stops the worker here.

How the bytes are cut into pieces is up to the pipe, and any list of pieces is allowed. A line that is too long
ends the reading with a fault, and no packet is queued behind it; so does a rest without a newline at the end of
the bytes. The events are those of the joined bytes, which is why the proof goes along the pieces with what is
left of the bytes so far as its invariant (`packetsOf_append`).
-/

namespace Subgen

open Framing

namespace ResidentPipe

/-- What `_read_stdout` does that others see: it queues a packet, sets the fault flag, or queues the `None` that
    ends the packets. -/
inductive ReaderEvent
  | packet (line : List ℕ)
  | fault
  | ended
  deriving DecidableEq

/-- `_read_stdout`, for the reads that return bytes; the one behind them returns none. A buffer of so many bytes
    has at most as many lines. -/
def readStdout (maximumResultBytes : ℕ) : List (List ℕ) → List ℕ → ℕ → List ReaderEvent
  | [], pending, _ => if pending = [] then [.ended] else [.fault, .ended]
  | data :: reads, pending, scanned =>
    let buffer := pending ++ data
    let (packets, rest) := takeLines 10 maximumResultBytes (buffer.length + 1) buffer scanned
    packets.map .packet ++
      match rest with
      | none => [.fault]
      | some pending => readStdout maximumResultBytes reads pending pending.length

/-- Every line is short enough, and so is what stands behind the last one. -/
abbrev Short (maximumResultBytes : ℕ) (stream : List ℕ) : Prop :=
  (∀ l ∈ (splitLines 10 stream).1, l.length ≤ maximumResultBytes) ∧
    (splitLines 10 stream).2.length ≤ maximumResultBytes

/-- How the packets of a worker end. -/
def endOf (maximumResultBytes : ℕ) (stream : List ℕ) : List ReaderEvent :=
  if Short maximumResultBytes stream then
    if (splitLines 10 stream).2 = [] then [.ended] else [.fault, .ended]
  else [.fault]

/-- The lines before one that is too long. -/
def shortLines (maximumResultBytes : ℕ) (stream : List ℕ) : List (List ℕ) :=
  (splitLines 10 stream).1.takeWhile fun l => l.length ≤ maximumResultBytes

/-- What is queued for all bytes of the worker. -/
def packetsOf (maximumResultBytes : ℕ) (stream : List ℕ) : List ReaderEvent :=
  (shortLines maximumResultBytes stream).map .packet ++ endOf maximumResultBytes stream

variable {max : ℕ} {pending : List ℕ} {reads : List (List ℕ)}

/-- What follows a rest that is too long does not matter. -/
theorem packetsOf_of_long (h : 10 ∉ pending) (hlong : max < pending.length) (more : List ℕ) :
    packetsOf max (pending ++ more) = [.fault] := by
  have hnot : ¬ pending.length ≤ max := not_le.2 hlong
  simp only [packetsOf, shortLines, endOf, Short, splitLines_append_of_notMem h]
  rcases splitLines 10 more with ⟨_ | ⟨l, ls⟩, rest⟩
  · have hrest : ¬ (pending ++ rest).length ≤ max := by
      rw [List.length_append]
      omega
    simp only [List.takeWhile_nil, List.map_nil, List.nil_append, hrest, and_false, if_false]
  · have hline : ¬ (pending ++ l).length ≤ max := by
      rw [List.length_append]
      omega
    simp only [List.takeWhile_cons, hline, decide_false, Bool.false_eq_true, if_false, List.map_nil,
      List.nil_append, List.forall_mem_cons, false_and]

/-- The lines of a buffer come before what follows it, up to one that is too long. -/
theorem packetsOf_append (buffer more : List ℕ) : packetsOf max (buffer ++ more) =
    (shortLines max buffer).map .packet ++
      if ∀ l ∈ (splitLines 10 buffer).1, l.length ≤ max then packetsOf max ((splitLines 10 buffer).2 ++ more)
      else [.fault] := by
  have happend : splitLines 10 (buffer ++ more) = _ := splitLines_append buffer more
  simp only [packetsOf, shortLines, endOf, Short, happend]
  by_cases hshort : ∀ l ∈ (splitLines 10 buffer).1, l.length ≤ max
  · have hall : (splitLines 10 buffer).1.takeWhile (fun l => decide (l.length ≤ max)) = (splitLines 10 buffer).1 :=
      List.takeWhile_eq_self_iff.2 fun l hl => decide_eq_true (hshort l hl)
    rw [if_pos hshort, List.takeWhile_append_of_pos fun l hl => decide_eq_true (hshort l hl), hall,
      List.map_append, List.append_assoc]
    simp only [List.forall_mem_append, iff_true_intro hshort, true_and]
  · have hsame : ((splitLines 10 buffer).1 ++ (splitLines 10 ((splitLines 10 buffer).2 ++ more)).1).takeWhile
        (fun l => decide (l.length ≤ max)) = (splitLines 10 buffer).1.takeWhile fun l => decide (l.length ≤ max) := by
      rw [List.takeWhile_append, if_neg]
      intro heq
      have hall := List.takeWhile_eq_self_iff.1 (List.IsPrefix.eq_of_length (List.takeWhile_prefix _) heq)
      exact hshort fun l hl => of_decide_eq_true (hall l hl)
    rw [if_neg hshort, hsame, if_neg]
    exact fun h => hshort fun l hl => h.1 l (List.mem_append_left _ hl)

/-- The reads do not matter, only the bytes. -/
theorem readStdout_eq (hpending : 10 ∉ pending) (hshort : pending.length ≤ max) :
    readStdout max reads pending pending.length = packetsOf max (pending ++ reads.flatten) := by
  induction reads generalizing pending with
  | nil =>
    simp [readStdout, packetsOf, shortLines, endOf, splitLines_of_notMem hpending, hshort]
  | cons data reads ih =>
    have hscanned : 10 ∉ (pending ++ data).take pending.length := by rwa [List.take_left]
    have htaken : takeLines 10 max ((pending ++ data).length + 1) (pending ++ data) pending.length = _ :=
      takeLines_eq _ (Nat.lt_succ_self _) hscanned (by simp)
    rw [readStdout, List.flatten_cons, ← List.append_assoc, packetsOf_append]
    simp only [htaken]
    congr 1
    by_cases hlines : ∀ l ∈ (splitLines 10 (pending ++ data)).1, l.length ≤ max
    · rw [if_pos hlines]
      have hnone : 10 ∉ (splitLines 10 (pending ++ data)).2 := (notMem_splitLines _).1
      by_cases hrest : (splitLines 10 (pending ++ data)).2.length ≤ max
      · rw [if_pos ⟨hlines, hrest⟩]
        exact ih hnone hrest
      · rw [if_neg fun h => hrest h.2]
        exact (packetsOf_of_long hnone (not_le.1 hrest) _).symm
    · rw [if_neg hlines, if_neg fun h => hlines h.1]

/-- The line of a packet. -/
def ReaderEvent.line? : ReaderEvent → Option (List ℕ)
  | .packet line => some line
  | _ => none

theorem filterMap_packetsOf (stream : List ℕ) :
    (packetsOf max stream).filterMap ReaderEvent.line? = shortLines max stream := by
  have hlines : ∀ ls : List (List ℕ), (ls.map ReaderEvent.packet).filterMap ReaderEvent.line? = ls := by
    intro ls
    rw [List.filterMap_map]
    exact List.filterMap_some
  have hend : (endOf max stream).filterMap ReaderEvent.line? = [] := by
    rw [endOf]
    split_ifs <;> rfl
  rw [packetsOf, List.filterMap_append, hlines, hend, List.append_nil]

theorem fault_notMem_packets (ls : List (List ℕ)) : ReaderEvent.fault ∉ ls.map .packet := by
  intro h
  obtain ⟨_, -, heq⟩ := List.mem_map.1 h
  cases heq

theorem fault_mem_packetsOf (stream : List ℕ) : ReaderEvent.fault ∈ packetsOf max stream ↔
    (∃ l ∈ (splitLines 10 stream).1, max < l.length) ∨ max < (splitLines 10 stream).2.length ∨
      (splitLines 10 stream).2 ≠ [] := by
  rw [packetsOf, List.mem_append, or_iff_right (fault_notMem_packets _), endOf]
  by_cases hshort : Short max stream
  · rw [if_pos hshort]
    by_cases hrest : (splitLines 10 stream).2 = []
    · rw [if_pos hrest, hrest]
      simpa using hshort.1
    · rw [if_neg hrest]
      simp [hrest]
  · rw [if_neg hshort]
    rw [Short, not_and_or] at hshort
    push Not at hshort
    exact ⟨fun _ => hshort.imp_right .inl, fun _ => List.mem_singleton_self _⟩

theorem after_fault {stream : List ℕ} {before after : List ReaderEvent}
    (h : packetsOf max stream = before ++ .fault :: after) : after = [] ∨ after = [.ended] := by
  have hend : ∃ before', endOf max stream = before' ++ .fault :: after := by
    rcases List.append_eq_append_iff.1 h with ⟨more, rfl, hmore⟩ | ⟨more, hpackets, hmore⟩
    · exact ⟨more, hmore⟩
    · rcases more with _ | ⟨e, more⟩
      · exact ⟨[], hmore.symm⟩
      · obtain ⟨rfl, -⟩ := List.cons.inj hmore
        exact absurd (hpackets ▸ List.mem_append_right _ List.mem_cons_self) (fault_notMem_packets _)
  obtain ⟨before', hend⟩ := hend
  rw [endOf] at hend
  split_ifs at hend <;> rcases before' with _ | ⟨e, _ | ⟨e', before'⟩⟩ <;> simp_all

/-- The packets are the lines of the bytes, whatever the reads, up to one that is too long; after a fault there
    is nothing but the `None` at the end of the bytes. -/
theorem readStdout_framed (maximumResultBytes : ℕ) (stream : List ℕ) :
    ∃ (lines : List (List ℕ)) (rest : List ℕ), stream = lines.flatMap (· ++ [10]) ++ rest ∧ (∀ l ∈ lines, 10 ∉ l) ∧ 10 ∉ rest ∧
      ∃ events, (∀ reads : List (List ℕ), (∀ data ∈ reads, 1 ≤ data.length ∧ data.length ≤ 4096) →
          reads.flatten = stream → readStdout maximumResultBytes reads [] 0 = events) ∧
        events.filterMap ReaderEvent.line? = lines.takeWhile (fun l => l.length ≤ maximumResultBytes) ∧
        (.fault ∈ events ↔ (∃ l ∈ lines, maximumResultBytes < l.length) ∨ maximumResultBytes < rest.length ∨
          rest ≠ []) ∧
        ∀ before after, events = before ++ .fault :: after → after = [] ∨ after = [.ended] := by
  obtain ⟨hrest, hlines⟩ : 10 ∉ (splitLines 10 stream).2 ∧ ∀ l ∈ (splitLines 10 stream).1, 10 ∉ l :=
    notMem_splitLines stream
  refine ⟨_, _, (flatMap_splitLines stream).symm, hlines, hrest, packetsOf maximumResultBytes stream, ?_,
    filterMap_packetsOf stream, fault_mem_packetsOf stream, fun _ _ => after_fault⟩
  rintro reads - rfl
  exact readStdout_eq List.not_mem_nil (Nat.zero_le _)

end ResidentPipe

end Subgen
