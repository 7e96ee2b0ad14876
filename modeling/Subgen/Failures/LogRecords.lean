import Subgen.Lib.Framing
import Subgen.Lib.Json
import Subgen.Lib.Lines

/-!
# The records of a log

`iter_bounded_log_records` reads a log with `readline` calls that return a bounded number of bytes. A record that
is longer than the bound is read to its end, however many calls that takes, and is no record.

The stream is a list of bytes, and `readline` takes from it up to a newline or up to the bound. A call that
returns more bytes than a record may have has found one that is too long; the rest of it is discarded in a
loop whose rounds are bounded by the stream. The induction is along the stream, with a line or
an unfinished tail taken off in front (`recordsFrom_line`, `recordsFrom_tail`).

How bytes are decoded (with `errors="replace"`) is a parameter.

* `iterBoundedLogRecords_eq`: one item for each record of the stream, and none of it for a long one.
-/

namespace Subgen

namespace LogRecords

open Framing Lines

/-- `MAX_LOG_RECORD_BYTES`. -/
def maxLogRecordBytes : ℕ := 64 * 1024

/-- `stream.readline(size)`: what it returns, and what is left. -/
def readline (size : ℕ) (stream : List ℕ) : List ℕ × List ℕ :=
  let n := min size (upTo 10 stream).length
  (stream.take n, stream.drop n)

/-- The loop over the rest of a record, for a number of rounds. -/
def discard : ℕ → List ℕ → List ℕ → List ℕ
  | 0, _, stream => stream
  | rounds + 1, rawRecord, stream =>
    if rawRecord = [] ∨ rawRecord.getLast? = some 10 then stream
    else
      let next := readline (maxLogRecordBytes + 1) stream
      discard rounds next.1 next.2

variable (decode : List ℕ → Text)

/-- `raw_record.rstrip(b"\r\n").decode("utf-8", errors="replace")`. -/
def decoded (rawRecord : List ℕ) : Text :=
  decode (rawRecord.reverse.dropWhile fun c => c = 13 ∨ c = 10).reverse

/-- The loop over the records, for a number of rounds. A stream has no more records than bytes. -/
def recordsFrom : ℕ → List ℕ → List (Option Text)
  | 0, _ => []
  | rounds + 1, stream =>
    let next := readline (maxLogRecordBytes + 1) stream
    if next.1 = [] then []
    else if maxLogRecordBytes < next.1.length then
      none :: recordsFrom rounds (discard (next.2.length + 2) next.1 next.2)
    else some (decoded decode next.1) :: recordsFrom rounds next.2

/-- `iter_bounded_log_records`. -/
def iterBoundedLogRecords (stream : List ℕ) : List (Option Text) := recordsFrom decode (stream.length + 1) stream

/-- What is made of a record with its newline. -/
def record (raw : List ℕ) : Option Text :=
  if maxLogRecordBytes < raw.length then none else some (decoded decode raw)

/-- What is made of the lines of a stream, and of what stands behind the last one. -/
def recordsOf (lines : List (List ℕ)) (rest : List ℕ) : List (Option Text) :=
  lines.map (fun l => record decode (l ++ [10])) ++ if rest = [] then [] else [record decode rest]

/-! ## What is read -/

variable {decode} {size rounds : ℕ} {raw l t u : List ℕ}

theorem readline_of_notMem (h : 10 ∉ t) (size : ℕ) : readline size t = (t.take size, t.drop size) := by
  rw [readline, upTo_of_notMem h]
  rcases le_total size t.length with hle | hle
  · rw [min_eq_left hle]
  · rw [min_eq_right hle, List.take_of_length_le hle, List.drop_of_length_le hle, List.take_length, List.drop_length]

/-- A line that is not longer is read with its newline. -/
theorem readline_line (h : 10 ∉ l) (hsize : l.length < size) : readline size (l ++ 10 :: u) = (l ++ [10], u) := by
  have hmin : min size (l ++ [10]).length = l.length + 1 := by
    rw [List.length_append, List.length_singleton]
    omega
  have hsplit : l ++ 10 :: u = (l ++ [10]) ++ u := by rw [List.append_assoc, List.singleton_append]
  rw [readline, upTo_append h, hmin, hsplit]
  exact Prod.ext (List.take_left' (by simp)) (List.drop_left' (by simp))

/-- A longer line is read in part. -/
theorem readline_long (h : 10 ∉ l) (hsize : size ≤ l.length) :
    readline size (l ++ 10 :: u) = (l.take size, l.drop size ++ 10 :: u) := by
  have hmin : min size (l ++ [10]).length = size := by
    rw [List.length_append, List.length_singleton]
    omega
  rw [readline, upTo_append h, hmin, List.take_append_of_le_length hsize, List.drop_append_of_le_length hsize]

theorem getLast?_ne_of_notMem (h : 10 ∉ t) : t.getLast? ≠ some 10 := fun hlast => h (List.mem_of_getLast? hlast)

/-- The rest of a record is read to its newline. -/
theorem discard_line (hraw : raw ≠ []) (hlast : 10 ∉ raw) (h : 10 ∉ l) (hrounds : l.length + 1 < rounds) :
    discard rounds raw (l ++ 10 :: u) = u := by
  induction hn : l.length using Nat.strong_induction_on generalizing rounds raw l with
  | _ n ih =>
    obtain ⟨rounds, rfl⟩ : ∃ k, rounds = k + 1 := ⟨rounds - 1, by omega⟩
    rw [discard, if_neg (not_or.2 ⟨hraw, getLast?_ne_of_notMem hlast⟩)]
    rcases lt_or_ge l.length (maxLogRecordBytes + 1) with hlt | hge
    · rw [readline_line h hlt]
      obtain ⟨rounds, rfl⟩ : ∃ k, rounds = k + 1 := ⟨rounds - 1, by omega⟩
      rw [discard, if_pos (.inr (by simp))]
    · have hlength : (l.drop (maxLogRecordBytes + 1)).length < n := by
        rw [List.length_drop]
        omega
      rw [readline_long h hge]
      refine ih _ hlength ?_ (fun hmem => h (List.mem_of_mem_take hmem)) (fun hmem => h (List.mem_of_mem_drop hmem))
        (by omega) rfl
      exact List.ne_nil_of_length_pos (by rw [List.length_take]; omega)

/-- Without a newline it is read to the end of the stream. -/
theorem discard_tail (hraw : raw ≠ []) (hlast : 10 ∉ raw) (h : 10 ∉ t) (hrounds : t.length + 1 < rounds) :
    discard rounds raw t = [] := by
  induction hn : t.length using Nat.strong_induction_on generalizing rounds raw t with
  | _ n ih =>
    obtain ⟨rounds, rfl⟩ : ∃ k, rounds = k + 1 := ⟨rounds - 1, by omega⟩
    rw [discard, if_neg (not_or.2 ⟨hraw, getLast?_ne_of_notMem hlast⟩), readline_of_notMem h]
    dsimp only
    rcases t with _ | ⟨c, t⟩
    · obtain ⟨rounds, rfl⟩ : ∃ k, rounds = k + 1 := ⟨rounds - 1, by omega⟩
      rfl
    · rw [List.length_cons] at hn hrounds
      have hlength : ((c :: t).drop (maxLogRecordBytes + 1)).length < n := by
        rw [List.length_drop, List.length_cons]
        omega
      refine ih _ hlength ?_ (fun hmem => h (List.mem_of_mem_take hmem)) (fun hmem => h (List.mem_of_mem_drop hmem))
        (by omega) rfl
      exact List.cons_ne_nil _ _

/-- The first record, with its newline, and then the others. -/
theorem recordsFrom_line (h : 10 ∉ l) :
    recordsFrom decode (rounds + 1) (l ++ 10 :: u) = record decode (l ++ [10]) :: recordsFrom decode rounds u := by
  rw [recordsFrom, record, List.length_append, List.length_singleton]
  rcases lt_or_ge l.length (maxLogRecordBytes + 1) with hlt | hge
  · rw [readline_line h hlt]
    dsimp only
    rw [if_neg (List.append_ne_nil_of_right_ne_nil l (List.cons_ne_nil 10 [])), List.length_append,
      List.length_singleton]
    by_cases hlong : maxLogRecordBytes < l.length + 1
    · rw [if_pos hlong, if_pos hlong, discard, if_pos (.inr (by simp))]
    · rw [if_neg hlong, if_neg hlong]
  · have hlength : (l.take (maxLogRecordBytes + 1)).length = maxLogRecordBytes + 1 := List.length_take_of_le hge
    have hne : l.take (maxLogRecordBytes + 1) ≠ [] := List.ne_nil_of_length_pos (by omega)
    rw [readline_long h hge]
    dsimp only
    rw [if_neg hne, hlength, if_pos (Nat.lt_succ_self _), if_pos (by omega),
      discard_line hne (fun hmem => h (List.mem_of_mem_take hmem)) (fun hmem => h (List.mem_of_mem_drop hmem))]
    rw [List.length_append, List.length_cons]
    omega

/-- What stands behind the last newline is the last record. -/
theorem recordsFrom_tail (h : 10 ∉ t) :
    recordsFrom decode (rounds + 2) t = if t = [] then [] else [record decode t] := by
  have hend : ∀ k, recordsFrom decode (k + 1) [] = [] := fun _ => rfl
  rw [recordsFrom, readline_of_notMem h]
  dsimp only
  by_cases hempty : t = []
  · rw [hempty]
    rfl
  · have hne : t.take (maxLogRecordBytes + 1) ≠ [] := by
      rw [Ne, List.take_eq_nil_iff, not_or]
      exact ⟨Nat.succ_ne_zero _, hempty⟩
    rw [if_neg hne, if_neg hempty, record]
    by_cases hlong : maxLogRecordBytes < t.length
    · rw [if_pos hlong, if_pos (by rw [List.length_take]; omega), discard_tail hne
        (fun hmem => h (List.mem_of_mem_take hmem)) (fun hmem => h (List.mem_of_mem_drop hmem)) (by omega), hend]
    · rw [if_neg hlong, List.take_of_length_le (by omega), if_neg hlong, List.drop_of_length_le (by omega), hend]

theorem recordsFrom_eq (hrounds : t.length < rounds) :
    recordsFrom decode rounds t = recordsOf decode (splitLines 10 t).1 (splitLines 10 t).2 := by
  induction hn : t.length using Nat.strong_induction_on generalizing rounds t with
  | _ n ih =>
    obtain ⟨rounds, rfl⟩ : ∃ k, rounds = k + 1 := ⟨rounds - 1, by omega⟩
    rcases line_or_notMem 10 t with hnone | ⟨l, u, rfl, hl⟩
    · rw [splitLines_of_notMem hnone, recordsOf, List.map_nil, List.nil_append]
      rcases rounds with _ | rounds
      · obtain rfl : t = [] := List.eq_nil_of_length_eq_zero (by omega)
        rfl
      · exact recordsFrom_tail hnone
    · rw [List.length_append, List.length_cons] at hn hrounds
      rw [recordsFrom_line hl, splitLines_append_sep hl, ih u.length (by omega) (by omega) rfl]
      rfl

/-- Every record is one item, also one that is too long, of which nothing is left for the next one. -/
theorem iterBoundedLogRecords_eq (decode : List ℕ → Text) (stream : List ℕ) :
    ∃ (lines : List (List ℕ)) (rest : List ℕ), stream = lines.flatMap (· ++ [10]) ++ rest ∧ (∀ l ∈ lines, 10 ∉ l) ∧
      10 ∉ rest ∧ iterBoundedLogRecords decode stream =
        lines.map (fun l => record decode (l ++ [10])) ++ if rest = [] then [] else [record decode rest] := by
  obtain ⟨hrest, hlines⟩ : 10 ∉ (splitLines 10 stream).2 ∧ ∀ l ∈ (splitLines 10 stream).1, 10 ∉ l :=
    notMem_splitLines stream
  exact ⟨_, _, (flatMap_splitLines stream).symm, hlines, hrest, recordsFrom_eq (Nat.lt_succ_self _)⟩

end LogRecords

end Subgen
