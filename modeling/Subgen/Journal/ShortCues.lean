import Subgen.Journal.Merging
import Subgen.Journal.Readers

/-!
# Short cues are merged as in place

The pass of `iter_min_duration_segment_payloads` keeps two cues of the journal in memory and
writes the others to a spool, last one first. What it yields is what merging in place gives, on
the whole list of cues (`stableSegmentMinDuration`).

* `readSpool_spool`: the spool is read back, last frame first;
* `step_of`, `mergeLoop_spec`: the loop over the journal is `Spans.Pass.run` over its cues;
* `short_cues_merged_in_place`: the pass, over any journal;
* `short_cues_lose_nothing`: it merges consecutive cues, and leaves none that is short.
-/

namespace Subgen

open Procedure Storage Spans

/-- The merge of short cues on a list that loses elements: from the last index to the first one,
    a cue that is shorter than `minimum` goes to a neighbour. -/
def stableSegmentMinDuration (minimum : ℚ) (segments : List Dict) : List Dict :=
  shorten segmentDuration mergeSegmentPayloads minimum segments

/-! ## The spool -/

/-- What the spool relies on: the payload is encoded, to bytes that can be counted, and decoded
    to what was encoded. -/
structure Codec.RoundTrips (codec : Codec) (payload : Dict) : Prop where
  dumps_eq : codec.dumps (.dict payload) = .ok (codec.bytes (.dict payload))
  loads_eq : codec.loads (codec.bytes (.dict payload)) = some (.dict payload)
  length_lt : (codec.bytes (.dict payload)).length < 2 ^ 64

/-- The length of a frame, in eight bytes. -/
def lengthBytes (n : ℕ) : List UInt8 :=
  (List.range frameLengthSize).map fun i => UInt8.ofNat (n / 256 ^ (7 - i))

theorem length_lengthBytes (n : ℕ) : (lengthBytes n).length = frameLengthSize := by
  rw [lengthBytes, List.length_map, List.length_range]

theorem packLength_eq {n : ℕ} (h : n < 2 ^ 64) : packLength n = .ok (lengthBytes n) := if_pos h

theorem unpackLength_lengthBytes {n : ℕ} (h : n < 2 ^ 64) : unpackLength (lengthBytes n) = n := by
  have hbyte : ∀ m, (UInt8.ofNat m).toNat = m % 256 := fun m => rfl
  simp only [lengthBytes, frameLengthSize, List.range_succ, List.range_zero, List.nil_append,
    List.cons_append, List.map_cons, List.map_nil, unpackLength, List.foldl_cons, List.foldl_nil,
    hbyte]
  omega

/-- The spool with these payloads, of which the first was written last. -/
def spoolOf (codec : Codec) : List Dict → List UInt8
  | [] => []
  | payload :: written =>
    spoolOf codec written ++ codec.bytes (.dict payload) ++
      lengthBytes (codec.bytes (.dict payload)).length

variable {codec : Codec}

theorem writeReverse_spool {payload : Dict} (h : codec.RoundTrips payload) (written : List Dict) :
    writeReverse codec (spoolOf codec written) payload = .ok (spoolOf codec (payload :: written)) := by
  rw [writeReverse, h.dumps_eq]
  change (packLength _ >>= _) = _
  rw [packLength_eq h.length_lt]
  rfl

theorem decodeFrame_eq {payload : Dict} (h : codec.RoundTrips payload) :
    decodeFrame codec (codec.bytes (.dict payload)) = .ok payload := by
  rw [decodeFrame, h.loads_eq]

/-- The spool is read back from its end. -/
theorem readSpool_spool {written : List Dict} (h : ∀ payload ∈ written, codec.RoundTrips payload)
    (tail : List UInt8) {fuel : ℕ} (hfuel : written.length ≤ fuel) :
    readSpool codec (spoolOf codec written ++ tail) fuel (spoolOf codec written).length =
      .ok written := by
  induction written generalizing tail fuel with
  | nil => cases fuel <;> rfl
  | cons payload written ih =>
    obtain ⟨hpayload, hwritten⟩ := List.forall_mem_cons.1 h
    obtain ⟨fuel, rfl⟩ := Nat.exists_eq_succ_of_ne_zero (by simp at hfuel; omega : fuel ≠ 0)
    -- The frame, between what was written before it and what was written behind it.
    have hspool : spoolOf codec (payload :: written) ++ tail =
        spoolOf codec written ++ (codec.bytes (.dict payload) ++
          (lengthBytes (codec.bytes (.dict payload)).length ++ tail)) := by
      rw [spoolOf, List.append_assoc, List.append_assoc]
    have hposition : (spoolOf codec (payload :: written)).length =
        (spoolOf codec written).length + (codec.bytes (.dict payload)).length + frameLengthSize := by
      rw [spoolOf, List.length_append, List.length_append, length_lengthBytes]
    have hlength : ((spoolOf codec (payload :: written) ++ tail).drop
        ((spoolOf codec written).length + (codec.bytes (.dict payload)).length)).take
          frameLengthSize = lengthBytes (codec.bytes (.dict payload)).length := by
      rw [hspool, ← List.append_assoc, ← List.length_append, List.drop_left,
        ← length_lengthBytes (codec.bytes (.dict payload)).length, List.take_left]
    have hencoded : ((spoolOf codec (payload :: written) ++ tail).drop
        (spoolOf codec written).length).take (codec.bytes (.dict payload)).length =
          codec.bytes (.dict payload) := by
      rw [hspool, List.drop_left, List.take_left]
    rw [readSpool, hposition, if_neg (by rw [frameLengthSize]; omega), if_neg (by omega),
      Nat.add_sub_cancel, hlength, unpackLength_lengthBytes hpayload.length_lt, if_neg (by omega),
      Nat.add_sub_cancel, hencoded, decodeFrame_eq hpayload, hspool]
    change (readSpool codec _ fuel _ >>= _) = _
    rw [ih hwritten _ (Nat.le_of_succ_le_succ hfuel)]
    rfl

theorem length_le_spool (codec : Codec) (written : List Dict) :
    written.length ≤ (spoolOf codec written).length := by
  induction written with
  | nil => exact le_rfl
  | cons payload written ih =>
    rw [spoolOf, List.length_append, List.length_append, length_lengthBytes, frameLengthSize,
      List.length_cons]
    omega

/-! ## The pass -/

namespace MergePass

/-- The pass with what is settled on the spool. -/
def of (codec : Codec) (pass : Pass Dict) : MergePass :=
  ⟨pass.right, pass.carry, spoolOf codec pass.settled⟩

theorem writeRight_of {pass : Pass Dict} (h : ∀ payload ∈ pass.tail, codec.RoundTrips payload) :
    (of codec pass).writeRight codec = .ok (spoolOf codec pass.tail) := by
  rw [Pass.tail] at h ⊢
  unfold writeRight
  rcases hright : pass.right with _ | right <;> rw [hright] at h
  · rw [of, hright]
    rfl
  · rw [of, hright]
    exact writeReverse_spool (h right List.mem_cons_self) _

/-- A round does what it does on the lists, if what it writes can be written. -/
theorem step_of (threshold : ℚ) (current : Dict) (leftRaw : Option Dict) (pass : Pass Dict)
    (h : ∀ payload ∈
      (Pass.step segmentDuration mergeSegmentPayloads threshold current leftRaw pass).settled,
      codec.RoundTrips payload) :
    (of codec pass).step codec threshold current leftRaw =
      .ok (of codec
        (Pass.step segmentDuration mergeSegmentPayloads threshold current leftRaw pass)) := by
  obtain ⟨right, carry, settled⟩ := pass
  -- A carried cue is part of the one at hand.
  wlog hcarry : carry = none generalizing current carry
  · rcases carry with _ | carry
    · exact absurd rfl hcarry
    · exact this (mergeSegmentPayloads current carry) none h rfl
  subst hcarry
  by_cases hshort : segmentDuration current < threshold
  · have hstep : Pass.step segmentDuration mergeSegmentPayloads threshold current leftRaw
        ⟨right, none, settled⟩ =
          Pass.place segmentDuration mergeSegmentPayloads current leftRaw ⟨right, none, settled⟩ :=
      if_neg (not_not.2 hshort)
    rw [hstep]
    unfold step Pass.place
    refine (if_neg (not_not.2 hshort)).trans ?_
    rcases right with _ | right <;> rcases leftRaw with _ | left <;> try rfl
    dsimp only [of]
    split_ifs <;> rfl
  · have hstep : Pass.step segmentDuration mergeSegmentPayloads threshold current leftRaw
        ⟨right, none, settled⟩ =
          ⟨some current, none, Pass.tail ⟨right, none, settled⟩⟩ := if_pos hshort
    rw [hstep] at h ⊢
    unfold step
    refine (if_pos hshort).trans ?_
    rw [writeRight_of h]
    rfl

theorem finish_of {pass : Pass Dict}
    (h : ∀ payload ∈ Pass.finish mergeSegmentPayloads pass, codec.RoundTrips payload) :
    (of codec pass).finish codec =
      .ok (spoolOf codec (Pass.finish mergeSegmentPayloads pass)) := by
  unfold Pass.finish at h ⊢
  unfold finish
  rcases hcarry : pass.carry with _ | carry <;> rw [hcarry] at h
  · rw [of, hcarry]
    exact writeRight_of h
  · rcases hright : pass.right with _ | right <;> rw [hright] at h <;> rw [of, hcarry, hright]
    · exact writeReverse_spool (h carry List.mem_cons_self) _
    · exact writeReverse_spool (h (mergeSegmentPayloads carry right) List.mem_cons_self) _

end MergePass

namespace SegmentJournal

variable {log : List Record} {j : SegmentJournal} {threshold : ℚ}

theorem length_le_log (codec : Codec) (log : List Record) :
    log.length ≤ (codec.log log).length := by
  induction log with
  | nil => exact le_rfl
  | cons r log ih =>
    rw [codec.log_cons, List.length_append, codec.length_line, List.length_cons]
    omega

/-- `next(source)` gives the next payload back, however many records without payloads come
    before it. -/
theorem nextSource_spec (hlossless : ∀ r ∈ log, codec.Lossless r) {m : ℕ}
    (hordinals : log.filterMap Record.ordinal? = List.range m) {payload : Dict}
    {rest : List Dict} {n : ℕ} {it : ReverseIterator}
    (hit : ReverseAt codec log (payload :: rest) n it) (h : Live codec log j) :
    Ensures (nextSource codec it) j
      (fun next j' => next.1 = payload ∧ (∃ n', ReverseAt codec log rest n' next.2) ∧
        Live codec log j')
      (fun _ _ => False) := by
  -- The fuel is the position in the file, and each step reads one of the records before it.
  have hnext : ∀ (fuel n : ℕ) (it : ReverseIterator) (j : SegmentJournal),
      ReverseAt codec log (payload :: rest) n it → Live codec log j →
      n < fuel + (payload :: rest).length →
      Ensures (nextReverse codec fuel it) j
        (fun next j' => ∃ it' n', next = some (payload, it') ∧ ReverseAt codec log rest n' it' ∧
          Live codec log j')
        (fun _ _ => False) := by
    intro fuel
    induction fuel with
    | zero =>
      rintro n it j ⟨before, after, -, -, -, -, hn⟩ - hfuel
      omega
    | succ fuel ih =>
      intro n it j hit h hfuel
      rw [nextReverse, ensures_bind]
      refine (advanceReverse_proceeds hlossless hordinals hit h).mono ?_ fun _ _ h => h
      rintro (⟨payload', it'⟩ | it' | _) j' ⟨hstep, h'⟩
      · obtain ⟨rest', n', heq, -, hit'⟩ := hstep
        obtain ⟨rfl, rfl⟩ := List.cons_eq_cons.1 heq
        exact ⟨it', n', rfl, hit', h'⟩
      · obtain ⟨n', rfl, hit'⟩ := hstep
        exact ih n' it' j' hit' h' (by omega)
      · exact absurd hstep (List.cons_ne_nil _ _)
  rw [nextSource, ensures_bind]
  have hfuel : n < it.position + 1 + (payload :: rest).length := by
    obtain ⟨before, after, -, hposition, -, -, hn⟩ := hit
    have hle := length_le_log codec before
    omega
  refine (hnext _ n it j hit h hfuel).mono ?_ fun _ _ h => h
  rintro _ j' ⟨it', n', rfl, hit', h'⟩
  exact ⟨rfl, ⟨n', hit'⟩, h'⟩

/-- The loop over the journal is the pass over its payloads. -/
theorem mergeLoop_spec (hlossless : ∀ r ∈ log, codec.Lossless r) {m : ℕ}
    (hordinals : log.filterMap Record.ordinal? = List.range m) {current : Dict}
    {rest : List Dict} {n : ℕ} {it : ReverseIterator} (hit : ReverseAt codec log rest n it)
    (h : Live codec log j) {pass : Pass Dict}
    (hspool : ∀ payload ∈ Pass.finish mergeSegmentPayloads
      (Pass.run segmentDuration mergeSegmentPayloads threshold (current :: rest) pass),
      codec.RoundTrips payload) :
    Ensures (mergeLoop codec threshold rest.length current it (MergePass.of codec pass)) j
      (fun pass' _ => pass' = MergePass.of codec
        (Pass.run segmentDuration mergeSegmentPayloads threshold (current :: rest) pass))
      (fun _ _ => False) := by
  induction rest generalizing current it pass j n with
  | nil =>
    rw [List.length_nil, mergeLoop, ensures_ofExcept, MergePass.step_of]
    · exact ⟨fun pass' hpass' => (Except.ok.inj hpass').symm, nofun⟩
    · exact fun payload hpayload => hspool payload (Pass.settled_suffix_finish.subset hpayload)
  | cons left rest ih =>
    rw [List.length_cons, mergeLoop, ensures_bind]
    refine (nextSource_spec hlossless hordinals hit h).mono ?_ fun _ _ h => h
    rintro ⟨left', it'⟩ j' ⟨hleft, ⟨n', hit'⟩, h'⟩
    obtain rfl : left' = left := hleft
    -- What this round writes is part of the output.
    have hstep := MergePass.step_of threshold current (some left') pass fun payload hpayload =>
      hspool payload (((Pass.settled_suffix_run (left' :: rest)).trans Pass.settled_suffix_finish).subset hpayload)
    rw [ensures_bind, ensures_ofExcept, hstep]
    refine ⟨fun pass' hpass' => ?_, nofun⟩
    obtain rfl := Except.ok.inj hpass'
    exact ih hit' h' hspool

theorem mergeCommitted_spec (hlossless : ∀ r ∈ log, codec.Lossless r)
    (hlog : Represents codec log j) (h : Live codec log j)
    (hne : (log.flatMap Record.segments).length ≠ 0)
    (hspool : ∀ cue ∈ stableSegmentMinDuration threshold (log.flatMap Record.segments),
      codec.RoundTrips cue) :
    Ensures (mergeCommitted codec threshold) j
      (fun cues _ => cues = stableSegmentMinDuration threshold (log.flatMap Record.segments))
      (fun _ _ => False) := by
  rw [stableSegmentMinDuration, ← Pass.finish_run] at hspool ⊢
  rcases hrev : (log.flatMap Record.segments).reverse with _ | ⟨current, rest⟩
  · exact absurd (congrArg List.length hrev) (by rwa [List.length_reverse])
  have hcount : j.segmentCount - 1 = rest.length := by
    rw [hlog.segmentCount, ← List.length_reverse, hrev, List.length_cons, Nat.add_sub_cancel]
  rw [hrev] at hspool
  have hstart : ReverseAt codec log (current :: rest) ((current :: rest).length + log.length)
      ⟨j.committedOffset, j.chunkCount - 1, []⟩ := by
    refine ⟨log, [], (List.append_nil log).symm, hlog.offset, ?_, hrev.symm, rfl⟩
    rw [chunks, hlog.ordinals, List.length_range]
  rw [mergeCommitted, iterSegmentPayloadsReverse, ensures_bind, ensures_bind,
    ensures_of_ok h.requireUsable_eq, ensures_bind, ensures_get, ensures_pure, ensures_bind]
  refine ((nextSource_spec hlossless hlog.ordinals hstart h).and
    (reads_nextSource codec _ j j (.refl j))).mono ?_ fun _ _ h => h.1
  rintro ⟨_, it⟩ j' ⟨⟨rfl, ⟨n, hit⟩, h'⟩, file, -, rfl⟩
  rw [ensures_bind, ensures_get]
  change Ensures (mergeLoop codec threshold (j.segmentCount - 1) _ it _ >>= _) _ _ _
  rw [hcount, ensures_bind]
  refine (mergeLoop_spec hlossless hlog.ordinals hit h' hspool).mono ?_ fun _ _ h => h
  rintro _ j'' rfl
  rw [ensures_bind, ensures_ofExcept, MergePass.finish_of hspool]
  refine ⟨fun spool hfinish => ?_, by simp⟩
  obtain rfl := Except.ok.inj hfinish
  have hread := readSpool_spool hspool [] (length_le_spool codec _)
  rw [List.append_nil] at hread
  rw [ensures_ofExcept, hread]
  exact ⟨fun cues hcues => (Except.ok.inj hcues).symm, by simp⟩

/-- The pass over the committed cues. -/
theorem iterMinDuration_spec (hlossless : ∀ r ∈ log, codec.Lossless r)
    (hlog : Represents codec log j) (h : Live codec log j) {minDuration : Value}
    (hthreshold : finiteNumber minDuration "minimum subtitle duration" = .ok threshold)
    (hnonneg : 0 ≤ threshold)
    (hspool : ∀ cue ∈ stableSegmentMinDuration threshold (log.flatMap Record.segments),
      codec.RoundTrips cue) :
    ∃ j', iterMinDurationSegmentPayloads codec minDuration j =
      .ok (stableSegmentMinDuration threshold (log.flatMap Record.segments)) j' := by
  refine Ensures.returns ?_
  rw [iterMinDurationSegmentPayloads, hthreshold, ensures_bind, ensures_ofExcept]
  refine ⟨fun threshold' hthreshold' => ?_, by simp⟩
  obtain rfl := Except.ok.inj hthreshold'
  rw [if_neg (not_lt.2 hnonneg), ensures_bind, ensures_get, ensures_ite, hlog.segmentCount]
  refine ⟨fun hzero => ?_, fun hne => ?_⟩
  · rw [List.eq_nil_of_length_eq_zero hzero]
    rfl
  · exact mergeCommitted_spec hlossless hlog h hne hspool

/-! ## The claims of the pass -/

/-- What is read of a journal that is usable, on a file that works. -/
theorem live_of_run {faults : List (Option (Fault Exc))} {hasFactories : Bool} {calls : List Call}
    (hclosed : (run codec calls (new faults hasFactories)).closed = false)
    (hpoisoned : (run codec calls (new faults hasFactories)).poisoned = false)
    (hcalm : (run codec calls (new faults hasFactories)).file.faults = []) :
    Represents codec (committed codec calls (new faults hasFactories))
        (run codec calls (new faults hasFactories)) ∧
      Live codec (committed codec calls (new faults hasFactories))
        (run codec calls (new faults hasFactories)) := by
  have hlog := run_represents (represents_new codec faults hasFactories) calls
  exact ⟨hlog, ⟨[], (List.append_nil _).symm ▸ hlog⟩, hclosed, hpoisoned, hcalm⟩

/-- In every journal that is usable, on a file that works by then, whatever failed before: the
    pass that keeps two cues yields what merging in place gives on the list of all committed
    cues. -/
theorem short_cues_merged_in_place (codec : Codec) (faults : List (Option (Fault Exc)))
    (hasFactories : Bool) (calls : List Call) (minDuration : Value) (threshold : ℚ)
    (hthreshold : finiteNumber minDuration "minimum subtitle duration" = .ok threshold)
    (hnonneg : 0 ≤ threshold)
    (hclosed : (run codec calls (new faults hasFactories)).closed = false)
    (hpoisoned : (run codec calls (new faults hasFactories)).poisoned = false)
    (hcalm : (run codec calls (new faults hasFactories)).file.faults = [])
    (hlossless : ∀ r ∈ committed codec calls (new faults hasFactories), codec.Lossless r) :
    let j := run codec calls (new faults hasFactories)
    let cues := (committed codec calls (new faults hasFactories)).flatMap Record.segments
    (∀ cue ∈ stableSegmentMinDuration threshold cues, codec.RoundTrips cue) →
    ∃ j', iterMinDurationSegmentPayloads codec minDuration j =
      .ok (stableSegmentMinDuration threshold cues) j' := by
  intro j cues hspool
  obtain ⟨hlog, hlive⟩ := live_of_run hclosed hpoisoned hcalm
  exact iterMinDuration_spec hlossless hlog hlive hthreshold hnonneg hspool

/-- Each cue ends before the next one starts. -/
def TimeMonotone (cues : List Dict) : Prop :=
  Increasing (Dict.float · "start") (Dict.float · "end") cues

/-- A cue with its times and its text. -/
def cueAt (start stop : ℚ) (text : String) : Dict :=
  [("start", .float start), ("end", .float stop), ("text", .str text)]

/-- A long cue. -/
def helloCue : Dict := cueAt 0 20 "Hello"

/-- A short cue. -/
def youCue : Dict := cueAt 20 25 " you"

/-- Another short cue, behind it. -/
def thereCue : Dict := cueAt 25 30 " there"

/-- The merge of the last two. -/
def youThereCue : Dict := cueAt 20 30 " you there" ++ [("tokens", .none)]

/-- A cue as the codec writes it. -/
def cueText (start stop text tokens : String) : List UInt8 :=
  ("\x7b\"start\":" ++ start ++ ",\"end\":" ++ stop ++ ",\"text\":\"" ++ text ++ "\"" ++ tokens ++
    "\x7d").toUTF8.toList

/-- The record in which a cue is appended. -/
def appendText (cue : List UInt8) : List UInt8 :=
  "\x7b\"version\":1,\"kind\":\"append\",\"segments\":[".toUTF8.toList ++ cue ++
    "]\x7d".toUTF8.toList

/-- The long cue, written. -/
def helloText : List UInt8 := cueText "0.0" "20.0" "Hello" ""

/-- The first short cue, written. -/
def youText : List UInt8 := cueText "20.0" "25.0" " you" ""

/-- The second short cue, written. -/
def thereText : List UInt8 := cueText "25.0" "30.0" " there" ""

/-- Their merge, written. -/
def youThereText : List UInt8 := cueText "20.0" "30.0" " you there" ",\"tokens\":null"

/-- JSON, of nothing but the records of these cues, and the merged ones. -/
def shortCueCodec : Codec where
  iterencode value :=
    match value with
    | .dict mapping =>
      if (decodedSegments mapping).map (Dict.float · "start") = [0] then
        ([appendText helloText], none)
      else if (decodedSegments mapping).map (Dict.float · "start") = [20] then
        ([appendText youText], none)
      else if (decodedSegments mapping).map (Dict.float · "start") = [25] then
        ([appendText thereText], none)
      else if Dict.float mapping "start" = 0 then
        ([helloText], none)
      else
        ([youThereText], none)
    | _ => ([], some (.typeError "Object is not JSON serializable"))
  loads text :=
    if text = appendText helloText then
      some (.dict (Record.append [helloCue]).toDict)
    else if text = appendText youText then
      some (.dict (Record.append [youCue]).toDict)
    else if text = appendText thereText then
      some (.dict (Record.append [thereCue]).toDict)
    else if text = helloText then
      some (.dict helloCue)
    else if text = youThereText then
      some (.dict youThereCue)
    else
      none

/-- The three cues are appended one after the other. -/
def shortCueCalls : List Call :=
  [.appendSegment (.dict helloCue), .appendSegment (.dict youCue), .appendSegment (.dict thereCue)]

theorem committed_shortCues : committed shortCueCodec shortCueCalls (new [] true) =
    [.append [helloCue], .append [youCue], .append [thereCue]] := by
  rfl

theorem stable_shortCues :
    stableSegmentMinDuration 10 [helloCue, youCue, thereCue] = [helloCue, youThereCue] := by
  have hlast : shortenAt segmentDuration mergeSegmentPayloads 10 ([helloCue].length + 1)
      ([helloCue] ++ [youCue, thereCue]) = [helloCue] ++ [youThereCue] :=
    shortenAt_last (by decide +kernel)
  have hfirst : shortenAt segmentDuration mergeSegmentPayloads 10 0 [helloCue, youThereCue] =
      [helloCue, youThereCue] :=
    shortenAt_long mergeSegmentPayloads [] [youThereCue] (by decide +kernel)
  have hsecond : shortenAt segmentDuration mergeSegmentPayloads 10 1 [helloCue, youThereCue] =
      [helloCue, youThereCue] :=
    shortenAt_long mergeSegmentPayloads [helloCue] [] (by decide +kernel)
  change shortenAt _ _ _ 0 (shortenAt _ _ _ 1 (shortenAt _ _ _ 2 _)) = _
  exact (congrArg (shortenAt _ _ _ 0) ((congrArg (shortenAt _ _ _ 1) hlast).trans hsecond)).trans
    hfirst

theorem lossless_shortCues :
    ∀ r ∈ committed shortCueCodec shortCueCalls (new [] true), shortCueCodec.Lossless r := by
  rw [committed_shortCues]
  intro r hr
  rcases List.mem_cons.1 hr with rfl | hr
  · have hbytes : shortCueCodec.bytes (.dict (Record.append [helloCue]).toDict) =
        appendText helloText := List.append_nil _
    refine ⟨by decide +kernel, ?_⟩
    rw [hbytes]
    exact if_pos rfl
  · rcases List.mem_cons.1 hr with rfl | hr
    · have hbytes : shortCueCodec.bytes (.dict (Record.append [youCue]).toDict) =
          appendText youText := List.append_nil _
      refine ⟨by decide +kernel, ?_⟩
      rw [hbytes]
      exact (if_neg (by decide +kernel)).trans (if_pos rfl)
    · obtain rfl := List.mem_singleton.1 hr
      have hbytes : shortCueCodec.bytes (.dict (Record.append [thereCue]).toDict) =
          appendText thereText := List.append_nil _
      refine ⟨by decide +kernel, ?_⟩
      rw [hbytes]
      exact (if_neg (by decide +kernel)).trans ((if_neg (by decide +kernel)).trans (if_pos rfl))

theorem roundTrips_shortCues :
    ∀ cue ∈ stableSegmentMinDuration 10 [helloCue, youCue, thereCue],
      shortCueCodec.RoundTrips cue := by
  rw [stable_shortCues]
  intro cue hcue
  rcases List.mem_cons.1 hcue with rfl | hcue
  · have hbytes : shortCueCodec.bytes (.dict helloCue) = helloText := List.append_nil _
    refine ⟨rfl, ?_, by decide +kernel⟩
    rw [hbytes]
    exact (if_neg (by decide +kernel)).trans ((if_neg (by decide +kernel)).trans
      ((if_neg (by decide +kernel)).trans (if_pos rfl)))
  · obtain rfl := List.mem_singleton.1 hcue
    have hbytes : shortCueCodec.bytes (.dict youThereCue) = youThereText := List.append_nil _
    refine ⟨rfl, ?_, by decide +kernel⟩
    rw [hbytes]
    exact (if_neg (by decide +kernel)).trans ((if_neg (by decide +kernel)).trans
      ((if_neg (by decide +kernel)).trans ((if_neg (by decide +kernel)).trans (if_pos rfl))))

/-- The last two cues are merged, and the first one stays. -/
theorem short_cues_merged_in_place_tail :
    ∃ j', iterMinDurationSegmentPayloads shortCueCodec (.float 10)
      (run shortCueCodec shortCueCalls (new [] true)) = .ok [helloCue, youThereCue] j' := by
  have hyields := short_cues_merged_in_place shortCueCodec [] true shortCueCalls (.float 10) 10 rfl
    (by norm_num) rfl rfl rfl lossless_shortCues
  rw [committed_shortCues] at hyields
  have hyields' := hyields roundTrips_shortCues
  rwa [show ([Record.append [helloCue], .append [youCue], .append [thereCue]]).flatMap
    Record.segments = [helloCue, youCue, thereCue] from rfl, stable_shortCues] at hyields'

end SegmentJournal

end Subgen
