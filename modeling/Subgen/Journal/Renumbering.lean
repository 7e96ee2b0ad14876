import Subgen.Lib.Procedure
import Subgen.Value

/-!
# The cues of a bounded rendering

Subtitles are rendered a few segments at a time, each time with the numbers from 1 on, and
`_write_renumbered_srt` writes the cues of such a fragment with the numbers that they have in all. The cues
are found by a regular expression: digits on a line of their own, before a line with an arrow.

A *fragment* (`Fragment`) is a rendering of cues with any line ends, in the text of which nothing looks
like the beginning of a cue. After any number of fragments all their cues are written, in order
(`writeFragments_eq`).
-/

namespace Subgen

namespace Srt

open Procedure

/-! ## The code -/

/-- The arrow between the two times of a cue. -/
def arrow : Text := text " --> "

/-- `[^\n]+ --> [^\n]+`, of a line. -/
def hasArrow (line : Text) : Bool :=
  (List.range line.length).any fun i =>
    0 < i && arrow.isPrefixOf (line.drop i) && i + arrow.length < line.length

/-- Whether a line with an arrow comes first, and has an end. -/
def timingAhead (t : Text) : Bool := t.contains 10 && hasArrow (t.takeWhile (· ≠ 10))

/-- `_SRT_CUE_START`, at the beginning of a line. -/
def isCueStart (t : Text) : Bool :=
  let index := t.takeWhile Json.isDigit
  let rest := t.dropWhile Json.isDigit
  index ≠ [] && rest.head? = some 10 && timingAhead rest.tail

/-- What stands before the first cue start, and from each of them to the next, of a text that begins on a new
    line or not. -/
def cutAtCueStarts : Bool → Text → Text × List Text
  | _, [] => ([], [])
  | newLine, c :: t =>
    let (before, blocks) := cutAtCueStarts (c = 10) t
    if newLine && isCueStart (c :: t) then ([], (c :: before) :: blocks) else (c :: before, blocks)

/-- `t.replace("\r\n", "\n")`. -/
def replaceCrLf : Text → Text
  | 13 :: 10 :: t => 10 :: replaceCrLf t
  | c :: t => c :: replaceCrLf t
  | [] => []

/-- `t.replace("\r", "\n")`. -/
def replaceCr (t : Text) : Text := t.map fun c => if c = 13 then 10 else c

/-- `t.strip("\n")`. -/
def stripNewlines (t : Text) : Text :=
  ((t.dropWhile (· = 10)).reverse.dropWhile (· = 10)).reverse

/-- The writing of the cues, with the text of the output so far. -/
def writeCues : List Text → ℕ → EStateM String Text ℕ
  | [], nextIndex => return nextIndex
  | block :: blocks, nextIndex =>
    match (stripNewlines block).splitOn 10 with
    | _ :: timing :: line :: lines =>
      if arrow <:+: timing then do
        if 1 < nextIndex then modify (· ++ [10, 10])
        modify (· ++ [10].intercalate (Json.printNat nextIndex :: timing :: line :: lines))
        writeCues blocks (nextIndex + 1)
      else throw "Bounded SRT renderer returned invalid cue"
    | _ => throw "Bounded SRT renderer returned invalid cue"

/-- `_write_renumbered_srt`. -/
def writeRenumberedSrt (fragment : Text) (firstIndex : ℕ) : EStateM String Text ℕ :=
  let normalized := replaceCr (replaceCrLf fragment)
  let (before, blocks) := cutAtCueStarts true normalized
  if blocks = [] then
    if stripText normalized ≠ [] then throw "Bounded SRT renderer returned invalid cues"
    else return firstIndex
  else if stripText before ≠ [] then throw "Bounded SRT renderer returned invalid prefix"
  else writeCues blocks firstIndex

/-- One fragment after another, each with the number behind those before. -/
def writeFragments (fragments : List Text) : EStateM String Text ℕ :=
  fragments.foldlM (fun nextIndex fragment => writeRenumberedSrt fragment nextIndex) 1

/-! ## Fragments -/

/-- A cue: an index, a line of times, and lines of text of which the last is not blank. -/
structure Cue where
  index : Text
  timing : Text
  lines : List Text
  index_ne : index ≠ []
  index_digits : ∀ c ∈ index, Json.isDigit c = true
  timing_arrow : hasArrow timing = true
  oneLine : ∀ line ∈ timing :: lines, 10 ∉ line
  last_ne : ∃ line ∈ lines.getLast?, line ≠ []

/-- A cue as it is rendered, up to the end of its last line. -/
def Cue.rendered (cue : Cue) : Text := [10].intercalate (cue.index :: cue.timing :: cue.lines)

/-- From no line of its text on, with some newlines behind it, does a cue look like the start of one. -/
def Cue.Plain (cue : Cue) (newlines : ℕ) : Prop :=
  ∀ before line after, cue.lines = before ++ line :: after →
    isCueStart ([10].intercalate (line :: after) ++ List.replicate newlines 10) = false

/-- A text with other line ends: each newline may be a return, or both. -/
inductive LineEnds : Text → Text → Prop
  | nil : LineEnds [] []
  | char {c : ℕ} {t t' : Text} (hnewline : c ≠ 10) (hreturn : c ≠ 13) (h : LineEnds t t') :
      LineEnds (c :: t) (c :: t')
  | lf {t t' : Text} (h : LineEnds t t') : LineEnds (10 :: t) (10 :: t')
  | crlf {t t' : Text} (h : LineEnds t t') : LineEnds (10 :: t) (13 :: 10 :: t')
  | cr {t t' : Text} (hnext : t'.head? ≠ some 10) (h : LineEnds t t') : LineEnds (10 :: t) (13 :: t')

/-- Cues with the newlines behind each. -/
def render (items : List (Cue × ℕ)) : Text :=
  items.flatMap fun item => item.1.rendered ++ List.replicate item.2 10

/-- A fragment: a text that is a rendering of cues, with blank lines before, between and behind them. -/
structure Fragment where
  blank : ℕ
  items : List (Cue × ℕ)
  source : Text
  separated : ∀ item ∈ items.dropLast, 0 < item.2
  plain : ∀ item ∈ items, item.1.Plain item.2
  ends : LineEnds (List.replicate blank 10 ++ render items) source

/-- The cues of a fragment without the line breaks between them. -/
def Fragment.cues (f : Fragment) : List Cue := f.items.map Prod.fst

/-- The cues with their numbers from 1 on, and one blank line between them. -/
def numbered (cues : List Cue) : Text :=
  [10, 10].intercalate ((cues.zipIdx 1).map fun (cue, n) =>
    [10].intercalate (Json.printNat n :: cue.timing :: cue.lines))

/-! ## Line ends -/

/-- The two replacements undo other line ends. -/
theorem LineEnds.normalized {t t' : Text} (h : LineEnds t t') : replaceCr (replaceCrLf t') = t := by
  induction h with
  | nil => rfl
  | @char c t t' hnewline hreturn h ih =>
    have hcrlf : replaceCrLf (c :: t') = c :: replaceCrLf t' := by
      rw [replaceCrLf]
      rintro _ rfl
      exact absurd rfl hreturn
    rw [hcrlf, replaceCr, List.map_cons, if_neg hreturn]
    exact congrArg _ ih
  | lf h ih => exact congrArg _ ih
  | crlf h ih => exact congrArg _ ih
  | @cr t t' hnext h ih =>
    have hcrlf : replaceCrLf (13 :: t') = 13 :: replaceCrLf t' := by
      rw [replaceCrLf]
      rintro u - rfl
      exact hnext rfl
    rw [hcrlf]
    exact congrArg _ ih

/-! ## Lines -/

section

variable {l t : Text}

/-- A line that the search matches contains the arrow. -/
theorem arrow_infix_of_hasArrow (h : hasArrow l = true) : arrow <:+: l := by
  obtain ⟨i, -, hi⟩ := List.any_eq_true.1 h
  simp only [Bool.and_eq_true, decide_eq_true_eq] at hi
  exact (List.isPrefixOf_iff_prefix.1 hi.1.2).isInfix.trans (List.drop_suffix i l).isInfix

/-- A line ends at its line break. -/
theorem takeWhile_line (hl : 10 ∉ l) (t : Text) : (l ++ 10 :: t).takeWhile (· ≠ 10) = l := by
  rw [List.takeWhile_append_of_pos, List.takeWhile_cons_of_neg (by simp), List.append_nil]
  intro c hc
  simp only [decide_eq_true_eq]
  rintro rfl
  exact hl hc

/-- Whether a timing line follows depends on the next line alone. -/
theorem timingAhead_line (hl : 10 ∉ l) (t : Text) : timingAhead (l ++ 10 :: t) = hasArrow l := by
  rw [timingAhead, takeWhile_line hl]
  simp

/-- What follows on the end of the first line does not matter. -/
theorem timingAhead_append (h : 10 ∈ l) (t : Text) : timingAhead (l ++ t) = timingAhead l := by
  obtain ⟨line, rest, rfl, hline⟩ := List.eq_append_cons_of_mem h
  rw [List.append_assoc, List.cons_append, timingAhead_line hline, timingAhead_line hline]

/-- A position that no number and line break follow starts no cue. -/
theorem isCueStart_eq_false (h : (l.dropWhile Json.isDigit).head? ≠ some 10) : isCueStart l = false := by
  have hhead : decide ((l.dropWhile Json.isDigit).head? = some 10) = false := decide_eq_false h
  rw [isCueStart, hhead, Bool.and_false, Bool.false_and]

/-- A line begins a cue if it has digits only and the next line has an arrow. -/
theorem isCueStart_line (hl : 10 ∉ l) (t : Text) :
    isCueStart (l ++ 10 :: t) = (l ≠ [] && l.all Json.isDigit && timingAhead t) := by
  by_cases hdigits : ∀ c ∈ l, Json.isDigit c = true
  · have htake : (l ++ 10 :: t).takeWhile Json.isDigit = l := by
      rw [List.takeWhile_append_of_pos hdigits, List.takeWhile_cons_of_neg (by decide), List.append_nil]
    have hdrop : (l ++ 10 :: t).dropWhile Json.isDigit = 10 :: t := by
      rw [List.dropWhile_append_of_pos hdigits, List.dropWhile_cons_of_neg (by decide)]
    rw [isCueStart, htake, hdrop, List.all_eq_true.2 hdigits]
    simp
  · have hall : l.all Json.isDigit = false := by
      rw [Bool.eq_false_iff]
      exact fun h => hdigits (List.all_eq_true.1 h)
    rw [hall, Bool.and_false, Bool.false_and]
    refine isCueStart_eq_false fun hhead => hl ?_
    -- The digits stop before the end of the line, at something else than a newline.
    have hne : l.dropWhile Json.isDigit ≠ [] := fun h => hdigits (List.dropWhile_eq_nil_iff.1 h)
    rw [List.dropWhile_append, if_neg (by simpa using hne), List.head?_append_of_ne_nil _ hne] at hhead
    exact (List.dropWhile_sublist _).subset (List.mem_of_mem_head? hhead)

/-- The last line starts no cue. -/
theorem isCueStart_of_notMem (hl : 10 ∉ l) : isCueStart l = false :=
  isCueStart_eq_false fun hhead => hl ((List.dropWhile_sublist _).subset (List.mem_of_mem_head? hhead))

/-- Inside a line nothing is cut. -/
theorem cut_false (hl : 10 ∉ l) (t : Text) :
    cutAtCueStarts false (l ++ 10 :: t) =
      (l ++ 10 :: (cutAtCueStarts true t).1, (cutAtCueStarts true t).2) := by
  induction l with
  | nil => rfl
  | cons c l ih =>
    obtain ⟨hc, hl⟩ := not_or.1 (List.mem_cons.not.1 hl)
    rw [List.cons_append, cutAtCueStarts, decide_eq_false (Ne.symm hc), ih hl]
    rfl

/-- A line that begins no cue goes to what stands before the next one, and a line that begins one to a block
    of its own. -/
theorem cut_line (hl : 10 ∉ l) (t : Text) :
    cutAtCueStarts true (l ++ 10 :: t) =
      if isCueStart (l ++ 10 :: t) then
        ([], (l ++ 10 :: (cutAtCueStarts true t).1) :: (cutAtCueStarts true t).2)
      else (l ++ 10 :: (cutAtCueStarts true t).1, (cutAtCueStarts true t).2) := by
  rcases l with _ | ⟨c, l⟩
  · rfl
  · obtain ⟨hc, hl⟩ := not_or.1 (List.mem_cons.not.1 hl)
    rw [List.cons_append, cutAtCueStarts, decide_eq_false (Ne.symm hc), cut_false hl, Bool.true_and]
    rfl

/-- The last line is not cut. -/
theorem cut_of_notMem (hl : 10 ∉ l) (newLine : Bool) : cutAtCueStarts newLine l = (l, []) := by
  induction l generalizing newLine with
  | nil => rfl
  | cons c l ih =>
    rw [cutAtCueStarts, ih (fun h => hl (List.mem_cons_of_mem _ h)), isCueStart_of_notMem hl, Bool.and_false]
    rfl

/-- Blank lines begin no cue. -/
theorem cut_newlines (n : ℕ) (t : Text) :
    cutAtCueStarts true (List.replicate n 10 ++ t) =
      (List.replicate n 10 ++ (cutAtCueStarts true t).1, (cutAtCueStarts true t).2) := by
  induction n with
  | zero => rfl
  | succ n ih =>
    have hblank : isCueStart ([] ++ 10 :: (List.replicate n 10 ++ t)) = false :=
      isCueStart_line List.not_mem_nil _
    have hcut := cut_line List.not_mem_nil (List.replicate n 10 ++ t)
    rw [hblank, if_neg Bool.false_ne_true, ih] at hcut
    exact hcut

/-- A line with an arrow is no index. -/
theorem all_isDigit_of_hasArrow (h : hasArrow l = true) : l.all Json.isDigit = false := by
  have hspace : 32 ∈ l := (arrow_infix_of_hasArrow h).subset (by decide)
  rw [Bool.eq_false_iff]
  exact fun hall => absurd (List.all_eq_true.1 hall 32 hspace) (by decide)

/-- A line of digits has no arrow. -/
theorem hasArrow_of_all_isDigit (h : ∀ c ∈ l, Json.isDigit c = true) : hasArrow l = false := by
  rw [Bool.eq_false_iff]
  exact fun harrow => Bool.false_ne_true ((all_isDigit_of_hasArrow harrow).symm.trans (List.all_eq_true.2 h))

end

/-- The lines of a text behind a line of times stay together, up to the next cue. -/
theorem cut_text {lines : List Text} {n : ℕ} {rest : Text} {blocks : List Text}
    (hne : lines ≠ []) (hlines : ∀ line ∈ lines, 10 ∉ line)
    (hplain : ∀ before line after, lines = before ++ line :: after →
      isCueStart ([10].intercalate (line :: after) ++ List.replicate n 10) = false)
    (hrest : cutAtCueStarts true rest = ([], blocks)) (htiming : timingAhead rest = false)
    (hn : rest = [] ∨ 0 < n) :
    cutAtCueStarts true ([10].intercalate lines ++ (List.replicate n 10 ++ rest)) =
      ([10].intercalate lines ++ List.replicate n 10, blocks) := by
  induction lines with
  | nil => exact absurd rfl hne
  | cons line lines ih =>
    have hline : 10 ∉ line := hlines line List.mem_cons_self
    rcases lines with _ | ⟨line', lines⟩
    · rw [List.intercalate_singleton]
      rcases n with _ | n
      · obtain rfl := hn.resolve_right (lt_irrefl 0)
        obtain rfl : [] = blocks := congrArg Prod.snd hrest
        simpa using cut_of_notMem hline true
      · -- Behind the last line comes a blank line, or the index of the next cue.
        have hahead : timingAhead (List.replicate n 10 ++ rest) = false := by
          rcases n with _ | n
          · exact htiming
          · exact timingAhead_line List.not_mem_nil _
        have hstart : isCueStart (line ++ 10 :: (List.replicate n 10 ++ rest)) = false := by
          rw [isCueStart_line hline, hahead, Bool.and_false]
        rw [List.replicate_succ, List.cons_append, cut_line hline, hstart, if_neg Bool.false_ne_true,
          cut_newlines, hrest, List.append_nil]
    · have hline' : 10 ∉ line' := hlines line' (List.mem_cons_of_mem _ List.mem_cons_self)
      have htail := ih (List.cons_ne_nil _ _) (fun l hl => hlines l (List.mem_cons_of_mem _ hl))
        fun before l after heq => hplain (line :: before) l after (congrArg _ heq)
      have hplain := hplain [] line (line' :: lines) rfl
      rw [List.intercalate_cons_cons, List.append_assoc, List.append_assoc, List.singleton_append] at hplain ⊢
      rw [isCueStart_line hline] at hplain
      -- Whether a line of times follows is decided within the text, as a line of it follows.
      have hahead : timingAhead ([10].intercalate (line' :: lines) ++ (List.replicate n 10 ++ rest)) =
          timingAhead ([10].intercalate (line' :: lines) ++ List.replicate n 10) := by
        rcases hn with rfl | hpos
        · rw [List.append_nil]
        · rw [← List.append_assoc]
          exact timingAhead_append (List.mem_append_right _ (List.mem_replicate.2 ⟨hpos.ne', rfl⟩)) rest
      have hstart : isCueStart (line ++ 10 ::
          ([10].intercalate (line' :: lines) ++ (List.replicate n 10 ++ rest))) = false := by
        rw [isCueStart_line hline, hahead]
        exact hplain
      rw [cut_line hline, hstart, if_neg Bool.false_ne_true, htail]
      simp

/-- A cue has at least one line of text. -/
theorem Cue.lines_ne (cue : Cue) : cue.lines ≠ [] := by
  obtain ⟨line, hline, -⟩ := cue.last_ne
  intro hnil
  rw [hnil] at hline
  cases hline

/-- The index is a single line. -/
theorem Cue.notMem_index (cue : Cue) : 10 ∉ cue.index := fun h =>
  absurd (cue.index_digits 10 h) (by decide)

/-- A rendered cue is its index, its timing and its lines. -/
theorem Cue.rendered_eq (cue : Cue) :
    cue.rendered = cue.index ++ 10 :: (cue.timing ++ 10 :: [10].intercalate cue.lines) := by
  rw [Cue.rendered, List.intercalate_cons_cons, List.intercalate_cons_of_ne_nil cue.lines_ne]
  simp

/-- A cue is cut where it begins, and its text is left together. -/
theorem cut_cue {cue : Cue} {n : ℕ} {rest : Text} {blocks : List Text} (hplain : cue.Plain n)
    (hrest : cutAtCueStarts true rest = ([], blocks)) (htiming : timingAhead rest = false)
    (hn : rest = [] ∨ 0 < n) :
    cutAtCueStarts true (cue.rendered ++ (List.replicate n 10 ++ rest)) =
      ([], (cue.rendered ++ List.replicate n 10) :: blocks) := by
  have hlines (line) (h : line ∈ cue.lines) : 10 ∉ line := cue.oneLine line (List.mem_cons_of_mem _ h)
  have hnotMem : 10 ∉ cue.timing := cue.oneLine _ List.mem_cons_self
  have htext := cut_text cue.lines_ne hlines hplain hrest htiming hn
  rw [cue.rendered_eq]
  simp only [List.append_assoc, List.cons_append]
  have hindex : isCueStart (cue.index ++ 10 :: (cue.timing ++ 10 ::
      ([10].intercalate cue.lines ++ (List.replicate n 10 ++ rest)))) = true := by
    rw [isCueStart_line cue.notMem_index, timingAhead_line hnotMem, cue.timing_arrow,
      List.all_eq_true.2 cue.index_digits]
    simpa using cue.index_ne
  have htimes : isCueStart (cue.timing ++ 10 ::
      ([10].intercalate cue.lines ++ (List.replicate n 10 ++ rest))) = false := by
    rw [isCueStart_line hnotMem, all_isDigit_of_hasArrow cue.timing_arrow, Bool.and_false, Bool.false_and]
  rw [cut_line cue.notMem_index, hindex, if_pos rfl, cut_line hnotMem, htimes, if_neg Bool.false_ne_true,
    htext]

/-- Rendered cues start with an index, not with a timing line. -/
theorem timingAhead_render (items : List (Cue × ℕ)) : timingAhead (render items) = false := by
  rcases items with _ | ⟨⟨cue, n⟩, items⟩
  · rfl
  · rw [render, List.flatMap_cons, cue.rendered_eq]
    simp only [List.append_assoc, List.cons_append]
    rw [timingAhead_line cue.notMem_index, hasArrow_of_all_isDigit cue.index_digits]

/-- The blocks of a rendering are its cues with the newlines behind them. -/
theorem cut_render {items : List (Cue × ℕ)} (hseparated : ∀ item ∈ items.dropLast, 0 < item.2)
    (hplain : ∀ item ∈ items, item.1.Plain item.2) :
    cutAtCueStarts true (render items) =
      ([], items.map fun item => item.1.rendered ++ List.replicate item.2 10) := by
  induction items with
  | nil => rfl
  | cons item items ih =>
    have hseparated' : ∀ item' ∈ items.dropLast, 0 < item'.2 := by
      rcases items with _ | ⟨item', items⟩
      · simp
      · exact fun item'' h => hseparated item'' (List.mem_cons_of_mem _ h)
    have hrest := ih hseparated' fun item' h => hplain item' (List.mem_cons_of_mem _ h)
    have hn : render items = [] ∨ 0 < item.2 := by
      rcases items with _ | ⟨item', items⟩
      · exact .inl rfl
      · exact .inr (hseparated item (by simp))
    rw [render, List.flatMap_cons, List.append_assoc]
    exact cut_cue (hplain item List.mem_cons_self) hrest (timingAhead_render items) hn

/-! ## Writing -/

/-- Joining one text more puts a separator in front of it. -/
theorem intercalate_concat {sep x : Text} {l : List Text} (h : l ≠ []) :
    sep.intercalate (l ++ [x]) = sep.intercalate l ++ sep ++ x := by
  induction l with
  | nil => exact absurd rfl h
  | cons y l ih =>
    rcases l with _ | ⟨z, l⟩
    · simp [List.intercalate_cons_cons]
    · rw [List.cons_append, List.intercalate_cons_of_ne_nil (by simp), ih (by simp),
        List.intercalate_cons_cons]
      simp

/-- One more cue. -/
theorem numbered_concat (done : List Cue) (cue : Cue) :
    numbered (done ++ [cue]) = (if 1 < done.length + 1 then numbered done ++ [10, 10] else numbered done) ++
      [10].intercalate (Json.printNat (done.length + 1) :: cue.timing :: cue.lines) := by
  rw [numbered, List.zipIdx_append, List.map_append, List.zipIdx_singleton, List.map_singleton,
    Nat.add_comm 1]
  rcases done with _ | ⟨first, done⟩
  · simp [numbered]
  · rw [intercalate_concat (by simp), if_pos (by simp)]
    rfl

/-- The last line of a cue is not blank. -/
theorem Cue.getLast?_rendered (cue : Cue) : cue.rendered.getLast? ≠ some 10 := by
  obtain ⟨line, hline, hne⟩ := cue.last_ne
  obtain ⟨before, hlines⟩ := List.getLast?_eq_some_iff.1 hline
  have hnotMem : 10 ∉ line := cue.oneLine line (by simp [hlines])
  have hrendered : cue.rendered = [10].intercalate (cue.index :: cue.timing :: before) ++ [10] ++ line := by
    rw [Cue.rendered, hlines, ← intercalate_concat (List.cons_ne_nil _ _)]
    rfl
  rw [hrendered, List.getLast?_append_of_ne_nil _ hne]
  exact fun h => hnotMem (List.mem_of_getLast? h)

/-- A rendered cue does not start with a line break. -/
theorem Cue.head?_rendered (cue : Cue) : cue.rendered.head? ≠ some 10 := by
  rw [cue.rendered_eq, List.head?_append_of_ne_nil _ cue.index_ne]
  exact fun h => cue.notMem_index (List.mem_of_mem_head? h)

/-- Dropping line breaks keeps a text that starts with none. -/
theorem dropWhile_of_head? {t : Text} (h : t.head? ≠ some 10) : t.dropWhile (· = 10) = t := by
  rcases t with _ | ⟨c, t⟩
  · rfl
  · exact List.dropWhile_cons_of_neg fun hc => h (congrArg some (of_decide_eq_true hc))

/-- The newlines around a cue are stripped. -/
theorem stripNewlines_cue (cue : Cue) (n : ℕ) :
    stripNewlines (cue.rendered ++ List.replicate n 10) = cue.rendered := by
  have hne : cue.rendered ≠ [] := by rw [cue.rendered_eq]; simp [cue.index_ne]
  have hhead : (cue.rendered ++ List.replicate n 10).head? ≠ some 10 := by
    rw [List.head?_append_of_ne_nil _ hne]
    exact cue.head?_rendered
  have hlast : cue.rendered.reverse.head? ≠ some 10 := by
    rw [List.head?_reverse]
    exact cue.getLast?_rendered
  rw [stripNewlines, dropWhile_of_head? hhead, List.reverse_append, List.reverse_replicate,
    List.dropWhile_append_of_pos (by simp), dropWhile_of_head? hlast, List.reverse_reverse]

/-- Splitting a rendered cue gives its lines back. -/
theorem splitOn_rendered (cue : Cue) : cue.rendered.splitOn 10 = cue.index :: cue.timing :: cue.lines := by
  refine List.splitOn_intercalate 10 (fun line hline => ?_) (List.cons_ne_nil _ _)
  rcases List.mem_cons.1 hline with rfl | hline
  · exact cue.notMem_index
  · exact cue.oneLine line hline

/-- One cue is written behind those before. -/
theorem run_writeCues_cons (cue : Cue) (n : ℕ) (blocks : List Text) (done : List Cue) :
    writeCues ((cue.rendered ++ List.replicate n 10) :: blocks) (done.length + 1) (numbered done) =
      writeCues blocks (done.length + 2) (numbered (done ++ [cue])) := by
  have harrow : arrow <:+: cue.timing := arrow_infix_of_hasArrow cue.timing_arrow
  obtain ⟨line, lines, htext⟩ := List.exists_cons_of_ne_nil cue.lines_ne
  rw [writeCues, stripNewlines_cue, splitOn_rendered, numbered_concat, htext]
  simp only [if_pos harrow]
  by_cases hfirst : 1 < done.length + 1
  · rw [if_pos hfirst, if_pos hfirst]
    rfl
  · rw [if_neg hfirst, if_neg hfirst]
    rfl

/-- Writing the cues of a fragment numbers them on from what was written, by induction on the cues. -/
theorem run_writeCues (items : List (Cue × ℕ)) (done : List Cue) :
    writeCues (items.map fun item => item.1.rendered ++ List.replicate item.2 10) (done.length + 1)
        (numbered done) =
      .ok ((done ++ items.map Prod.fst).length + 1) (numbered (done ++ items.map Prod.fst)) := by
  induction items generalizing done with
  | nil => simp only [List.map_nil, List.append_nil]; rfl
  | cons item items ih =>
    have hrest := ih (done ++ [item.1])
    rw [List.append_assoc, List.length_append, List.length_singleton] at hrest
    rw [List.map_cons, run_writeCues_cons]
    exact hrest

/-- Line breaks alone strip to nothing. -/
theorem stripText_newlines (n : ℕ) : stripText (List.replicate n 10) = [] := by
  have hblank : (List.replicate n 10).dropWhile isWhitespace = [] :=
    List.dropWhile_eq_nil_iff.2 fun c hc => List.eq_of_mem_replicate hc ▸ by decide
  rw [stripText, hblank]
  rfl

/-- A fragment is written behind those before. -/
theorem run_writeRenumberedSrt (f : Fragment) (done : List Cue) :
    writeRenumberedSrt f.source (done.length + 1) (numbered done) =
      .ok ((done ++ f.cues).length + 1) (numbered (done ++ f.cues)) := by
  rw [writeRenumberedSrt, f.ends.normalized, cut_newlines, cut_render f.separated f.plain, List.append_nil]
  have hrun := run_writeCues f.items done
  rcases hitems : f.items with _ | ⟨item, items⟩
  · rw [hitems] at hrun
    have hrender : stripText (List.replicate f.blank 10 ++ render []) = [] := by
      rw [render, List.flatMap_nil, List.append_nil, stripText_newlines]
    rw [Fragment.cues, hitems, ← hrun]
    simp only [List.map_nil, if_pos, hrender, ne_eq, not_true_eq_false, if_false]
    rfl
  · rw [hitems] at hrun
    rw [Fragment.cues, hitems, ← hrun]
    simp only [List.map_cons, reduceCtorEq, if_false, stripText_newlines, ne_eq, not_true_eq_false]

/-- Writing the fragments one after another continues one numbering. -/
theorem run_foldlM (fragments : List Fragment) (done : List Cue) :
    (fragments.map Fragment.source).foldlM
        (fun nextIndex fragment => writeRenumberedSrt fragment nextIndex) (done.length + 1)
        (numbered done) =
      .ok ((done ++ fragments.flatMap Fragment.cues).length + 1)
        (numbered (done ++ fragments.flatMap Fragment.cues)) := by
  induction fragments generalizing done with
  | nil => simp only [List.map_nil, List.flatMap_nil, List.append_nil]; rfl
  | cons f fragments ih =>
    have hrest := ih (done ++ f.cues)
    rw [List.append_assoc] at hrest
    rw [List.map_cons, List.foldlM_cons, List.flatMap_cons, run_bind_of_ok (run_writeRenumberedSrt f done)]
    exact hrest

/-- All the cues of the fragments are written, in order, with the numbers from 1 on and a blank line between
    them, and the next number is returned. -/
theorem writeFragments_eq (fragments : List Fragment) :
    writeFragments (fragments.map Fragment.source) [] =
      .ok ((fragments.flatMap Fragment.cues).length + 1) (numbered (fragments.flatMap Fragment.cues)) :=
  run_foldlM fragments []

/-! ## An example -/

/-- A cue of one line. -/
def greeting : Cue where
  index := text "1"
  timing := text "00:00:00,000 --> 00:00:01,000"
  lines := [text "Hello"]
  index_ne := by decide
  index_digits := by decide
  timing_arrow := by decide
  oneLine := by decide
  last_ne := ⟨text "Hello", rfl, by decide⟩

/-- The greeting is a plain fragment. -/
theorem plain_greeting (newlines : ℕ) : greeting.Plain newlines := by
  intro before line after heq
  obtain ⟨rfl, rfl, rfl⟩ : before = [] ∧ text "Hello" = line ∧ after = [] := by
    rcases before with _ | ⟨_, before⟩
    · simpa [greeting, eq_comm] using heq
    · simp [greeting] at heq
  rw [List.intercalate_singleton]
  exact isCueStart_eq_false fun h => absurd (Option.some.inj h) (by decide)

/-- A line without line breaks is kept in front of every translation of the rest. -/
theorem LineEnds.line {l t t' : Text} (hl : ∀ c ∈ l, c ≠ 10 ∧ c ≠ 13) (h : LineEnds t t') :
    LineEnds (l ++ t) (l ++ t') := by
  induction l with
  | nil => exact h
  | cons c l ih =>
    obtain ⟨⟨hnewline, hreturn⟩, hl⟩ := List.forall_mem_cons.1 hl
    exact .char hnewline hreturn (ih hl)

/-- Two of them, in a fragment with returns and newlines. -/
def greetings : Fragment where
  blank := 0
  items := [(greeting, 2), (greeting, 0)]
  source := greeting.index ++ 13 :: 10 :: (greeting.timing ++ 13 :: 10 :: (text "Hello" ++
    13 :: 10 :: 10 :: (greeting.index ++ 13 :: (greeting.timing ++ 10 :: (text "Hello" ++ [])))))
  separated := by decide
  plain item hitem := by
    rcases List.mem_cons.1 hitem with rfl | hitem
    · exact plain_greeting 2
    · obtain rfl := List.mem_singleton.1 hitem
      exact plain_greeting 0
  ends := by
    have hindex : ∀ c ∈ greeting.index, c ≠ 10 ∧ c ≠ 13 := by decide
    have htiming : ∀ c ∈ greeting.timing, c ≠ 10 ∧ c ≠ 13 := by decide
    have htext : ∀ c ∈ text "Hello", c ≠ 10 ∧ c ≠ 13 := by decide
    have hrender : render [(greeting, 2), (greeting, 0)] =
        greeting.index ++ 10 :: (greeting.timing ++ 10 :: (text "Hello" ++
          10 :: 10 :: (greeting.index ++ 10 :: (greeting.timing ++ 10 :: (text "Hello" ++ []))))) := by
      decide +kernel
    rw [List.replicate_zero, List.nil_append, hrender]
    refine .line hindex (.crlf (.line htiming (.crlf (.line htext (.crlf (.lf ?_))))))
    exact .line hindex (.cr (by decide) (.line htiming (.lf (.line htext .nil))))

example : (cutAtCueStarts true (replaceCr (replaceCrLf greetings.source))).2 =
    [greeting.rendered ++ [10, 10], greeting.rendered] := by
  decide +kernel

end Srt

end Subgen
