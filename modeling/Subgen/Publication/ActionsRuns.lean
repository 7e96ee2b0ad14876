import Subgen.Publication.Intent

/-!
# The listing of the workflow runs

`fetch_all_actions_run_ids`, which reads the runs of the repository page by page, until it has as many as
the first page says there are. A server may answer anything; it is asked for each page once.

An answer is either refused with a `PublicationBlocked` or the end of a complete listing
(`BlockedOrComplete`), unless another exception comes out (`fetchAllActionsRunIds_iff`), from one of three
texts on a page that is reached: one that `json.loads` itself does not take; one without `total_count` or
`workflow_runs` but with a key that is neither, which the comparison of the keys lets through; or one with
a run whose status is an array or an object, which cannot be looked up in a set.
-/

namespace Subgen

open Procedure

/-- What the client gets for a page. -/
structure HttpResponse where
  status : ℕ
  redirected : Bool
  body : List ℕ

/-- The answers to the requests, by their number and their path. -/
abbrev HttpClient := ℕ → Text → HttpResponse

/-- `_github`. -/
def HttpResponse.github (response : HttpResponse) : Except LoadError HttpResponse :=
  if response.redirected ∨ (300 ≤ response.status ∧ response.status < 400) then
    .error (.blocked "github_redirect_forbidden")
  else .ok response

/-- `_json`. -/
def HttpResponse.json (I : Interpreter) (response : HttpResponse) (label : String) :
    Except LoadError (List (Text × Json)) :=
  if response.redirected then .error (.blocked (label ++ "_redirected"))
  else I.strictJsonObject label response.body

namespace Actions

/-- The keys of a page. -/
def pageKeys : List Text := [text "total_count", text "workflow_runs"]

/-- The path of a page. -/
def path (repository : Text) (page : ℕ) : Text :=
  text "/repos/" ++ repository ++ text "/actions/runs?per_page=100&page=" ++ Json.printNat page

/-- `status in {None, "completed"}`, which raises a `TypeError` for what has no hash. -/
def isQuiescent : Json → Except LoadError Bool
  | .null => .ok true
  | .str s => .ok (s = text "completed")
  | .array _ | .object _ => .error .uncaught
  | _ => .ok false

/-- The identifier of one run. -/
def runIdentifier (run : Json) : Except LoadError ℤ :=
  match run with
  | .object items =>
    match Json.get items (text "id") with
    | .int identifier => do
      -- The status is looked up after all else was as it should be.
      if identifier ≤ 0 then throw (.blocked "actions_run_not_quiescent")
      if ← isQuiescent (Json.get items (text "status")) then return identifier
      throw (.blocked "actions_run_not_quiescent")
    | _ => .error (.blocked "actions_run_not_quiescent")
  | _ => .error (.blocked "actions_response_schema")

/-- The check of the two values of a page, against the total of the pages before. -/
def consistentRuns (total : Option ℕ) : Json → Json → Except LoadError (ℕ × List Json)
  | .int observed, .array runs =>
    if observed < 0 ∨ ∃ t ∈ total, observed ≠ t then .error (.blocked "actions_response_inconsistent")
    else .ok (observed.toNat, runs)
  | _, _ => .error (.blocked "actions_response_inconsistent")

/-- The total and the runs of a page. -/
def statedRuns (items : List (Text × Json)) (total : Option ℕ) : Except LoadError (ℕ × List Json) :=
  let keys := items.map Prod.fst
  -- The keys have to be fewer than those two to be refused.
  if keys ⊆ pageKeys ∧ ¬ pageKeys ⊆ keys then .error (.blocked "actions_response_schema")
  else
    match items.lookup (text "total_count"), items.lookup (text "workflow_runs") with
    | some observed, some runs => consistentRuns total observed runs
    -- A `KeyError`.
    | _, _ => .error .uncaught

section

variable (I : Interpreter) (client : HttpClient) (repository : Text)

/-- What is read of a page. -/
def document (page : ℕ) : Except LoadError (List (Text × Json)) := do
  let response ← (client page (path repository page)).github
  if response.status ≠ 200 then .error (.blocked "actions_query_not_authoritative")
  else response.json I "actions_runs"

/-- A page: its total, and its runs with their identifiers. -/
def readPage (page : ℕ) (total : Option ℕ) : Except LoadError (ℕ × List Json × List ℤ) := do
  let items ← document I client repository page
  let (observed, runs) ← statedRuns items total
  let identifiers ← runs.mapM runIdentifier
  return (observed, runs, identifiers)

/-! ## What is stated -/

/-- What a page says: the total and the runs. -/
def States (page total : ℕ) (runs : List Json) : Prop :=
  ∃ items, document I client repository page = .ok items ∧
    items.lookup (text "total_count") = some (.int total) ∧
    items.lookup (text "workflow_runs") = some (.array runs)

/-- A run that does not go on. -/
def Finished (run : Json) (identifier : ℤ) : Prop :=
  ∃ items, run = .object items ∧ Json.get items (text "id") = .int identifier ∧ 0 < identifier ∧
    (Json.get items (text "status") = .null ∨ Json.get items (text "status") = .str (text "completed"))

/-- A list that has all: the pages that were read say how long it is, and all but the last are full. -/
def Complete (identifiers : List ℤ) : Prop :=
  identifiers.Nodup ∧ (∀ i ∈ identifiers, 0 < i) ∧ ∃ listing : List (List Json), listing ≠ [] ∧
    (∀ (k : ℕ) runs, listing[k]? = some runs → States I client repository (k + 1) identifiers.length runs) ∧
    (∀ runs ∈ listing.dropLast, runs.length = 100) ∧ List.Forall₂ Finished listing.flatten identifiers

/-- What is to come of it. -/
def BlockedOrComplete : Except LoadError (List ℤ) → Prop
  | .error e => e.isBlocked
  | .ok identifiers => Complete I client repository identifiers

/-! ## What goes wrong -/

/-- The first pages have a hundred runs each, all finished, and there are more. -/
def Full (k total : ℕ) : Prop :=
  (0 < k → 100 * k < total) ∧ ∀ i < k, ∃ runs, States I client repository (i + 1) total runs ∧
    runs.length = 100 ∧ ∀ run ∈ runs, ∃ identifier, Finished run identifier

/-- A text that `json.loads` does not take, for its integers or its depth. -/
def Refused (response : HttpResponse) : Prop :=
  response.status = 200 ∧ response.redirected = false ∧ response.body ≠ [] ∧
    ¬ [0xef, 0xbb, 0xbf] <+: response.body ∧ 13 ∉ response.body ∧
    ∃ t, decodeUtf8 response.body = some t ∧ I.refuses t = true

/-- A run that is as it should be up to its status, which is an array or an object. -/
def Unhashable (run : Json) : Prop :=
  ∃ items identifier, run = .object items ∧ Json.get items (text "id") = .int identifier ∧
    0 < identifier ∧ ((∃ vs, Json.get items (text "status") = .array vs) ∨
      ∃ members, Json.get items (text "status") = .object members)

/-- A page, of which the runs are looked at if it has the total, from which no other exception comes. -/
structure Regular (page total : ℕ) : Prop where
  taken : ¬ Refused I (client page (path repository page))
  keys : ∀ items, document I client repository page = .ok items →
    pageKeys ⊆ items.map Prod.fst ∨ items.map Prod.fst ⊆ pageKeys
  statuses : ∀ before run after, States I client repository page total (before ++ run :: after) →
    (∀ other ∈ before, ∃ identifier, Finished other identifier) → ¬ Unhashable run

/-! ## One page -/

variable {I client repository}

theorem isQuiescent_eq_true {status : Json} :
    isQuiescent status = .ok true ↔ status = .null ∨ status = .str (text "completed") := by
  cases status <;> simp [isQuiescent]

theorem isQuiescent_eq_uncaught {status : Json} {e : LoadError} :
    isQuiescent status = .error e ↔
      e = .uncaught ∧ ((∃ vs, status = .array vs) ∨ ∃ members, status = .object members) := by
  cases status <;> simp [isQuiescent, eq_comm]

/-- The identifier of a run with its own, which only the status decides on. -/
theorem runIdentifier_of_pos {items : List (Text × Json)} {n : ℤ}
    (hid : Json.get items (text "id") = .int n) (hpos : 0 < n) :
    runIdentifier (.object items) = (isQuiescent (Json.get items (text "status")) >>= fun quiescent =>
      if quiescent then .ok n else .error (.blocked "actions_run_not_quiescent")) := by
  rw [runIdentifier]
  simp only [hid, if_neg hpos.not_ge]
  rcases isQuiescent (Json.get items (text "status")) with e | _ | _ <;> rfl

/-- Any other run is refused. -/
theorem runIdentifier_of_not {run : Json}
    (h : ¬ ∃ items n, run = .object items ∧ Json.get items (text "id") = .int n ∧ 0 < n) :
    ∃ code, runIdentifier run = .error (.blocked code) := by
  rcases run with _ | _ | _ | _ | _ | _ | items
  case object =>
    rw [runIdentifier]
    rcases hid : Json.get items (text "id") with _ | _ | n | _ | _ | _ | _
    case int =>
      have hneg : n ≤ 0 := not_lt.1 fun hpos => h ⟨items, n, rfl, hid, hpos⟩
      simp only [if_pos hneg]
      exact ⟨_, rfl⟩
    all_goals exact ⟨_, rfl⟩
  all_goals exact ⟨_, rfl⟩

theorem runIdentifier_eq_ok {run : Json} {n : ℤ} : runIdentifier run = .ok n ↔ Finished run n := by
  by_cases h : ∃ items m, run = .object items ∧ Json.get items (text "id") = .int m ∧ 0 < m
  · obtain ⟨items, m, rfl, hid, hpos⟩ := h
    simp only [runIdentifier_of_pos hid hpos, bind_eq_ok, Finished, Json.object.injEq]
    constructor
    · rintro ⟨quiescent, hstatus, hn⟩
      rcases quiescent with _ | _
      · cases hn
      · obtain rfl : m = n := Except.ok.inj hn
        exact ⟨items, rfl, hid, hpos, isQuiescent_eq_true.1 hstatus⟩
    · rintro ⟨_, rfl, hn, -, hstatus⟩
      obtain rfl : m = n := Json.int.inj (hid.symm.trans hn)
      exact ⟨true, isQuiescent_eq_true.2 hstatus, rfl⟩
  · obtain ⟨code, hcode⟩ := runIdentifier_of_not h
    rw [hcode]
    constructor
    · intro hn; cases hn
    · rintro ⟨items, rfl, hid, hpos, -⟩
      exact absurd ⟨items, n, rfl, hid, hpos⟩ h

theorem forall₂_finished_iff {runs : List Json} {found : List ℤ} :
    List.Forall₂ Finished runs found ↔ runs.mapM runIdentifier = .ok found := by
  rw [mapM_eq_ok]
  simp only [runIdentifier_eq_ok]

theorem exists_forall₂_finished {runs : List Json} (h : ∀ run ∈ runs, ∃ n, Finished run n) :
    ∃ found, List.Forall₂ Finished runs found := by
  rcases hmap : runs.mapM runIdentifier with e | found
  · obtain ⟨before, run, after, rfl, -, hrun⟩ := mapM_eq_error.1 hmap
    obtain ⟨n, hn⟩ := h run (by simp)
    rw [runIdentifier_eq_ok.2 hn] at hrun
    cases hrun
  · exact ⟨found, forall₂_finished_iff.2 hmap⟩

theorem runIdentifier_eq_uncaught {run : Json} :
    runIdentifier run = .error .uncaught ↔ Unhashable run := by
  by_cases h : ∃ items m, run = .object items ∧ Json.get items (text "id") = .int m ∧ 0 < m
  · obtain ⟨items, m, rfl, hid, hpos⟩ := h
    simp only [runIdentifier_of_pos hid hpos, bind_eq_error, isQuiescent_eq_uncaught, true_and]
    constructor
    · rintro (hstatus | ⟨quiescent, -, hn⟩)
      · exact ⟨items, m, rfl, hid, hpos, hstatus⟩
      · rcases quiescent with _ | _ <;> cases hn
    · rintro ⟨_, _, heq, -, -, hstatus⟩
      obtain rfl := Json.object.inj heq
      exact .inl hstatus
  · obtain ⟨code, hcode⟩ := runIdentifier_of_not h
    rw [hcode]
    constructor
    · intro hn; cases hn
    · rintro ⟨items, n, rfl, hid, hpos, -⟩
      exact absurd ⟨items, n, rfl, hid, hpos⟩ h

theorem strictJsonObject_eq_uncaught {label : String} {body : List ℕ} :
    I.strictJsonObject label body = .error .uncaught ↔
      body ≠ [] ∧ ¬ [0xef, 0xbb, 0xbf] <+: body ∧ 13 ∉ body ∧
        ∃ t, decodeUtf8 body = some t ∧ I.refuses t = true := by
  rw [Interpreter.strictJsonObject]
  by_cases hencoding : body = [] ∨ [0xef, 0xbb, 0xbf] <+: body ∨ 13 ∈ body
  · rw [if_pos hencoding]
    refine iff_of_false (by simp) fun ⟨hne, hmark, hreturn, _⟩ => ?_
    exact hencoding.elim hne (·.elim hmark hreturn)
  · rw [if_neg hencoding]
    simp only [not_or] at hencoding
    obtain ⟨hne, hmark, hreturn⟩ := hencoding
    rcases hdecode : decodeUtf8 body with _ | t
    · simp
    · by_cases hrefuses : I.refuses t = true
      · simp [hrefuses, hne, hmark, hreturn]
      · simp only [hrefuses]
        rcases Json.loads I.floats t with _ | ⟨_ | _ | _ | _ | _ | _ | _⟩ <;> simp [hrefuses]

theorem document_eq_uncaught {page : ℕ} :
    document I client repository page = .error .uncaught ↔
      Refused I (client page (path repository page)) := by
  rw [document, Refused, HttpResponse.github, bind_eq_error]
  generalize client page (path repository page) = response
  by_cases hredirect : response.redirected = true ∨ 300 ≤ response.status ∧ response.status < 400
  · rw [if_pos hredirect]
    refine iff_of_false (by simp) fun ⟨hstatus, hredirected, _⟩ => ?_
    rcases hredirect with h | h
    · exact Bool.false_ne_true (hredirected.symm.trans h)
    · omega
  · rw [if_neg hredirect]
    have hredirected : response.redirected = false := Bool.eq_false_of_not_eq_true fun h => hredirect (.inl h)
    by_cases hstatus : response.status = 200
    · simp only [reduceCtorEq, false_or, Except.ok.injEq, exists_eq_left', ne_eq, hstatus,
        not_true_eq_false, if_false, true_and, HttpResponse.json, hredirected, Bool.false_eq_true]
      exact strictJsonObject_eq_uncaught
    · refine iff_of_false ?_ fun h => hstatus h.1
      rintro (h | ⟨_, h, hread⟩)
      · cases h
      · obtain rfl := Except.ok.inj h
        rw [if_pos hstatus] at hread
        cases hread

theorem mem_keys_iff {items : List (Text × Json)} {k : Text} :
    k ∈ items.map Prod.fst ↔ ∃ v, items.lookup k = some v := by
  rw [← Option.isSome_iff_exists, List.lookup_isSome_iff, List.mem_map]
  exact exists_congr fun item => and_congr_right fun _ => eq_comm.trans beq_iff_eq.symm

theorem keys_iff {items : List (Text × Json)} :
    pageKeys ⊆ items.map Prod.fst ↔ (∃ v, items.lookup (text "total_count") = some v) ∧
      ∃ v, items.lookup (text "workflow_runs") = some v := by
  rw [pageKeys, List.cons_subset, List.cons_subset, mem_keys_iff, mem_keys_iff]
  exact and_congr_right fun _ => and_iff_left (List.nil_subset _)

theorem statedRuns_of_keys {items : List (Text × Json)} {total : Option ℕ} {count found : Json}
    (hcount : items.lookup (text "total_count") = some count)
    (hruns : items.lookup (text "workflow_runs") = some found) :
    statedRuns items total = consistentRuns total count found := by
  have hkeys : pageKeys ⊆ items.map Prod.fst := keys_iff.2 ⟨⟨_, hcount⟩, ⟨_, hruns⟩⟩
  rw [statedRuns, if_neg fun h => h.2 hkeys, hcount, hruns]

/-- Without one of the two keys. -/
theorem statedRuns_of_not {items : List (Text × Json)} (total : Option ℕ)
    (hkeys : ¬ pageKeys ⊆ items.map Prod.fst) :
    statedRuns items total = if items.map Prod.fst ⊆ pageKeys then
      .error (.blocked "actions_response_schema") else .error .uncaught := by
  rw [statedRuns]
  by_cases hfew : items.map Prod.fst ⊆ pageKeys
  · rw [if_pos ⟨hfew, hkeys⟩, if_pos hfew]
  · rw [if_neg fun h => hfew h.1, if_neg hfew]
    rcases hcount : items.lookup (text "total_count") with _ | count
    · rfl
    · rcases hruns : items.lookup (text "workflow_runs") with _ | found
      · rfl
      · exact absurd (keys_iff.2 ⟨⟨_, hcount⟩, ⟨_, hruns⟩⟩) hkeys

theorem consistentRuns_eq_ok {total : Option ℕ} {count found : Json} {observed : ℕ} {runs : List Json} :
    consistentRuns total count found = .ok (observed, runs) ↔
      count = .int observed ∧ found = .array runs ∧ ∀ t ∈ total, observed = t := by
  constructor
  · intro h
    rw [consistentRuns.eq_def] at h
    split at h
    · split_ifs at h with hbad
      · obtain ⟨hobserved, hall⟩ := not_or.1 hbad
        obtain ⟨rfl, rfl⟩ := Prod.mk.inj (Except.ok.inj h)
        rename_i n found
        have hn : ((n.toNat : ℕ) : ℤ) = n := Int.toNat_of_nonneg (not_lt.1 hobserved)
        refine ⟨by rw [hn], rfl, fun t ht => ?_⟩
        by_contra hne
        exact hall ⟨t, ht, fun heq => hne (by omega)⟩
    · cases h
  · rintro ⟨rfl, rfl, hall⟩
    rw [consistentRuns, if_neg]
    · rfl
    · rintro (hneg | ⟨t, ht, hne⟩)
      · omega
      · exact hne (congrArg _ (hall t ht))

theorem consistentRuns_ne_uncaught {total : Option ℕ} {count found : Json} :
    consistentRuns total count found ≠ .error .uncaught := by
  rw [consistentRuns.eq_def]
  split
  · split_ifs <;> simp
  · simp

theorem statedRuns_eq_ok {items : List (Text × Json)} {total : Option ℕ} {observed : ℕ} {runs : List Json} :
    statedRuns items total = .ok (observed, runs) ↔
      items.lookup (text "total_count") = some (.int observed) ∧
        items.lookup (text "workflow_runs") = some (.array runs) ∧ ∀ t ∈ total, observed = t := by
  by_cases hkeys : pageKeys ⊆ items.map Prod.fst
  · obtain ⟨⟨count, hcount⟩, ⟨found, hruns⟩⟩ := keys_iff.1 hkeys
    rw [statedRuns_of_keys hcount hruns, hcount, hruns, consistentRuns_eq_ok, Option.some_inj,
      Option.some_inj]
  · rw [statedRuns_of_not total hkeys]
    refine iff_of_false (by split_ifs <;> simp) fun ⟨hcount, hruns, _⟩ => ?_
    exact hkeys (keys_iff.2 ⟨⟨_, hcount⟩, ⟨_, hruns⟩⟩)

theorem statedRuns_eq_uncaught {items : List (Text × Json)} {total : Option ℕ} :
    statedRuns items total = .error .uncaught ↔
      ¬ pageKeys ⊆ items.map Prod.fst ∧ ¬ items.map Prod.fst ⊆ pageKeys := by
  by_cases hkeys : pageKeys ⊆ items.map Prod.fst
  · obtain ⟨⟨count, hcount⟩, ⟨found, hruns⟩⟩ := keys_iff.1 hkeys
    rw [statedRuns_of_keys hcount hruns]
    exact iff_of_false consistentRuns_ne_uncaught fun h => h.1 hkeys
  · rw [statedRuns_of_not total hkeys]
    split_ifs with hfew <;> simp [hkeys, hfew]

/-- What a page gives when it is read: what it states, and the identifiers of its runs. -/
theorem readPage_eq_ok {page : ℕ} {total : Option ℕ} {observed : ℕ} {runs : List Json} {found : List ℤ} :
    readPage I client repository page total = .ok (observed, runs, found) ↔
      States I client repository page observed runs ∧ (∀ t ∈ total, observed = t) ∧
        List.Forall₂ Finished runs found := by
  rw [readPage, bind_eq_ok, forall₂_finished_iff]
  constructor
  · rintro ⟨items, hitems, h⟩
    obtain ⟨⟨observed', runs'⟩, hstated, h⟩ := bind_eq_ok.1 h
    obtain ⟨found', hfound, h⟩ := bind_eq_ok.1 h
    obtain ⟨rfl, rfl, rfl⟩ : observed' = observed ∧ runs' = runs ∧ found' = found := by
      simpa [pure, Except.pure] using h
    obtain ⟨hcount, hruns, htotal⟩ := statedRuns_eq_ok.1 hstated
    exact ⟨⟨items, hitems, hcount, hruns⟩, htotal, hfound⟩
  · rintro ⟨⟨items, hitems, hcount, hruns⟩, htotal, hfound⟩
    refine ⟨items, hitems, bind_eq_ok.2 ⟨_, statedRuns_eq_ok.2 ⟨hcount, hruns, htotal⟩, ?_⟩⟩
    exact bind_eq_ok.2 ⟨found, hfound, rfl⟩

/-- The exceptions of a page that are no `PublicationBlocked`. -/
theorem readPage_eq_uncaught {page : ℕ} {total : Option ℕ} :
    readPage I client repository page total = .error .uncaught ↔
      Refused I (client page (path repository page)) ∨
      (∃ items, document I client repository page = .ok items ∧
        ¬ pageKeys ⊆ items.map Prod.fst ∧ ¬ items.map Prod.fst ⊆ pageKeys) ∨
      ∃ observed before run after, States I client repository page observed (before ++ run :: after) ∧
        (∀ t ∈ total, observed = t) ∧ (∀ other ∈ before, ∃ identifier, Finished other identifier) ∧
        Unhashable run := by
  rw [readPage, bind_eq_error, document_eq_uncaught]
  refine or_congr_right ⟨?_, ?_⟩
  · rintro ⟨items, hitems, h⟩
    rcases bind_eq_error.1 h with h | ⟨⟨observed, runs⟩, hstated, h⟩
    · exact .inl ⟨items, hitems, statedRuns_eq_uncaught.1 h⟩
    · obtain ⟨hcount, hruns, htotal⟩ := statedRuns_eq_ok.1 hstated
      rcases bind_eq_error.1 h with h | ⟨_, _, h⟩
      · obtain ⟨before, run, after, rfl, hbefore, hrun⟩ := mapM_eq_error.1 h
        refine .inr ⟨observed, before, run, after, ⟨items, hitems, hcount, hruns⟩, htotal, ?_,
          runIdentifier_eq_uncaught.1 hrun⟩
        exact fun other hother => (hbefore other hother).imp fun _ => runIdentifier_eq_ok.1
      · cases h
  · rintro (⟨items, hitems, hkeys⟩ | ⟨observed, before, run, after, hstates, htotal, hbefore, hrun⟩)
    · exact ⟨items, hitems, bind_eq_error.2 (.inl (statedRuns_eq_uncaught.2 hkeys))⟩
    · obtain ⟨items, hitems, hcount, hruns⟩ := hstates
      refine ⟨items, hitems, bind_eq_error.2 (.inr ⟨_, statedRuns_eq_ok.2 ⟨hcount, hruns, htotal⟩, ?_⟩)⟩
      refine bind_eq_error.2 (.inl (mapM_eq_error.2 ⟨before, run, after, rfl, ?_, ?_⟩))
      · exact fun other hother => (hbefore other hother).imp fun _ => runIdentifier_eq_ok.2
      · exact runIdentifier_eq_uncaught.2 hrun

/-! ## The loop -/

variable (I client repository)

/-- The pages from one on, until there are as many identifiers as the total. -/
def fetchPages (page : ℕ) (total : Option ℕ) (identifiers : List ℤ) : Except LoadError (List ℤ) :=
  match _hpage : readPage I client repository page total with
  | .error e => .error e
  | .ok (observed, runs, found) =>
    if _hmore : observed < (identifiers ++ found).length then
      .error (.blocked "actions_response_inconsistent")
    else if _hall : (identifiers ++ found).length = observed then .ok (identifiers ++ found)
    else if _hfull : runs = [] ∨ runs.length ≠ 100 then .error (.blocked "actions_pagination_incomplete")
    else fetchPages (page + 1) (some observed) (identifiers ++ found)
-- The first page fixes the total, and each full page comes a hundred nearer to it.
termination_by (total.isNone.toNat, total.getD 0 - identifiers.length)
decreasing_by
  have hfound := (readPage_eq_ok.1 _hpage).2.2.length_eq
  have htotal := (readPage_eq_ok.1 _hpage).2.1
  rw [List.length_append] at _hmore _hall
  rcases total with _ | t
  · exact Prod.Lex.left _ _ Nat.zero_lt_one
  · obtain rfl : observed = t := htotal t rfl
    refine Prod.Lex.right _ ?_
    simp only [Option.getD_some, List.length_append]
    omega

/-- `fetch_all_actions_run_ids`. -/
def fetchAllActionsRunIds : Except LoadError (List ℤ) := do
  let identifiers ← fetchPages I client repository 1 none []
  if identifiers.dedup.length ≠ identifiers.length then .error (.blocked "actions_run_id_duplicate")
  else return identifiers

/-- What is known before a page is read: the pages before it are full. -/
structure Entered (k : ℕ) (total : Option ℕ) (identifiers : List ℤ) (listing : List (List Json)) : Prop where
  first : total = none ↔ k = 0
  pages : listing.length = k
  states : ∀ (i : ℕ) runs, listing[i]? = some runs → ∀ t ∈ total, States I client repository (i + 1) t runs
  full : ∀ runs ∈ listing, runs.length = 100
  finished : List.Forall₂ Finished listing.flatten identifiers
  more : ∀ t ∈ total, identifiers.length < t

variable {I client repository}

/-- The loop goes on after a full page. -/
theorem fetchPages_of_full {page : ℕ} {total : Option ℕ} {identifiers : List ℤ} {observed : ℕ}
    {runs : List Json} {found : List ℤ}
    (hpage : readPage I client repository page total = .ok (observed, runs, found))
    (hmore : (identifiers ++ found).length < observed) (hfull : runs.length = 100) :
    fetchPages I client repository page total identifiers =
      fetchPages I client repository (page + 1) (some observed) (identifiers ++ found) := by
  have hne : ¬ (runs = [] ∨ runs.length ≠ 100) := by
    rintro (rfl | h)
    · cases hfull
    · exact h hfull
  rw [fetchPages, hpage]
  dsimp only
  rw [dif_neg hmore.not_gt, dif_neg hmore.ne, dif_neg hne]

theorem entered_zero : Entered I client repository 0 none [] [] where
  first := iff_of_true rfl rfl
  pages := rfl
  states _ _ h := by simp at h
  full _ h := by simp at h
  finished := .nil
  more _ h := by simp at h

section

variable {k : ℕ} {total : Option ℕ} {identifiers : List ℤ} {listing : List (List Json)} {observed : ℕ}
  {runs : List Json} {found : List ℤ}

/-- A page states the total of the pages before it. -/
theorem Entered.states_append (h : Entered I client repository k total identifiers listing)
    (hpage : readPage I client repository (k + 1) total = .ok (observed, runs, found)) (i : ℕ)
    (runs' : List Json) (hi : (listing ++ [runs])[i]? = some runs') :
    States I client repository (i + 1) observed runs' := by
  obtain ⟨hstates, htotal, -⟩ := readPage_eq_ok.1 hpage
  rcases lt_or_ge i listing.length with hlt | hge
  · rw [List.getElem?_append_left hlt] at hi
    have hne : total ≠ none := fun hnone => by
      have hzero := h.first.1 hnone
      have hlength := h.pages
      omega
    obtain ⟨t, rfl⟩ := Option.ne_none_iff_exists'.1 hne
    rw [htotal t rfl]
    exact h.states i runs' hi t rfl
  · rw [List.getElem?_append_right hge] at hi
    have hi' : i - listing.length = 0 := by
      by_contra hne
      rw [List.getElem?_singleton, if_neg hne] at hi
      cases hi
    rw [hi'] at hi
    obtain rfl : runs = runs' := Option.some.inj hi
    have hik : i = k := by have hlength := h.pages; omega
    exact hik ▸ hstates

theorem Entered.finished_append (h : Entered I client repository k total identifiers listing)
    (hpage : readPage I client repository (k + 1) total = .ok (observed, runs, found)) :
    List.Forall₂ Finished (listing ++ [runs]).flatten (identifiers ++ found) := by
  rw [List.flatten_append, List.flatten_singleton]
  exact List.rel_append h.finished (readPage_eq_ok.1 hpage).2.2

/-- A full page leads to the next. -/
theorem Entered.step (h : Entered I client repository k total identifiers listing)
    (hpage : readPage I client repository (k + 1) total = .ok (observed, runs, found))
    (hmore : (identifiers ++ found).length < observed) (hfull : runs.length = 100) :
    Entered I client repository (k + 1) (some observed) (identifiers ++ found) (listing ++ [runs]) where
  first := by simp
  pages := by rw [List.length_append, h.pages, List.length_singleton]
  states i runs' hi t ht := by
    obtain rfl : observed = t := Option.some.inj ht
    exact h.states_append hpage i runs' hi
  full := by
    simp only [List.mem_append, List.mem_singleton]
    rintro runs' (hruns | rfl)
    · exact h.full _ hruns
    · exact hfull
  finished := h.finished_append hpage
  more t ht := by
    obtain rfl : observed = t := Option.some.inj ht
    exact hmore

/-- The identifiers of the last page end the list. -/
theorem Entered.complete (h : Entered I client repository k total identifiers listing)
    (hpage : readPage I client repository (k + 1) total = .ok (observed, runs, found))
    (hall : (identifiers ++ found).length = observed) (hnodup : (identifiers ++ found).Nodup) :
    Complete I client repository (identifiers ++ found) := by
  refine ⟨hnodup, ?_, listing ++ [runs], List.concat_ne_nil _ _, ?_, ?_, h.finished_append hpage⟩
  · intro n hn
    obtain ⟨run, -, hrun⟩ := exists_of_mem_mapM (forall₂_finished_iff.1 (h.finished_append hpage)) hn
    obtain ⟨-, -, -, hpos, -⟩ := runIdentifier_eq_ok.1 hrun
    exact hpos
  · intro i runs' hi
    rw [hall]
    exact h.states_append hpage i runs' hi
  · rw [List.dropLast_concat]
    exact h.full

theorem Entered.length_identifiers (h : Entered I client repository k total identifiers listing) :
    identifiers.length = 100 * k := by
  have hlengths : listing.map List.length = List.replicate k 100 := by
    refine List.eq_replicate_iff.2 ⟨by rw [List.length_map, h.pages], ?_⟩
    simpa using h.full
  rw [← h.finished.length_eq, List.length_flatten, hlengths, List.sum_replicate_nat, Nat.mul_comm]

/-- The pages before are full, whatever the total is before the first. -/
theorem Entered.fullPages (h : Entered I client repository k total identifiers listing) {t : ℕ}
    (ht : ∀ t' ∈ total, t' = t) : Full I client repository k t := by
  have htotal (hk : 0 < k) : total = some t := by
    obtain ⟨t', ht'⟩ := Option.ne_none_iff_exists'.1 fun hnone => hk.ne' (h.first.1 hnone)
    rw [ht', ht t' ht']
  have hfinished : ∀ run ∈ listing.flatten, ∃ identifier, Finished run identifier :=
    (List.forall₂_and_left _ _).1 (h.finished.imp fun _ n hn => ⟨⟨n, hn⟩, hn⟩) |>.1
  refine ⟨fun hk => h.length_identifiers ▸ h.more t (htotal hk), fun i hi => ?_⟩
  have hlt : i < listing.length := h.pages ▸ hi
  have hmem : listing[i] ∈ listing := List.getElem_mem hlt
  refine ⟨listing[i], ?_, h.full _ hmem, fun run hrun => hfinished run (List.mem_flatten_of_mem hmem hrun)⟩
  exact h.states i _ (List.getElem?_eq_getElem hlt) t (htotal (i.zero_le.trans_lt hi))

/-- The last page that is read decides. -/
theorem Entered.outcome (h : Entered I client repository k total identifiers listing) :
    ∃ k' total' identifiers' listing', Entered I client repository k' total' identifiers' listing' ∧
      ((∃ e, readPage I client repository (k' + 1) total' = .error e ∧
          fetchPages I client repository (k + 1) total identifiers = .error e) ∨
        (∃ observed runs found, readPage I client repository (k' + 1) total' = .ok (observed, runs, found) ∧
          (identifiers' ++ found).length = observed ∧
          fetchPages I client repository (k + 1) total identifiers = .ok (identifiers' ++ found)) ∨
        ∃ code, fetchPages I client repository (k + 1) total identifiers = .error (.blocked code)) := by
  generalize hk : k + 1 = page
  fun_induction fetchPages I client repository page total identifiers generalizing k listing with
  | case1 page total identifiers e hpage => 
    subst hk
    exact ⟨k, total, identifiers, listing, h, .inl ⟨e, hpage, rfl⟩⟩
  | case2 page total identifiers observed runs found hpage hmore =>
    exact ⟨k, total, identifiers, listing, h, .inr (.inr ⟨_, rfl⟩)⟩
  | case3 page total identifiers runs found hpage hmore =>
    subst hk
    exact ⟨k, total, identifiers, listing, h, .inr (.inl ⟨_, runs, found, hpage, rfl, rfl⟩)⟩
  | case4 page total identifiers observed runs found hpage hmore hall hfull =>
    exact ⟨k, total, identifiers, listing, h, .inr (.inr ⟨_, rfl⟩)⟩
  | case5 page total identifiers observed runs found hpage hmore hall hfull ih =>
    subst hk
    have hlength : runs.length = 100 := not_not.1 fun hne => hfull (.inr hne)
    exact ih (h.step hpage (by omega) hlength) rfl

/-- The loop comes to every page that follows full ones. -/
theorem exists_entered {t : ℕ} (h : Full I client repository k t) :
    ∃ total identifiers listing, Entered I client repository k total identifiers listing ∧
      (∀ t' ∈ total, t' = t) ∧
      fetchPages I client repository 1 none [] =
        fetchPages I client repository (k + 1) total identifiers := by
  induction k with
  | zero => exact ⟨none, [], [], entered_zero, by simp, rfl⟩
  | succ k ih =>
    obtain ⟨hmore, hpages⟩ := h
    have hmore := hmore k.succ_pos
    obtain ⟨total, identifiers, listing, hentered, htotal, hfetch⟩ :=
      ih ⟨fun _ => by omega, fun i hi => hpages i (hi.trans k.lt_succ_self)⟩
    obtain ⟨runs, hstates, hfull, hfinished⟩ := hpages k k.lt_succ_self
    obtain ⟨found, hfound⟩ := exists_forall₂_finished hfinished
    have hpage : readPage I client repository (k + 1) total = .ok (t, runs, found) :=
      readPage_eq_ok.2 ⟨hstates, fun t' ht' => (htotal t' ht').symm, hfound⟩
    have hlength : (identifiers ++ found).length < t := by
      rw [List.length_append, hentered.length_identifiers, ← hfound.length_eq, hfull]
      omega
    refine ⟨some t, identifiers ++ found, listing ++ [runs], hentered.step hpage hlength hfull, ?_, ?_⟩
    · rintro t' ht'
      exact (Option.some.inj ht').symm
    · rw [hfetch, fetchPages_of_full hpage hlength hfull]

end

end

variable {I : Interpreter} {client : HttpClient} {repository : Text}

/-- A regular page raises nothing else, after the pages before it. -/
theorem Entered.readPage_ne_uncaught {k : ℕ} {total : Option ℕ} {identifiers : List ℤ}
    {listing : List (List Json)} (h : Entered I client repository k total identifiers listing)
    (hregular : ∀ t, Full I client repository k t → Regular I client repository (k + 1) t) :
    readPage I client repository (k + 1) total ≠ .error .uncaught := by
  have hpage := hregular (total.getD 0) (h.fullPages fun t ht => by rw [ht]; rfl)
  intro huncaught
  rcases readPage_eq_uncaught.1 huncaught with hrefused | ⟨items, hitems, hlacks, hmore⟩ | hstatus
  · exact hpage.taken hrefused
  · exact (hpage.keys items hitems).elim hlacks hmore
  · obtain ⟨observed, before, run, after, hstates, htotal, hbefore, hrun⟩ := hstatus
    have hobserved := hregular observed (h.fullPages fun t ht => (htotal t ht).symm)
    exact hobserved.statuses before run after hstates hbefore hrun

/-- Conversely, a page that raises nothing else is regular. -/
theorem regular_of_ne_uncaught {page t : ℕ} {total : Option ℕ} (htotal : ∀ t' ∈ total, t' = t)
    (h : readPage I client repository page total ≠ .error .uncaught) :
    Regular I client repository page t where
  taken hrefused := h (readPage_eq_uncaught.2 (.inl hrefused))
  keys items hitems := by
    by_contra hkeys
    exact h (readPage_eq_uncaught.2 (.inr (.inl ⟨items, hitems, not_or.1 hkeys⟩)))
  statuses before run after hstates hbefore hrun := by
    refine h (readPage_eq_uncaught.2 (.inr (.inr ⟨t, before, run, after, hstates, ?_, hbefore, hrun⟩)))
    exact fun t' ht' => (htotal t' ht').symm

theorem fetchPages_of_error {page : ℕ} {total : Option ℕ} {identifiers : List ℤ} {e : LoadError}
    (h : readPage I client repository page total = .error e) :
    fetchPages I client repository page total identifiers = .error e := by
  rw [fetchPages, h]

variable (I client repository)

/-- The listing is complete or publication is blocked, if and only if every page that is reached is read
    without another exception. -/
theorem fetchAllActionsRunIds_iff :
    BlockedOrComplete I client repository (fetchAllActionsRunIds I client repository) ↔
      ∀ k total, Full I client repository k total → Regular I client repository (k + 1) total := by
  constructor
  · intro h k t hfull
    obtain ⟨total, identifiers, listing, hentered, htotal, hfetch⟩ := exists_entered hfull
    -- An exception of another kind would make it neither blocked nor complete.
    refine regular_of_ne_uncaught htotal fun huncaught => ?_
    rw [fetchAllActionsRunIds, hfetch, fetchPages_of_error huncaught] at h
    cases h
  · intro hregular
    have hzero : Entered I client repository 0 none [] [] := entered_zero
    obtain ⟨k, total, identifiers, listing, hentered, houtcome⟩ := hzero.outcome
    rw [fetchAllActionsRunIds]
    -- The loop ends by an error on a page, by the last page, or by a page that contradicts the others.
    rcases houtcome with ⟨e, hpage, hfetch⟩ | ⟨observed, runs, found, hpage, hall, hfetch⟩ | ⟨code, hfetch⟩
    · rw [hfetch]
      rcases e with code | label | _
      · rfl
      · rfl
      · exact absurd hpage (hentered.readPage_ne_uncaught (hregular k))
    · rw [hfetch]
      by_cases hnodup : (identifiers ++ found).Nodup
      · have hdedup : ¬ (identifiers ++ found).dedup.length ≠ (identifiers ++ found).length := by
          rw [List.dedup_eq_self.2 hnodup]
          exact not_not.2 rfl
        change BlockedOrComplete I client repository (if _ then _ else _)
        rw [if_neg hdedup]
        exact hentered.complete hpage hall hnodup
      · have hdedup : (identifiers ++ found).dedup.length ≠ (identifiers ++ found).length := fun heq =>
          hnodup (List.dedup_eq_self.1 ((List.dedup_sublist _).eq_of_length heq))
        change BlockedOrComplete I client repository (if _ then _ else _)
        rw [if_pos hdedup]
        rfl
    · rw [hfetch]
      rfl

/-! ## A page without the listing -/

/-- An interpreter, on texts without fractions. -/
def interpreter : Interpreter where
  floats := ⟨fun t => if t = text "1.0" then some t else none, reads_one⟩
  floatValue _ := 1
  refuses _ := false

/-- A server that answers every request with a message. -/
def messageClient : HttpClient := fun _ _ => ⟨200, false, text "\x7b\"message\":\"\"\x7d"⟩

theorem message_keys : (document interpreter messageClient (text "a/b") 1).toOption.map
    (List.map Prod.fst) = some [text "message"] := by
  decide +kernel

/-- The answer is a JSON object, and a `KeyError` comes out. -/
theorem message_uncaught :
    (∃ items, document interpreter messageClient (text "a/b") 1 = .ok items) ∧
      ¬ BlockedOrComplete interpreter messageClient (text "a/b")
        (fetchAllActionsRunIds interpreter messageClient (text "a/b")) := by
  have hkeys := message_keys
  rcases hdocument : document interpreter messageClient (text "a/b") 1 with e | items
  · rw [hdocument] at hkeys
    cases hkeys
  · rw [hdocument] at hkeys
    have hitems : items.map Prod.fst = [text "message"] := Option.some.inj hkeys
    have hpage : readPage interpreter messageClient (text "a/b") 1 none = .error .uncaught := by
      refine readPage_eq_uncaught.2 (.inr (.inl ⟨items, hdocument, ?_⟩))
      rw [hitems]
      decide +kernel
    refine ⟨⟨items, rfl⟩, fun h => ?_⟩
    rw [fetchAllActionsRunIds, fetchPages_of_error hpage] at h
    cases h

end Actions

end Subgen
