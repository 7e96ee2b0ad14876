import Mathlib.Data.Finset.Erase
import Mathlib.Data.Finset.Insert
import Mathlib.Logic.Function.Basic

/-!
# Cohorts of workers

`CohortModelRuntime`, the lifecycle of the workers that are loaded for one file, and
`CohortReservation`, the lease on the memory that any number of runtimes share. A runtime is loaded
once; a second lock, `_operation`, is held by the one call that loads or releases.

A call goes on by one locked region at a time (`callStep`). What is called outside of the locks (an
artifact check, a worker, the admission policy) passes or fails: a failure is any exception, by the
reason with which it cancels the cohort, and also a release that is not confirmed or a wait that
times out.
-/

namespace Subgen

/-- The states of a cohort runtime. -/
inductive CohortState
  | cold
  | loading
  | ready
  | draining
  | blocked
  | released
  deriving DecidableEq

/-- Why the calls of a runtime are cancelled. -/
inductive CancelReason
  | stop
  | pressure
  | failure
  deriving DecidableEq

/-- The selectors of the worker specifications of a runtime. -/
structure CohortSpecs (σ : Type) where
  selectors : List σ
  bounded : 1 ≤ selectors.length ∧ selectors.length ≤ 32
  distinct : selectors.Nodup

/-- The token that is out, and how many there were. -/
structure CohortReservation where
  token : Option ℕ
  tokens : ℕ

/-- A runtime. `made` and `confirmed` are the workers that were made and those of which `release` has
    returned `True` with `model_is_loaded` false. -/
structure CohortRuntime (σ : Type) where
  specs : List σ
  operation : Bool
  cancelled : Bool
  cancelReason : Option CancelReason
  workers : List σ
  active : Finset σ
  token : Option ℕ
  state : CohortState
  generation : ℕ
  made : List σ
  confirmed : List σ

/-- Where a call stands. -/
inductive CohortCall (σ : Type)
  -- `load`, up to the `ready` state.
  | beginning
  | verifying
  | acquiring
  | making (rest : List σ)
  | loading (selector : σ) (rest : List σ)
  | readying
  -- The cleanup of `load`, and `_release_workers` with the workers to come.
  | failing (reason : CancelReason)
  | releasing (rest : List σ) (failed : Bool)
  | unlocking
  -- `release`, up to the workers.
  | stopping
  | draining
  | awaiting
  -- `transcribe`, behind its first region.
  | transcribing (selector : σ) (generation : ℕ)
  | checking (selector : σ) (generation : ℕ)
  | faulting (selector : σ) (reason : CancelReason)
  | leaving (selector : σ) (result : Bool)
  deriving DecidableEq

/-- A call, or the outcome of what a call does outside of the locks. -/
inductive CohortInput (σ : Type)
  | load
  | release
  | cancel (reason : CancelReason)
  | transcribe (selector : σ)
  | passes
  | fails (reason : CancelReason)

variable {σ : Type}

namespace CohortRuntime

/-- `__init__`. -/
def new (specs : CohortSpecs σ) : CohortRuntime σ :=
  ⟨specs.selectors, false, false, none, [], ∅, none, .cold, 0, [], []⟩

variable (r : CohortRuntime σ)

/-- `cancel`: the first reason stays. -/
def cancel (reason : CancelReason) : CohortRuntime σ :=
  { r with
    cancelled := true
    cancelReason := r.cancelReason.or (some reason)
    state := if r.state = .ready then .draining else r.state }

/-- The reason of what `_raise_cancelled` raises, when `load` handles it. -/
def raisedReason : CancelReason := if r.cancelReason = some .pressure then .pressure else .failure

variable [DecidableEq σ]

/-- The first region of a call, with where it stands then if it goes on. -/
def beginCall : CohortInput σ → Option (CohortRuntime σ × Option (CohortCall σ))
  | .load =>
    if r.operation then some (r, none) else some ({ r with operation := true }, some .beginning)
  | .release => some (r.cancel .stop, some .stopping)
  | .cancel reason => some (r.cancel reason, none)
  | .transcribe selector =>
    if r.state ≠ .ready ∨ r.cancelled ∨ selector ∉ r.workers ∨ selector ∈ r.active then some (r, none)
    else
      some ({ r with active := insert selector r.active },
        some (.transcribing selector r.generation))
  | .passes | .fails _ => none

/-- The last region of `_release_workers`. -/
def settle (reservation : CohortReservation) (failed : Bool) : CohortRuntime σ × CohortReservation :=
  if failed then ({ r with state := .blocked }, reservation)
  else
    match r.token with
    | none => ({ r with state := .released }, reservation)
    | some token =>
      -- `CohortReservation.release`, which raises unless everything is released.
      if reservation.token = some token ∧ r.workers = [] ∧ r.active = ∅ then
        ({ r with token := none, state := .released }, { reservation with token := none })
      else (r, reservation)

end CohortRuntime

section Steps

variable [DecidableEq σ]

/-- The next region of a call, if it does not have to wait. -/
def callStep (input : CohortInput σ) (r : CohortRuntime σ) (reservation : CohortReservation) :
    CohortCall σ → Option (CohortRuntime σ × CohortReservation × Option (CohortCall σ))
  | .beginning =>
    if r.state = .cold then
      some ({ r with state := .loading, generation := r.generation + 1 }, reservation, some .verifying)
    else some (r, reservation, some .unlocking)
  | .verifying =>
    match input with
    | .passes => if r.cancelled then none else some (r, reservation, some .acquiring)
    | .fails reason => some (r, reservation, some (.failing reason))
    | _ => none
  | .acquiring =>
    match input, reservation.token with
    | .passes, none =>
      some ({ r with token := some reservation.tokens },
        ⟨some reservation.tokens, reservation.tokens + 1⟩, some (.making r.specs))
    | .passes, some _ => some (r, reservation, some (.failing .failure))
    | .fails reason, _ => some (r, reservation, some (.failing reason))
    | _, _ => none
  | .making rest =>
    match input with
    | .passes =>
      if r.cancelled then none
      else
        match rest with
        | [] => some (r, reservation, some .readying)
        | selector :: rest =>
          some ({ r with workers := r.workers ++ [selector], made := r.made ++ [selector] },
            reservation, some (.loading selector rest))
    | .fails reason => some (r, reservation, some (.failing reason))
    | _ => none
  | .loading _ rest =>
    match input with
    | .passes => if r.cancelled then none else some (r, reservation, some (.making rest))
    | .fails reason => some (r, reservation, some (.failing reason))
    | _ => none
  | .readying =>
    if r.cancelled then some (r, reservation, some (.failing r.raisedReason))
    else some ({ r with state := .ready }, reservation, some .unlocking)
  | .failing reason => some (r.cancel reason, reservation, some (.releasing r.workers false))
  | .releasing (selector :: rest) failed =>
    match input with
    | .passes =>
      some ({ r with workers := r.workers.erase selector, confirmed := r.confirmed ++ [selector] },
        reservation, some (.releasing rest failed))
    | .fails _ => some (r, reservation, some (.releasing rest true))
    | _ => none
  | .releasing [] failed =>
    some ((r.settle reservation failed).1, (r.settle reservation failed).2, some .unlocking)
  | .unlocking => some ({ r with operation := false }, reservation, none)
  | .stopping =>
    match input with
    | .passes => if r.operation then none else some ({ r with operation := true }, reservation, some .draining)
    | .fails _ => some (r, reservation, none)
    | _ => none
  | .draining =>
    some ({ r with state := .draining, generation := r.generation + 1 }, reservation,
      some (if r.active = ∅ then .releasing r.workers false else .awaiting))
  | .awaiting =>
    if r.active = ∅ then some (r, reservation, some (.releasing r.workers false))
    else
      match input with
      | .fails _ => some ({ r with state := .blocked }, reservation, some .unlocking)
      | _ => none
  | .transcribing selector generation =>
    match input with
    | .passes => if r.cancelled then none else some (r, reservation, some (.checking selector generation))
    | .fails reason => some (r, reservation, some (.faulting selector reason))
    | _ => none
  | .checking selector generation =>
    if r.state = .ready ∧ r.generation = generation then
      some (r, reservation, some (.leaving selector true))
    else some (r, reservation, some (.faulting selector .stop))
  | .faulting selector reason => some (r.cancel reason, reservation, some (.leaving selector false))
  | .leaving selector _ => some ({ r with active := r.active.erase selector }, reservation, none)

/-- Runtimes that share a reservation. -/
structure Cohorts (ι σ : Type) where
  runtimes : ι → CohortRuntime σ
  reservation : CohortReservation

/-- A thread is in a call on a runtime, or in none. -/
abbrev CohortThread (ι σ : Type) := Option (ι × CohortCall σ)

variable {ι : Type} [DecidableEq ι]

/-- The next step of a thread, which calls a runtime or goes on with its call. -/
def cohortStep (input : ι × CohortInput σ) (u : Cohorts ι σ) :
    CohortThread ι σ → Option (Cohorts ι σ × CohortThread ι σ)
  | none =>
    ((u.runtimes input.1).beginCall input.2).map fun (r, call) =>
      ({ u with runtimes := Function.update u.runtimes input.1 r }, call.map (input.1, ·))
  | some (k, call) =>
    (callStep input.2 (u.runtimes k) u.reservation call).map fun (r, reservation, call) =>
      (⟨Function.update u.runtimes k r, reservation⟩, call.map (k, ·))

end Steps

end Subgen
