import Subgen.Lib.Interleaving
import Subgen.Runtime.Coordinator

/-!
# The protocol of permits and releases

What is left of the runtime if only the model, the admission, the transitions, the permits and
the load lock count (`Ledger`), and of a thread if only what it holds and what it has been
promised does (`Phase`). The rules (`Protocol`) say who may change what: a model is loaded and
unloaded under the load lock, a slot is granted while the admission is open and no transition
is active, a transition is opened by the owner and completed by it.

`Shift` is everything that the rest of the runtime does to the admission. One of its cases is
out of line: a receipt that cannot be written, or a profile that is found unhealthy, closes
the admission and does not advance the generation (`Shift.direct`).
-/

namespace Subgen

/-- What the protocol is about. -/
structure Ledger where
  model : Option ℕ
  closed : Bool
  generation : ℕ
  transitions : List ReleaseTransition
  permits : ℕ
  locked : Bool
  loads : ℕ
  history : List RuntimeEvent

namespace Ledger

variable (L : Ledger)

/-- The newest transition. -/
def last : Option ReleaseTransition := L.transitions.getLast?

/-- The newest transition is not complete. -/
def active : Bool := L.last.any fun t => !t.complete

/-- The last transition serves a release. -/
def served (source : Option ℤ) : Bool :=
  L.last.any fun t => !t.complete ||
    match source with
    | some generation => generation < t.generation
    | none => !t.failed && t.generation = L.generation && L.closed

/-- The generation of the next transition. -/
def next : ℕ :=
  if !L.closed || L.last.any fun t => t.complete && L.generation ≤ t.generation then L.generation + 1
  else L.generation

/-- The generation of a ticket at this time. -/
def commit : ℤ := if L.closed then (L.generation : ℤ) - 1 else L.generation

/-- One transition is updated. -/
def update (t : ℕ) (f : ReleaseTransition → ReleaseTransition) : Ledger :=
  { L with transitions := L.transitions.modify t f }

/-- A transition has no model left. -/
def emptied (t : ℕ) : Ledger := L.update t ({ · with emptied := true })

/-- A transition is complete, with its result. -/
def completed (t : ℕ) (result : ReleaseResult) : Ledger :=
  { L.update t (fun r => { r with
      complete := true
      didUnload := result.didUnload
      failed := result.isFailed
      completedAt := L.loads }) with
    history := .completed t :: L.history }

/-- A call with a ticket is bound to a transition. -/
def bound (source : Option ℤ) (t : ℕ) : Ledger :=
  match source with
  | none => L
  | some generation => { L with history := .bound generation t :: L.history }

/-- A new transition. -/
def opened : Ledger :=
  { L with
    closed := true
    generation := L.next
    transitions := L.transitions ++ [⟨L.next, false, false, false, false, 0⟩] }

/-- A new model. -/
def published : Ledger :=
  { L with
    model := some (L.loads + 1)
    loads := L.loads + 1
    history := .loaded (L.loads + 1) :: L.history }

/-- The model is unloaded for a transition. -/
def unloaded (source : Option ℤ) (t : ℕ) : Ledger :=
  { L with
    model := none
    history := (L.model.toList.map fun m => .unloaded m source t) ++ L.history }

end Ledger

/-- What happens to the admission. -/
inductive Shift (L : Ledger) : Ledger → Prop
  | same : Shift L L
  | close (h : L.closed = false) : Shift L { L with closed := true, generation := L.generation + 1 }
  | reopen (h : L.active = false) : Shift L { L with closed := false }
  | direct : Shift L { L with closed := true }

/-- What a thread holds and has been promised. -/
inductive Phase
  | outside (generation : Option ℤ)
  | permit
  | slot (generation : ℕ)
  | locked (generation : ℕ)
  | loading (generation : ℕ)
  | loaded (generation : ℕ)
  | inference (generation : ℕ)
  | deciding (call : ReleaseCall)
  | joining (call : ReleaseCall) (transition : ℕ)
  | draining (call : ReleaseCall) (transition taken : ℕ)
  | unloading (call : ReleaseCall) (transition : ℕ)
  | unloaded (call : ReleaseCall) (transition : ℕ) (result : ReleaseResult)
  | returning (call : ReleaseCall) (transition taken : ℕ) (result : ReleaseResult)
  | released (call : ReleaseCall)

/-- The steps of the protocol. -/
inductive Protocol (config : RuntimeConfig) (L : Ledger) : Phase → Ledger → Phase → Prop
  /-- The admission may change at any time. -/
  | shift {L' : Ledger} (φ : Phase) (h : Shift L L') : Protocol config L φ L' φ
  -- Slots.
  | take (n : ℕ) (h : L.permits = n + 1) :
      Protocol config L (.outside none) { L with permits := n } .permit
  | giveUp : Protocol config L .permit { L with permits := L.permits + 1 } (.outside none)
  | grant (hopen : L.closed = false) (hinactive : L.active = false) :
      Protocol config L .permit L (.slot L.generation)
  | leave (g : ℕ) :
      Protocol config L (.slot g) { L with permits := L.permits + 1 } (.outside (some g))
  -- Loads, under the load lock.
  | lock (g : ℕ) (h : L.locked = false) :
      Protocol config L (.slot g) { L with locked := true } (.locked g)
  | find (g : ℕ) (h : L.model ≠ none) : Protocol config L (.locked g) L (.loaded g)
  | load (g : ℕ) (h : L.model = none) : Protocol config L (.locked g) L (.loading g)
  | fail {L' : Ledger} (g : ℕ) (h : Shift L L') : Protocol config L (.loading g) L' (.locked g)
  | publish (g : ℕ) : Protocol config L (.loading g) L.published (.loaded g)
  /-- The receipt of a load was not written. -/
  | discard {L' : Ledger} (g : ℕ) (h : Shift L L') (kept : Bool) :
      Protocol config L (.loading g)
        { L'.published with model := if kept then some (L'.loads + 1) else none } (.locked g)
  | unlock (g : ℕ) : Protocol config L (.locked g) { L with locked := false } (.slot g)
  | unlockLoaded (g : ℕ) : Protocol config L (.loaded g) { L with locked := false } (.slot g)
  | infer (g : ℕ) : Protocol config L (.loaded g) { L with locked := false } (.inference g)
  | inferred (g : ℕ) : Protocol config L (.inference g) L (.slot g)
  -- Tickets.
  | commit : Protocol config L (.outside none) L (.outside (some L.commit))
  | forget {L' : Ledger} (g : ℤ) (h : Shift L L') :
      Protocol config L (.outside (some g)) L' (.outside none)
  | ticket {L' : Ledger} (g : ℤ) (h : Shift L L') :
      Protocol config L (.outside (some g)) { L' with history := .ticket g :: L'.history }
        (.outside none)
  -- Releases.
  | call (idleCleanup : Bool) :
      Protocol config L (.outside none) L (.deciding ⟨idleCleanup, none, L.model, .outside⟩)
  | redeem (g : ℤ) (h : .ticket g ∈ L.history) :
      Protocol config L (.outside none) L (.deciding ⟨false, some g, L.model, .outside⟩)
  | retry (g : ℤ) (caller : ReleaseCaller) :
      Protocol config L (.outside (some g)) L (.deciding ⟨false, some g, L.model, caller⟩)
  | join (call : ReleaseCall) (h : L.served call.source = true) :
      Protocol config L (.deciding call) (L.bound call.source (L.transitions.length - 1))
        (.joining call (L.transitions.length - 1))
  | own (call : ReleaseCall) (h : L.served call.source = false) :
      Protocol config L (.deciding call) (L.opened.bound call.source L.transitions.length)
        (.draining call L.transitions.length 0)
  /-- The receipt of the new transition was not written: nobody is going to complete it. -/
  | abandon (call : ReleaseCall) (h : L.served call.source = false) :
      Protocol config L (.deciding call) (L.opened.bound call.source L.transitions.length)
        (.outside none)
  | joined (call : ReleaseCall) (t : ℕ) (r : ReleaseTransition) (ht : L.transitions[t]? = some r)
      (hcomplete : r.complete = true) (hfailed : r.failed = false) :
      Protocol config L (.joining call t) L (.released call)
  | joinedFailure (call : ReleaseCall) (t : ℕ) : Protocol config L (.joining call t) L (.outside none)
  | drain (call : ReleaseCall) (t taken n : ℕ) (h : L.permits = n + 1)
      (htaken : taken < config.permitCount) :
      Protocol config L (.draining call t taken) { L with permits := n } (.draining call t (taken + 1))
  | lockRelease (call : ReleaseCall) (t taken : ℕ) (htaken : config.permitCount ≤ taken)
      (h : L.locked = false) :
      Protocol config L (.draining call t taken) { L with locked := true } (.unloading call t)
  | abort (call : ReleaseCall) (t : ℕ) (hidle : call.idleCleanup = true) :
      Protocol config L (.unloading call t) (if L.model = none then L.emptied t else L)
        (.unloaded call t .aborted)
  /-- The model could not be unloaded. -/
  | keep (call : ReleaseCall) (t : ℕ) :
      Protocol config L (.unloading call t) L (.unloaded call t (.failed false))
  | unload {L' : Ledger} (call : ReleaseCall) (t : ℕ) (result : ReleaseResult)
      (hresult : result ≠ .aborted) (h : Shift L L') :
      Protocol config L (.unloading call t) ((L'.unloaded call.source t).emptied t)
        (.unloaded call t result)
  | unlockRelease (call : ReleaseCall) (t : ℕ) (result : ReleaseResult) :
      Protocol config L (.unloaded call t result) { L with locked := false }
        (.returning call t config.permitCount result)
  | giveBack (call : ReleaseCall) (t n : ℕ) (result : ReleaseResult) :
      Protocol config L (.returning call t (n + 1) result) { L with permits := L.permits + 1 }
        (.returning call t n result)
  /-- Without a controller the admission is opened again. -/
  | complete {φ : Phase} (call : ReleaseCall) (t : ℕ) (result : ReleaseResult) (closed : Bool)
      (hclosed : closed = L.closed ∨ result.isFailed = false)
      (hφ : φ = .outside none ∨ (φ = .released call ∧ result.isFailed = false)) :
      Protocol config L (.returning call t 0 result) { L.completed t result with closed := closed } φ
  | done {L' : Ledger} (call : ReleaseCall) (h : Shift L L') :
      Protocol config L (.released call) L' (.outside none)

end Subgen
