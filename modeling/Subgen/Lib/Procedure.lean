import Mathlib.Order.Basic
import Mathlib.Data.List.Forall2

/-!
# Procedures that may raise

A procedure with a mutable state and exceptions is an `EStateM`: what it wrote
before raising stays written. `Ensures m s Q E` says what one call from `s`
does, `Q` if it returns and `E` if it raises; the rules below compute it along
the structure of the procedure, so that a proof about a call is a symbolic
execution followed by the goals of its branches.

* `Preserves I m`: the property `I` of states holds after every call that starts
  in it, also after one that raises;
* `Yields I m Q P`: what `m` returns and what it raises, whatever the state with `I` is;
* `zoom`: a procedure on a component of the state, as a procedure on the whole.
-/

namespace Subgen.Procedure

universe u

variable {ε σ τ α β : Type u}

/-- A call of `m` from `s` returns with `Q` or raises with `E`. -/
def Ensures (m : EStateM ε σ α) (s : σ) (Q : α → σ → Prop) (E : ε → σ → Prop) : Prop :=
  match m s with
  | .ok a s' => Q a s'
  | .error e s' => E e s'

variable {m : EStateM ε σ α} {s : σ} {Q : α → σ → Prop} {E : ε → σ → Prop}

/-- A procedure that returns. -/
theorem ensures_of_ok {a : α} {s' : σ} (h : m s = .ok a s') : Ensures m s Q E ↔ Q a s' := by
  rw [Ensures, h]

/-- A procedure that raises. -/
theorem ensures_of_error {e : ε} {s' : σ} (h : m s = .error e s') :
    Ensures m s Q E ↔ E e s' := by
  rw [Ensures, h]

/-- A value. -/
@[simp] theorem ensures_pure (a : α) : Ensures (pure a : EStateM ε σ α) s Q E ↔ Q a s := Iff.rfl

/-- An exception. -/
@[simp] theorem ensures_throw (e : ε) : Ensures (throw e : EStateM ε σ α) s Q E ↔ E e s := Iff.rfl

/-- The state is looked at. -/
@[simp] theorem ensures_get {Q : σ → σ → Prop} :
    Ensures (get : EStateM ε σ σ) s Q E ↔ Q s s := Iff.rfl

/-- The state is replaced. -/
@[simp] theorem ensures_set {Q : PUnit → σ → Prop} (s' : σ) :
    Ensures (set s' : EStateM ε σ PUnit) s Q E ↔ Q ⟨⟩ s' := Iff.rfl

/-- The state is changed. -/
@[simp] theorem ensures_modify {Q : PUnit → σ → Prop} (f : σ → σ) :
    Ensures (modify f : EStateM ε σ PUnit) s Q E ↔ Q ⟨⟩ (f s) := Iff.rfl

/-- The state is changed, and something returned. -/
@[simp] theorem ensures_modifyGet (f : σ → α × σ) :
    Ensures (modifyGet f : EStateM ε σ α) s Q E ↔ Q (f s).1 (f s).2 := Iff.rfl

/-- One procedure after the other: the second one starts where the first one returns. -/
@[simp] theorem ensures_bind {f : α → EStateM ε σ β} {Q : β → σ → Prop} :
    Ensures (m >>= f) s Q E ↔ Ensures m s (fun a s' => Ensures (f a) s' Q E) E := by
  change (match EStateM.bind m f s with | .ok b s' => Q b s' | .error e s' => E e s') ↔ _
  rw [EStateM.bind, Ensures]
  cases m s <;> rfl

/-- What is returned is changed. -/
@[simp] theorem ensures_map {f : α → β} {Q : β → σ → Prop} :
    Ensures (f <$> m) s Q E ↔ Ensures m s (fun a s' => Q (f a) s') E := by
  change (match EStateM.map f m s with | .ok b s' => Q b s' | .error e s' => E e s') ↔ _
  rw [EStateM.map, Ensures]
  cases m s <;> rfl

/-- Each of the two branches. -/
@[simp] theorem ensures_ite {p : Prop} [Decidable p] {n : EStateM ε σ α} :
    Ensures (if p then m else n) s Q E ↔ (p → Ensures m s Q E) ∧ (¬ p → Ensures n s Q E) := by
  by_cases h : p <;> simp [h]

/-- The handler runs in the state the raising procedure left. -/
@[simp] theorem ensures_tryCatch {handler : ε → EStateM ε σ α} :
    Ensures (tryCatch m handler) s Q E ↔
      Ensures m s Q (fun e s' => Ensures (handler e) s' Q E) := by
  change (match EStateM.tryCatch m handler s with | .ok b s' => Q b s' | .error e s' => E e s') ↔ _
  rw [EStateM.tryCatch, Ensures]
  cases m s <;> rfl

/-- Less may be asked of the end. -/
theorem Ensures.mono {Q' : α → σ → Prop} {E' : ε → σ → Prop} (h : Ensures m s Q E)
    (hQ : ∀ a s', Q a s' → Q' a s') (hE : ∀ e s', E e s' → E' e s') : Ensures m s Q' E' := by
  rw [Ensures] at h ⊢
  cases hm : m s with
  | ok a s' => rw [hm] at h; exact hQ a s' h
  | error e s' => rw [hm] at h; exact hE e s' h

/-- Two things at once. -/
theorem Ensures.and {Q' : α → σ → Prop} {E' : ε → σ → Prop} (h : Ensures m s Q E)
    (h' : Ensures m s Q' E') :
    Ensures m s (fun a s' => Q a s' ∧ Q' a s') (fun e s' => E e s' ∧ E' e s') := by
  rw [Ensures] at h h' ⊢
  cases hm : m s with
  | ok a s' => rw [hm] at h h'; exact ⟨h, h'⟩
  | error e s' => rw [hm] at h h'; exact ⟨h, h'⟩

/-- A procedure that cannot raise, and of which every result is `a`, returns `a`. -/
theorem Ensures.returns {a : α} (h : Ensures m s (fun b _ => b = a) (fun _ _ => False)) :
    ∃ s', m s = .ok a s' := by
  rw [Ensures] at h
  cases hm : m s with
  | ok b s' =>
    rw [hm] at h
    exact ⟨s', congrArg (EStateM.Result.ok · s') h⟩
  | error e s' => rw [hm] at h; exact h.elim

/-- A call does what it does, which a proof may go on with. -/
theorem ensures_run : Ensures m s (fun a s' => m s = .ok a s') (fun e s' => m s = .error e s') := by
  rw [Ensures]
  cases m s <;> rfl

/-- Nothing is known of the procedure: every way it may end is allowed for. -/
theorem ensures_of_forall (hQ : ∀ a s', Q a s') (hE : ∀ e s', E e s') : Ensures m s Q E := by
  rw [Ensures]
  cases m s with
  | ok a s' => exact hQ a s'
  | error e s' => exact hE e s'

/-- A sequence of procedures returns when each of them does. -/
theorem run_bind_eq_ok {f : α → EStateM ε σ β} {b : β} {s' : σ} :
    (m >>= f) s = .ok b s' ↔ ∃ a s'', m s = .ok a s'' ∧ f a s'' = .ok b s' := by
  change EStateM.bind m f s = .ok b s' ↔ _
  rw [EStateM.bind]
  cases m s <;> simp

/-- The run of a sequence, when its first part returns. -/
theorem run_bind_of_ok {f : α → EStateM ε σ β} {a : α} {s' : σ} (h : m s = .ok a s') :
    (m >>= f) s = f a s' := by
  change EStateM.bind m f s = _
  rw [EStateM.bind, h]

/-- The run of a procedure with what it returns changed. -/
theorem run_map_of_ok {f : α → β} {a : α} {s' : σ} (h : m s = .ok a s') :
    (f <$> m) s = .ok (f a) s' := by
  change EStateM.map f m s = _
  rw [EStateM.map, h]

/-- What raises comes through whatever follows it. -/
theorem run_bind_of_error {f : α → EStateM ε σ β} {e : ε} {s' : σ} (h : m s = .error e s') :
    (m >>= f) s = .error e s' := by
  change EStateM.bind m f s = _
  rw [EStateM.bind, h]

/-- A check that passes leaves the state. -/
theorem run_ofExcept_eq_ok {x : Except ε α} {a : α} {s' : σ} :
    (ofExcept x : EStateM ε σ α) s = .ok a s' ↔ x = .ok a ∧ s' = s := by
  cases x with
  | ok b =>
    change EStateM.Result.ok b s = .ok a s' ↔ _
    simp [eq_comm]
  | error e =>
    change EStateM.Result.error e s = .ok a s' ↔ _
    simp

/-! ## Computations without a state -/

/-- A sequence of checks passes if both do. -/
theorem bind_eq_ok {x : Except ε α} {f : α → Except ε β} {b : β} :
    x >>= f = .ok b ↔ ∃ a, x = .ok a ∧ f a = .ok b := by
  cases x <;> simp [bind, Except.bind]

/-- A sequence of checks fails at the first one or at the second. -/
theorem bind_eq_error {x : Except ε α} {f : α → Except ε β} {e : ε} :
    x >>= f = .error e ↔ x = .error e ∨ ∃ a, x = .ok a ∧ f a = .error e := by
  cases x <;> simp [bind, Except.bind]

/-- A check with its result changed fails as it does. -/
theorem map_eq_error {x : Except ε α} {f : α → β} {e : ε} : f <$> x = .error e ↔ x = .error e := by
  cases x <;> simp [Functor.map, Except.map]

/-- A computation over a list returns when every element does. -/
theorem mapM_eq_ok {f : α → Except ε β} {l : List α} {l' : List β} :
    l.mapM f = .ok l' ↔ List.Forall₂ (fun a b => f a = .ok b) l l' := by
  induction l generalizing l' with
  | nil =>
    rw [List.mapM_nil, List.forall₂_nil_left_iff]
    exact ⟨fun h => (Except.ok.inj h).symm, fun h => h ▸ rfl⟩
  | cons a l ih =>
    simp only [List.mapM_cons, bind_eq_ok, ih, List.forall₂_cons_left_iff]
    constructor
    · rintro ⟨b, hb, l'', hl, h⟩
      exact ⟨b, l'', hb, hl, (Except.ok.inj h).symm⟩
    · rintro ⟨b, l'', hb, hl, rfl⟩
      exact ⟨b, hb, l'', hl, rfl⟩

/-- What is made of every element is undone. -/
theorem mapM_map_of_ok {f : α → Except ε β} {g : β → α} {l : List β} (h : ∀ b ∈ l, f (g b) = .ok b) :
    (l.map g).mapM f = .ok l :=
  mapM_eq_ok.2 (List.forall₂_map_left_iff.2 (List.forall₂_same.2 h))

/-- A computation over a list raises what the first element does that does not return. -/
theorem mapM_eq_error {f : α → Except ε β} {l : List α} {e : ε} :
    l.mapM f = .error e ↔ ∃ before a after, l = before ++ a :: after ∧
      (∀ b ∈ before, ∃ c, f b = .ok c) ∧ f a = .error e := by
  induction l with
  | nil => simp [pure, Except.pure]
  | cons a l ih =>
    rw [List.mapM_cons, bind_eq_error]
    constructor
    · rintro (ha | ⟨c, hc, hrest⟩)
      · exact ⟨[], a, l, rfl, by simp, ha⟩
      · rcases bind_eq_error.1 hrest with hl | ⟨_, _, hpure⟩
        · obtain ⟨before, a', after, rfl, hbefore, ha'⟩ := ih.1 hl
          refine ⟨a :: before, a', after, rfl, ?_, ha'⟩
          exact List.forall_mem_cons.2 ⟨⟨c, hc⟩, hbefore⟩
        · cases hpure
    · rintro ⟨before, a', after, heq, hbefore, ha'⟩
      rcases before with _ | ⟨b, before⟩
      · obtain ⟨rfl, rfl⟩ := List.cons.inj heq
        exact .inl ha'
      · obtain ⟨rfl, rfl⟩ := List.cons.inj heq
        obtain ⟨⟨c, hc⟩, hbefore⟩ := List.forall_mem_cons.1 hbefore
        exact .inr ⟨c, hc, bind_eq_error.2 (.inl (ih.2 ⟨before, a', after, rfl, hbefore, ha'⟩))⟩

/-- A result of a list of checks comes from an item. -/
theorem exists_of_mem_mapM {f : α → Except ε β} {l : List α} {l' : List β}
    (h : l.mapM f = .ok l') {b : β} (hb : b ∈ l') : ∃ a ∈ l, f a = .ok b := by
  replace h := mapM_eq_ok.1 h
  induction h with
  | nil => cases hb
  | cons hab _ ih =>
    rcases List.mem_cons.1 hb with rfl | hb
    · exact ⟨_, List.mem_cons_self, hab⟩
    · obtain ⟨a, ha, hf⟩ := ih hb
      exact ⟨a, List.mem_cons_of_mem _ ha, hf⟩

/-- A computation that touches no state, as a procedure. -/
@[simp] theorem ensures_ofExcept {x : Except ε α} :
    Ensures (ofExcept x) s Q E ↔
      (∀ a, x = .ok a → Q a s) ∧ (∀ e, x = .error e → E e s) := by
  cases x <;> simp [ofExcept]

/-- What a call comes to, as a value. -/
def attempt (m : EStateM ε σ α) : EStateM ε σ (Except ε α) := fun s =>
  match m s with
  | .ok a s' => .ok (.ok a) s'
  | .error e s' => .ok (.error e) s'

/-- The outcome as a value. -/
@[simp] theorem ensures_attempt {Q : Except ε α → σ → Prop} :
    Ensures (attempt m) s Q E ↔ Ensures m s (fun a => Q (.ok a)) (fun e => Q (.error e)) := by
  rw [Ensures, Ensures, attempt]
  cases m s <;> rfl

/-! ## Components of the state -/

/-- The procedure `m` on the component `get s` of the state, put back by `put`. -/
def zoom (get : σ → τ) (put : σ → τ → σ) (m : EStateM ε τ α) : EStateM ε σ α := fun s =>
  match m (get s) with
  | .ok a t => .ok a (put s t)
  | .error e t => .error e (put s t)

/-- A procedure on a component. -/
@[simp] theorem ensures_zoom {get : σ → τ} {put : σ → τ → σ} {m : EStateM ε τ α} :
    Ensures (zoom get put m) s Q E ↔
      Ensures m (get s) (fun a t => Q a (put s t)) (fun e t => E e (put s t)) := by
  rw [Ensures, Ensures, zoom]
  cases m (get s) <;> rfl

/-- It returns if it does so on the component. -/
theorem zoom_eq_ok {get : σ → τ} {put : σ → τ → σ} {m : EStateM ε τ α} {a : α} {s' : σ} :
    zoom get put m s = .ok a s' ↔ ∃ t, m (get s) = .ok a t ∧ s' = put s t := by
  rw [zoom]
  cases m (get s) <;> simp [eq_comm]

/-- It raises if it does so on the component. -/
theorem zoom_eq_error {get : σ → τ} {put : σ → τ → σ} {m : EStateM ε τ α} {e : ε} {s' : σ} :
    zoom get put m s = .error e s' ↔ ∃ t, m (get s) = .error e t ∧ s' = put s t := by
  rw [zoom]
  cases m (get s) <;> simp [eq_comm]

/-! ## Invariants -/

/-- `I` holds after every call of `m` that starts in it, whether it returns or raises. -/
def Preserves (I : σ → Prop) (m : EStateM ε σ α) : Prop :=
  ∀ s, I s → Ensures m s (fun _ => I) (fun _ => I)

section Preserves

variable {I : σ → Prop}

/-- A value leaves the state. -/
theorem preserves_pure (a : α) : Preserves I (pure a : EStateM ε σ α) := fun _ hs => hs

/-- So does an exception. -/
theorem preserves_throw (e : ε) : Preserves I (throw e : EStateM ε σ α) := fun _ hs => hs

/-- A change of the state that keeps the invariant. -/
theorem preserves_modify {f : σ → σ} (h : ∀ s, I s → I (f s)) :
    Preserves I (modify f : EStateM ε σ PUnit) := fun s hs => h s hs

/-- One procedure after the other. -/
theorem preserves_bind {f : α → EStateM ε σ β} (hm : Preserves I m)
    (hf : ∀ a, Preserves I (f a)) : Preserves I (m >>= f) := by
  intro s hs
  rw [ensures_bind]
  exact (hm s hs).mono (fun a s' hs' => hf a s' hs') fun _ _ hs' => hs'

/-- Reading the state changes nothing. -/
theorem preserves_get_bind {f : σ → EStateM ε σ β} (hf : ∀ s, Preserves I (f s)) :
    Preserves I (get >>= f) := fun s hs => ensures_bind.2 (hf s s hs)

/-- Each of the two branches. -/
theorem preserves_ite {p : Prop} [Decidable p] {n : EStateM ε σ α} (hm : p → Preserves I m)
    (hn : ¬ p → Preserves I n) : Preserves I (if p then m else n) :=
  fun s hs => ensures_ite.2 ⟨fun h => hm h s hs, fun h => hn h s hs⟩

/-- A procedure and its handler. -/
theorem preserves_tryCatch {handler : ε → EStateM ε σ α} (hm : Preserves I m)
    (hh : ∀ e, Preserves I (handler e)) : Preserves I (tryCatch m handler) := by
  intro s hs
  rw [ensures_tryCatch]
  exact (hm s hs).mono (fun _ _ hs' => hs') fun e s' hs' => hh e s' hs'

/-- The outcome as a value. -/
theorem preserves_attempt (hm : Preserves I m) : Preserves I (attempt m) :=
  fun s hs => ensures_attempt.2 (hm s hs)

/-- A check leaves the state. -/
theorem preserves_ofExcept (x : Except ε α) : Preserves I (ofExcept x : EStateM ε σ α) :=
  fun _ hs => ensures_ofExcept.2 ⟨fun _ _ => hs, fun _ _ => hs⟩

/-- What preserves a property comes first, and the rest starts in it. -/
theorem ensures_bind_of_preserves {f : α → EStateM ε σ β} {Q : β → σ → Prop} (hm : Preserves I m) (hs : I s)
    (hf : ∀ a s', I s' → Ensures (f a) s' Q E) (hE : ∀ e s', I s' → E e s') : Ensures (m >>= f) s Q E :=
  ensures_bind.2 ((hm s hs).mono hf hE)

end Preserves

/-- A loop, one round of which keeps the invariant. -/
theorem preserves_forM {I : σ → Prop} {l : List α} {f : α → EStateM ε σ PUnit}
    (h : ∀ a ∈ l, Preserves I (f a)) : Preserves I (forM l f) := by
  induction l with
  | nil => exact fun s hs => hs
  | cons a l ih =>
    intro s hs
    rw [List.forM_cons, ensures_bind]
    refine (h a List.mem_cons_self s hs).mono (fun _ s' hs' => ?_) fun _ _ hs' => hs'
    exact ih (fun b hb => h b (List.mem_cons_of_mem _ hb)) s' hs'

/-! ## Results, whatever the state -/

/-- From any state with `I`, a call of `m` returns with `Q` or raises with `P`, and `I` holds still. -/
def Yields (I : σ → Prop) (m : EStateM ε σ α) (Q : α → Prop) (P : ε → Prop) : Prop :=
  ∀ s, I s → Ensures m s (fun a s' => Q a ∧ I s') (fun e s' => P e ∧ I s')

section Yields

variable {I : σ → Prop} {Q : α → Prop} {P : ε → Prop}

/-- Nothing is known of the procedure. -/
theorem yields_any (m : EStateM ε σ α) : Yields (fun _ => True) m (fun _ => True) fun _ => True :=
  fun _ _ => ensures_of_forall (fun _ _ => ⟨trivial, trivial⟩) fun _ _ => ⟨trivial, trivial⟩

/-- A value of the kind that is asked for. -/
theorem yields_pure {a : α} (h : Q a) : Yields I (pure a : EStateM ε σ α) Q P := fun _ hs => ⟨h, hs⟩

/-- An exception of the kind that is allowed. -/
theorem yields_throw {e : ε} (h : P e) : Yields I (throw e : EStateM ε σ α) Q P := fun _ hs => ⟨h, hs⟩

/-- A change of the state. -/
theorem yields_modify {f : σ → σ} {Q : PUnit → Prop} (h : Q ⟨⟩) (hI : ∀ s, I s → I (f s)) :
    Yields I (modify f : EStateM ε σ PUnit) Q P := fun s hs => ⟨h, hI s hs⟩

/-- One procedure after the other, with what is known of the first result. -/
theorem yields_bind {f : α → EStateM ε σ β} {Q' : β → Prop} (hm : Yields I m Q P)
    (hf : ∀ a, Q a → Yields I (f a) Q' P) : Yields I (m >>= f) Q' P :=
  fun s hs => ensures_bind.2 ((hm s hs).mono (fun a s' h => hf a h.1 s' h.2) fun _ _ h => h)

/-- The state is looked at, of which the invariant is known. -/
theorem yields_get_bind {f : σ → EStateM ε σ β} {Q : β → Prop} (hf : ∀ s, I s → Yields I (f s) Q P) :
    Yields I (get >>= f) Q P := fun s hs => ensures_bind.2 (hf s hs s hs)

/-- Each of the two branches. -/
theorem yields_ite {p : Prop} [Decidable p] {n : EStateM ε σ α} (hm : p → Yields I m Q P)
    (hn : ¬ p → Yields I n Q P) : Yields I (if p then m else n) Q P :=
  fun s hs => ensures_ite.2 ⟨fun h => hm h s hs, fun h => hn h s hs⟩

/-- A handler is only given what `m` raises. -/
theorem yields_tryCatch {handler : ε → EStateM ε σ α} {R : ε → Prop} (hm : Yields I m Q R)
    (hh : ∀ e, R e → Yields I (handler e) Q P) : Yields I (tryCatch m handler) Q P :=
  fun s hs => ensures_tryCatch.2 ((hm s hs).mono (fun _ _ h => h) fun e s' h => hh e h.1 s' h.2)

/-- A check. -/
theorem yields_ofExcept {x : Except ε α} (hQ : ∀ a, x = .ok a → Q a) (hP : ∀ e, x = .error e → P e) :
    Yields I (ofExcept x : EStateM ε σ α) Q P :=
  fun _ hs => ensures_ofExcept.2 ⟨fun a ha => ⟨hQ a ha, hs⟩, fun e he => ⟨hP e he, hs⟩⟩

/-- A procedure on a component keeps what is said of the other components. -/
theorem yields_zoom {get : σ → τ} {put : σ → τ → σ} {m : EStateM ε τ α} {J : τ → Prop} (h : Yields J m Q P)
    (hget : ∀ s, I s → J (get s)) (hput : ∀ s t, I s → J t → I (put s t)) : Yields I (zoom get put m) Q P :=
  fun s hs => ensures_zoom.2 ((h (get s) (hget s hs)).mono (fun _ t h => ⟨h.1, hput s t hs h.2⟩)
    fun _ t h => ⟨h.1, hput s t hs h.2⟩)

end Yields

/-- The state a call leaves behind. -/
def after (m : EStateM ε σ α) (s : σ) : σ :=
  match m s with
  | .ok _ s' => s'
  | .error _ s' => s'

/-- What holds of the state left behind, however the call ends. -/
theorem ensures_iff_after {P : σ → Prop} :
    Ensures m s (fun _ => P) (fun _ => P) ↔ P (after m s) := by
  rw [Ensures, Procedure.after]
  cases m s <;> exact Iff.rfl

/-- The state behind a run, however it ended. -/
theorem Preserves.after {I : σ → Prop} (h : Preserves I m) (hs : I s) : I (after m s) :=
  ensures_iff_after.1 (h s hs)

end Subgen.Procedure
