import Workflow.Engine

/-!
# What an action has done

Ways to speak about the outcome of an action without running it by hand.

* `FailsOnly p` says of what is decided that it fails for reasons of one kind only.
* The inversion lemmas `run_bind_eq_ok`, `run_consult_bind_eq_ok` and their siblings take a run
  that succeeded apart, step by step.
* `Within R` says that an action stays within a frame `R`, a relation between the states before and
  after: it is shown for what is written and passed on by the combinators.
* `Keeps P` is the frame of a property of stores: it says that an action leads from stores with `P`
  to stores with `P`, whether it succeeds or not. So an invariant of the store is checked only where
  something is written.
-/

namespace Workflow

/-- Work that is decided step by step succeeds when every step does. -/
theorem bind_eq_ok {ε α β : Type} {x : Except ε α} {f : α → Except ε β} {y : β} :
    (x >>= f) = .ok y ↔ ∃ a, x = .ok a ∧ f a = .ok y := by
  cases x <;> simp [bind, Except.bind]

theorem ensureGiven_eq_ok {α : Type} {what : String} {given : Option α} {a : α} :
    ensureGiven what given = .ok a ↔ given = some a := by
  cases given <;> simp [ensureGiven]

/-- A row that has to be there is found exactly if it is filed. -/
theorem Store.row_eq_ok {α : Type} {t : Table α} {kind : RowKind} {id : String} {a : α} :
    row t kind id = .ok a ↔ t.get? id = some a := by
  unfold row
  cases t.get? id <;> simp

/-- What is decided fails for reasons of one kind only. -/
def FailsOnly {α : Type} (p : Error → Prop) (x : Except Error α) : Prop :=
  ∀ e, x = .error e → p e

namespace FailsOnly

variable {α β : Type} {p : Error → Prop}

theorem ok (a : α) : FailsOnly p (.ok a) := fun _ h => by cases h

theorem error {e : Error} (h : p e) : FailsOnly p (.error e : Except Error α) := by
  rintro _ ⟨⟩
  exact h

theorem bind {x : Except Error α} {f : α → Except Error β} (hx : FailsOnly p x)
    (hf : ∀ a, FailsOnly p (f a)) : FailsOnly p (x >>= f) := by
  cases x with
  | error e => exact .error (hx e rfl)
  | ok a => exact hf a

end FailsOnly

namespace Action

variable {α β : Type} {c : Context} {st st' : State}

/-! ## First steps that only read -/

theorem run_decided_bind (r : Except Error α) (f : α → Action β) :
    (decided r >>= f).run c st =
      match r with
      | .ok x => (f x).run c st
      | .error e => (.error e, st) := by
  cases r <;> rfl

theorem run_consult_bind (g : Context → Store → Except Error α) (f : α → Action β) :
    (consult g >>= f).run c st =
      match g c st.store with
      | .ok x => (f x).run c st
      | .error e => (.error e, st) := by
  rw [run_bind, run_consult]
  cases g c st.store <;> rfl

/-! ## Runs that succeed -/

theorem run_bind_eq_ok {a : Action α} {f : α → Action β} {y : β} :
    (a >>= f).run c st = (.ok y, st') ↔
      ∃ x st₁, a.run c st = (.ok x, st₁) ∧ (f x).run c st₁ = (.ok y, st') := by
  rw [run_bind]
  rcases a.run c st with ⟨_ | x, st₁⟩
  · simp
  · refine ⟨fun h => ⟨x, st₁, rfl, h⟩, ?_⟩
    rintro ⟨_, _, h, h'⟩
    cases h
    exact h'

theorem run_map (g : α → β) (a : Action α) (c : Context) (st : State) :
    (g <$> a).run c st = ((a.run c st).1.map g, (a.run c st).2) := by
  rw [map_eq_pure_bind, run_bind]
  rcases a.run c st with ⟨_ | _, _⟩ <;> rfl

theorem run_map_eq_ok {g : α → β} {a : Action α} {y : β} :
    (g <$> a).run c st = (.ok y, st') ↔ ∃ x, a.run c st = (.ok x, st') ∧ g x = y := by
  rw [run_map]
  rcases a.run c st with ⟨_ | _, _⟩
  · simp [Except.map]
  · simp only [Except.map, Prod.mk.injEq, Except.ok.injEq]
    exact ⟨fun ⟨h, h'⟩ => ⟨_, ⟨rfl, h'⟩, h⟩, fun ⟨_, ⟨h, h'⟩, h''⟩ => ⟨h ▸ h'', h'⟩⟩

theorem run_decided_bind_eq_ok {r : Except Error α} {f : α → Action β} {y : β} :
    (decided r >>= f).run c st = (.ok y, st') ↔ ∃ x, r = .ok x ∧ (f x).run c st = (.ok y, st') := by
  rw [run_decided_bind]
  cases r <;> simp

theorem run_consult_bind_eq_ok {g : Context → Store → Except Error α} {f : α → Action β} {y : β} :
    (consult g >>= f).run c st = (.ok y, st') ↔
      ∃ x, g c st.store = .ok x ∧ (f x).run c st = (.ok y, st') := by
  rw [run_consult_bind]
  cases g c st.store <;> simp

theorem run_authorize_bind_eq_ok {g : Authority → Except Error α} {f : α → Action β} {y : β} :
    (authorize g >>= f).run c st = (.ok y, st') ↔
      ∃ x, g (c.authority st.store) = .ok x ∧ (f x).run c st = (.ok y, st') :=
  run_consult_bind_eq_ok

theorem run_authorize_bind_error {g : Authority → Except Error α} {f : α → Action β} {e : Error}
    (h : g (c.authority st.store) = .error e) : (authorize g >>= f).run c st = (.error e, st) :=
  run_bind_error (by rw [run_authorize, h])

theorem run_modify_eq_ok {f : Store → Except Error Store} {u : Unit} :
    (modify f).run c st = (.ok u, st') ↔
      ∃ s, f st.store = .ok s ∧ st' = { st with store := s } := by
  rw [run_modify]
  cases f st.store <;> simp [eq_comm]

theorem run_discard_eq_ok {a : Action α} {u : Unit} :
    (discard a).run c st = (.ok u, st') ↔ ∃ x, a.run c st = (.ok x, st') := by
  change (Function.const α () <$> a).run c st = _ ↔ _
  rw [run_map_eq_ok]
  simp

/-! ## Work done entirely or not at all -/

theorem run_atomically_eq_ok {a : Action α} {x : α} :
    (atomically a).run c st = (.ok x, st') ↔ a.run c st = (.ok x, st') := by
  rw [run_atomically]
  rcases a.run c st with ⟨_ | _, _⟩ <;> simp

theorem store_atomically_of_error {a : Action α} {e : Error}
    (h : (atomically a).run c st = (.error e, st')) : st'.store = st.store := by
  rw [run_atomically] at h
  rcases hrun : a.run c st with ⟨_ | _, _⟩ <;> rw [hrun] at h
  · cases h
    rfl
  · cases h

/-! ## Frames -/

/-- A frame is a relation between the states before and after some work: it holds when nothing is
done, passes on from one step to the next, and still holds when the store is put back. -/
structure Frame (R : State → State → Prop) : Prop where
  refl : ∀ st, R st st
  trans : ∀ {st₁ st₂ st₃}, R st₁ st₂ → R st₂ st₃ → R st₁ st₃
  rollback : ∀ {st st'}, R st st' → R st { st' with store := st.store }

/-- The action stays within a frame, whether it succeeds or not. -/
def Within (R : State → State → Prop) (a : Action α) : Prop := ∀ c st, R st (a.run c st).2

namespace Within

variable {R : State → State → Prop} {a : Action α}

theorem of_run (ha : Within R a) {r : Except Error α} (h : a.run c st = (r, st')) : R st st' := by
  have hwithin := ha c st
  rwa [h] at hwithin

theorem pure (hR : Frame R) (x : α) : Within R (Pure.pure x : Action α) := fun _ st => hR.refl st

theorem fail (hR : Frame R) (e : Error) : Within R (fail e : Action α) := fun _ st => hR.refl st

theorem decided (hR : Frame R) (r : Except Error α) : Within R (decided r) := fun _ st => hR.refl st

theorem consult (hR : Frame R) (f : Context → Store → Except Error α) : Within R (consult f) :=
  fun _ st => hR.refl st

theorem authorize (hR : Frame R) (f : Authority → Except Error α) : Within R (authorize f) :=
  consult hR _

theorem context (hR : Frame R) : Within R context := fun _ st => hR.refl st

theorem bind (ha : Within R a) (hR : Frame R) {f : α → Action β} (hf : ∀ x, Within R (f x)) :
    Within R (a >>= f) := by
  intro c st
  have hfirst := ha c st
  rw [run_bind]
  rcases hrun : a.run c st with ⟨_ | x, st₁⟩
  · rwa [hrun] at hfirst
  · rw [hrun] at hfirst
    exact hR.trans hfirst (hf x c st₁)

theorem map (ha : Within R a) (g : α → β) : Within R (g <$> a) := by
  intro c st
  rw [run_map]
  exact ha c st

/-- A first step that only reads; what it has read is known afterwards. -/
theorem run_consult_bind (hR : Frame R) {g : Context → Store → Except Error α} {f : α → Action β}
    (hf : ∀ x, g c st.store = .ok x → R st ((f x).run c st).2) :
    R st ((Action.consult g >>= f).run c st).2 := by
  rw [Action.run_consult_bind]
  cases hg : g c st.store with
  | error _ => exact hR.refl st
  | ok x => exact hf x hg

theorem run_decided_bind (hR : Frame R) {r : Except Error α} {f : α → Action β}
    (hf : ∀ x, r = .ok x → R st ((f x).run c st).2) :
    R st ((Action.decided r >>= f).run c st).2 := by
  rw [Action.run_decided_bind]
  cases hr : r with
  | error _ => exact hR.refl st
  | ok x => exact hf x hr

theorem discard (ha : Within R a) : Within R (discard a) := ha.map _

theorem change (hR : Frame R) {f : Store → Except Error (α × Store)}
    (hf : ∀ st x s', f st.store = .ok (x, s') → R st { st with store := s' }) :
    Within R (change f) := by
  intro c st
  rw [run_change]
  cases hs : f st.store with
  | error _ => exact hR.refl st
  | ok r => exact hf st r.1 r.2 hs

theorem modify (hR : Frame R) {f : Store → Except Error Store}
    (hf : ∀ st s', f st.store = .ok s' → R st { st with store := s' }) :
    Within R (modify f) := by
  intro c st
  rw [run_modify]
  cases hs : f st.store with
  | error _ => exact hR.refl st
  | ok s' => exact hf st s' hs

theorem update {f : Store → Store} (hf : ∀ st, R st { st with store := f st.store }) :
    Within R (update f) := fun _ st => hf st

theorem unauthenticated (ha : Within R a) : Within R (unauthenticated a) := fun _ st => ha _ st

theorem attempt (ha : Within R a) : Within R (attempt a) := fun c st => ha c st

theorem atomically (ha : Within R a) (hR : Frame R) : Within R (atomically a) := by
  intro c st
  have hwithin := ha c st
  rw [run_atomically]
  rcases hrun : a.run c st with ⟨_ | _, _⟩
  · rw [hrun] at hwithin
    exact hR.rollback hwithin
  · rwa [hrun] at hwithin

end Within

/-! ## Properties that are kept -/

/-- The action leads from stores with a property to stores with it. -/
def Keeps (P : Store → Prop) (a : Action α) : Prop :=
  ∀ c st, P st.store → P (a.run c st).2.store

namespace Keeps

variable {P : Store → Prop} {a : Action α}

/-- Having a property as before is a frame. -/
theorem frame (P : Store → Prop) : Frame fun st st' => P st.store → P st'.store where
  refl _ h := h
  trans h h' hs := h' (h hs)
  rollback _ h := h

/-- Keeping a property is staying within its frame. -/
theorem within (ha : Keeps P a) : Within (fun st st' => P st.store → P st'.store) a := ha

theorem of_run (ha : Keeps P a) (hst : P st.store) {r : Except Error α}
    (h : a.run c st = (r, st')) : P st'.store := ha.within.of_run h hst

theorem pure (x : α) : Keeps P (Pure.pure x : Action α) := Within.pure (frame P) x

theorem fail (e : Error) : Keeps P (fail e : Action α) := Within.fail (frame P) e

theorem decided (r : Except Error α) : Keeps P (decided r) := Within.decided (frame P) r

theorem consult (f : Context → Store → Except Error α) : Keeps P (consult f) :=
  Within.consult (frame P) f

theorem authorize (f : Authority → Except Error α) : Keeps P (authorize f) :=
  Within.authorize (frame P) f

theorem context : Keeps P context := Within.context (frame P)

theorem fresh : Keeps P fresh := fun _ _ h => h

theorem bind {f : α → Action β} (ha : Keeps P a) (hf : ∀ x, Keeps P (f x)) :
    Keeps P (a >>= f) := ha.within.bind (frame P) hf

theorem map (g : α → β) (ha : Keeps P a) : Keeps P (g <$> a) := ha.within.map g

theorem discard (ha : Keeps P a) : Keeps P (discard a) := ha.within.discard

theorem change {f : Store → Except Error (α × Store)}
    (hf : ∀ s x s', P s → f s = .ok (x, s') → P s') : Keeps P (change f) :=
  Within.change (frame P) fun st x s' hs h => hf st.store x s' h hs

theorem modify {f : Store → Except Error Store} (hf : ∀ s s', P s → f s = .ok s' → P s') :
    Keeps P (modify f) :=
  Within.modify (frame P) fun st s' hs h => hf st.store s' h hs

theorem update {f : Store → Store} (hf : ∀ s, P s → P (f s)) : Keeps P (update f) :=
  fun _ _ h => hf _ h

theorem audit (hP : ∀ s entry, P s → P (s.record entry)) (entry : LogEntry) :
    Keeps P (audit entry) := fun _ _ h => hP _ _ h

theorem unauthenticated (ha : Keeps P a) : Keeps P (unauthenticated a) := ha.within.unauthenticated

theorem attempt (ha : Keeps P a) : Keeps P (attempt a) := ha.within.attempt

theorem atomically (ha : Keeps P a) : Keeps P (atomically a) := ha.within.atomically (frame P)

end Keeps

end Action

end Workflow
