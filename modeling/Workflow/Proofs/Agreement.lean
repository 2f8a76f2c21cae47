import Workflow.Proofs.Outcomes

/-!
# Actions that agree

Two actions agree over a relation of stores if, run in related stores, they end alike: both succeed
with related answers or both fail for the same reason, and the stores are related again. An action
that agrees with itself does not look at what the relation leaves open.

* `Action.Agree S R a b`: the actions `a` and `b` agree over the relation `S` of stores, with answers
  related by `R`.
* `Agree.bind` and its siblings: combinators make actions that agree from actions that agree.
* `Agree.run_eq`: related stores, the same answer.
-/

namespace Workflow.Action

variable {α β γ δ : Type}

/-- Both succeed with related answers, or both fail for the same reason. -/
inductive Alike (R : α → β → Prop) : Except Error α → Except Error β → Prop where
  | ok {x : α} {y : β} (h : R x y) : Alike R (.ok x) (.ok y)
  | error (e : Error) : Alike R (.error e) (.error e)

theorem Alike.eq {r r' : Except Error α} (h : Alike Eq r r') : r = r' := by
  cases h with
  | ok h => rw [h]
  | error e => rfl

theorem Alike.of_eq {R : α → α → Prop} (hR : ∀ x, R x x) (r : Except Error α) : Alike R r r := by
  cases r with
  | ok x => exact .ok (hR x)
  | error e => exact .error e

/-- The stores are related, and as many ids were handed out. -/
structure Over (S : Store → Store → Prop) (st st' : State) : Prop where
  store : S st.store st'.store
  minted : st.minted = st'.minted

/-- Run in related stores, the two actions end alike and in related stores. -/
def Agree (S : Store → Store → Prop) (R : α → β → Prop) (a : Action α) (b : Action β) : Prop :=
  ∀ c st st', Over S st st' →
    Alike R (a.run c st).1 (b.run c st').1 ∧ Over S (a.run c st).2 (b.run c st').2

namespace Agree

variable {S : Store → Store → Prop} {R : α → β → Prop} {Q : γ → δ → Prop}

theorem pure {x : α} {y : β} (h : R x y) :
    Agree S R (Pure.pure x : Action α) (Pure.pure y : Action β) := fun _ _ _ hst => ⟨.ok h, hst⟩

theorem decided (r : Except Error α) : Agree S Eq (decided r) (Action.decided r) :=
  fun _ _ _ hst => ⟨.of_eq (fun _ => rfl) r, hst⟩

theorem consult {f : Context → Store → Except Error α} {g : Context → Store → Except Error β}
    (h : ∀ c s s', S s s' → Alike R (f c s) (g c s')) :
    Agree S R (consult f) (Action.consult g) := fun c _ _ hst => ⟨h c _ _ hst.store, hst⟩

/-- What is read is the same in related stores. -/
theorem consult_eq {f : Context → Store → Except Error α} (h : ∀ c s s', S s s' → f c s = f c s') :
    Agree S Eq (Action.consult f) (Action.consult f) := by
  refine consult fun c s s' hs => ?_
  rw [h c s s' hs]
  exact .of_eq (fun _ => rfl) _

/-- Permissions are the same if the grants are. -/
theorem authorize (hS : ∀ s s', S s s' → s.grants = s'.grants)
    (f : Authority → Except Error α) : Agree S Eq (authorize f) (Action.authorize f) := by
  refine consult_eq fun c s s' hs => congrArg f ?_
  rw [Context.authority, hS s s' hs]
  rfl

theorem modify {f g : Store → Except Error Store} (h : ∀ s s', S s s' → Alike S (f s) (g s')) :
    Agree S Eq (modify f) (Action.modify g) := by
  intro c st st' hst
  have hwritten := h _ _ hst.store
  rw [run_modify, run_modify]
  revert hwritten
  generalize f st.store = r, g st'.store = r'
  rintro (⟨hs⟩ | e)
  · exact ⟨.ok rfl, hs, hst.minted⟩
  · exact ⟨.error e, hst⟩

theorem update {f g : Store → Store} (h : ∀ s s', S s s' → S (f s) (g s')) :
    Agree S Eq (update f) (Action.update g) :=
  fun _ _ _ hst => ⟨.ok rfl, h _ _ hst.store, hst.minted⟩

theorem fresh : Agree S Eq fresh fresh := by
  intro c st st' hst
  refine ⟨.ok ?_, hst.store, ?_⟩
  · rw [hst.minted]
  · exact congrArg (· + 1) hst.minted

theorem bind {a : Action α} {b : Action β} {f : α → Action γ} {g : β → Action δ}
    (h : Agree S R a b) (hf : ∀ x y, R x y → Agree S Q (f x) (g y)) :
    Agree S Q (a >>= f) (b >>= g) := by
  intro c st st' hst
  have hfirst := h c st st' hst
  rw [run_bind, run_bind]
  revert hfirst
  generalize a.run c st = r, b.run c st' = r'
  obtain ⟨x, st₁⟩ := r
  obtain ⟨y, st₁'⟩ := r'
  rintro ⟨⟨hxy⟩ | e, hst₁⟩
  · exact hf _ _ hxy c st₁ st₁' hst₁
  · exact ⟨.error e, hst₁⟩

theorem map {a : Action α} {b : Action β} {f : α → γ} {g : β → δ} (h : Agree S R a b)
    (hf : ∀ x y, R x y → Q (f x) (g y)) : Agree S Q (f <$> a) (g <$> b) := by
  rw [map_eq_pure_bind, map_eq_pure_bind]
  exact h.bind fun x y hxy => .pure (hf x y hxy)

theorem atomically {a : Action α} {b : Action β} (h : Agree S R a b) :
    Agree S R (atomically a) (Action.atomically b) := by
  intro c st st' hst
  have hrun := h c st st' hst
  rw [run_atomically, run_atomically]
  revert hrun
  generalize a.run c st = r, b.run c st' = r'
  obtain ⟨x, st₁⟩ := r
  obtain ⟨y, st₁'⟩ := r'
  rintro ⟨⟨hxy⟩ | e, hst₁⟩
  · exact ⟨.ok hxy, hst₁⟩
  · exact ⟨.error e, hst.store, hst₁.minted⟩

/-- An action that agrees with itself answers alike in related stores. -/
theorem run_eq {a : Action α} (h : Agree S Eq a a) {st st' : State} (hst : Over S st st')
    (c : Context) : (a.run c st).1 = (a.run c st').1 ∧ Over S (a.run c st).2 (a.run c st').2 := by
  obtain ⟨halike, hover⟩ := h c st st' hst
  exact ⟨halike.eq, hover⟩

end Agree

end Workflow.Action
