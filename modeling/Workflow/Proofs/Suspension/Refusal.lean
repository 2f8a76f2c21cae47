import Mathlib
import Workflow.Proofs.Suspension.Decision

/-!
# Changes fail before they write

A change of states is checked before the first row is written, and what follows from it is not
refused any more. So a change that fails has left everything as it was, even before its work is
taken back.

* `Request.Passes` says that a request and all requests of its cascade are in order, permitted and
  find their resources, each in the store that the writing before has left.
* `passes_of_admission`: a request that is admitted passes.
* `refused_change_writes_nothing`: a request that fails was not admitted and has done nothing.
-/

namespace Workflow.Suspension.Request

/-- The request and those that follow from it pass. Its selectors are in order, the subject is
permitted to make it and what it names exists; the resources and those that always change together
with them are written; and the next request of the cascade passes in the store as it is then. -/
inductive Passes (c : Context) : Request → Store → Prop where
  | intro {r : Request} {selector : RowSelector} {before : Option SuspensionState} {s s' : Store}
      (selector_ok : r.normalized.selector = .ok selector)
      (required : r.normalized.require selector c s = .ok ())
      (found : r.normalized.before selector s = .ok before)
      (written : ∀ minted,
        (r.normalized.write selector).run c ⟨s, minted⟩ = (.ok (), ⟨s', minted⟩))
      (cascade : ∀ next, r.normalized.cascade? = some next →
        Passes c { next with audited := false } s') : Passes c r s

theorem admission_inv {r : Request} {c : Context} {s : Store} {before : Option SuspensionState}
    (hnow : r.date = none) (h : r.admission c s = .ok before) :
    ∃ selector, r.normalized.selector = .ok selector ∧
      r.normalized.require selector c s = .ok () ∧ r.normalized.before selector s = .ok before := by
  simp only [admission, bind_eq_ok, hnow] at h
  obtain ⟨selector, hselector, _, hrequired, hbefore⟩ := h
  exact ⟨selector, hselector, hrequired, hbefore⟩

/-- Of a request that is admitted, the resources are written and the cascade is admitted. -/
theorem passes_of_admission {r : Request} {c : Context} {s : Store}
    {before : Option SuspensionState} (hnow : r.date = none) (h : r.admission c s = .ok before) :
    r.Passes c s := by
  obtain ⟨selector, hselector, hrequired, hbefore⟩ := admission_inv hnow h
  have hwrite (minted : Nat) : (r.normalized.write selector).run c ⟨s, minted⟩ =
      (.ok (), ⟨r.own.carriedOut s, minted⟩) := by
    rw [run_write (by rw [chosen?_normalized, chosen?_of_selector hselector]), own_normalized,
      carriedOut_normalized]
  refine .intro hselector hrequired hbefore hwrite fun next hnext => ?_
  -- dependent resources lie deeper, so the cascade comes to an end
  have hdepth : next.target.depth < r.target.depth := by simpa using depth_cascade? hnext
  have hdate : next.date = none := (cascade?_inv hnext).2.2.1
  have hadmitted : admission { next with audited := false } c (r.own.carriedOut s) = .ok none := by
    rw [admission_audited]
    exact admission_cascade hselector hrequired hnext
  exact passes_of_admission hdate hadmitted
termination_by r.target.depth

/-- **A change that fails has written nothing.** It fails by the decision on the request itself,
when the state is still as it was. Once the request is admitted, everything that follows from it
passes. -/
theorem refused_change_writes_nothing (r : Request) (o : Origin) (c : Context) (st : State) :
    (∀ e st', (r.change o).run c st = (.error e, st') →
      st' = st ∧ r.admission c st.store = .error e) ∧
    (r.date = none → ∀ before, r.admission c st.store = .ok before → r.Passes c st.store) := by
  refine ⟨fun e st' hrun => ?_, fun hnow before => passes_of_admission hnow⟩
  rw [run_change, decidedRun] at hrun
  cases hadmission : r.admission c st.store with
  | ok before =>
    rw [hadmission] at hrun
    cases hrun
  | error reason =>
    rw [hadmission] at hrun
    cases hrun
    exact ⟨rfl, rfl⟩

/-- Somebody who may change a definition, but not its instances, suspends it together with them;
somebody who may do both passes. -/
theorem suspension_needs_both_permissions :
    let definition := ProcessDefinition.new "x" "order" 1
    let store := ((∅ : Store).putDefinition definition).putExecution (.instanceOf "i" definition)
    let grant : Grant :=
      { Grant.new "g" .give .processDefinition with
        user := some "john", permissions := .ofList [.update] }
    let both : Grant := grant.addPermission .updateInstances
    let john : Context := ⟨true, some ⟨"john", []⟩⟩
    let r : Request :=
      { Request.new .processDefinition .suspended with
        selectors := { resourceId := some definition.id }, dependents := true }
    let st : State := ⟨store.putGrant grant, 0⟩
    let denial : Denial := ⟨"john", .updateInstances, .processDefinition, some "order"⟩
    (∃ st', (r.change .request).run john st = (.error (.denied denial), st') ∧
        st' = st ∧ r.admission john st.store = .error (.denied denial)) ∧
      r.Passes john (store.putGrant both) := by
  intro definition store grant both john r st denial
  have hdenied : r.admission john st.store = .error (.denied denial) := by cbv
  have hadmitted : r.admission john (store.putGrant both) = .ok (some .active) := by
    cbv
  have hrun : (r.change .request).run john st = (.error (.denied denial), st) := by
    rw [run_change, decidedRun, hdenied]
  exact ⟨⟨st, hrun, (refused_change_writes_nothing r .request john st).1 _ _ hrun⟩,
    (refused_change_writes_nothing r .request john ⟨store.putGrant both, 0⟩).2 rfl _ hadmitted⟩

end Workflow.Suspension.Request
