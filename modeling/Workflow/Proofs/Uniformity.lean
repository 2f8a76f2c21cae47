import Workflow.Proofs.Correlation.Targets
import Workflow.Proofs.Ids
import Workflow.Proofs.Writes

/-!
# Instances are suspended as a whole

A process instance, its executions and its tasks are active or suspended together. Nothing that
commands write takes them apart: states are given by the instance that a row belongs to, everything
else leaves them as they are, and a new instance comes under an id that no row belongs to.

* `Store.IsUniform`: rows that belong to an instance have its state.
* `Store.Follows f s s'`: rows belong where they did and have states by `f`, which sees the instance
  and the state before. `Store.IsUniform.follows` is the step.
* `instances_stay_uniform`: every run keeps instances uniform, so that no message comes to an
  execution of a suspended instance.
-/

namespace Workflow

open Correlation (Lookup Message Match)

/-- Executions and tasks that belong to a process instance have its state. -/
structure Store.IsUniform (s : Store) : Prop where
  executions : ∀ i ∈ s.executions.rows, i.isInstance →
    ∀ e ∈ s.executions.rows, e.instanceId = i.id → e.state = i.state
  tasks : ∀ i ∈ s.executions.rows, i.isInstance →
    ∀ t ∈ s.tasks.rows, t.instanceId = some i.id → t.state = i.state

/-- No row belongs to an instance whose id was not handed out yet. -/
def State.FreshIds (st : State) : Prop :=
  ∀ n, st.minted < n →
    (∀ e ∈ st.store.executions.rows, e.instanceId ≠ mintedId n) ∧
      ∀ t ∈ st.store.tasks.rows, t.instanceId ≠ some (mintedId n)

/-- Executions and tasks stem from earlier ones, belong to the same instances and have the state
that follows from the instance and the state before. -/
structure Store.Follows (f : String → SuspensionState → SuspensionState) (s s' : Store) : Prop where
  executions : ∀ e' ∈ s'.executions.rows, ∃ e ∈ s.executions.rows,
    e'.id = e.id ∧ e'.instanceId = e.instanceId ∧ e'.state = f e.instanceId e.state
  tasks : ∀ t' ∈ s'.tasks.rows, ∃ t ∈ s.tasks.rows,
    t'.instanceId = t.instanceId ∧ ∀ i, t.instanceId = some i → t'.state = f i t.state

variable {s s' : Store} {st st' : State} {f : String → SuspensionState → SuspensionState}

/-! ## Rows that stem from earlier ones -/

theorem Store.Follows.of_eq (hexecutions : s'.executions = s.executions)
    (htasks : s'.tasks = s.tasks) : s.Follows (fun _ state => state) s' where
  executions e he := ⟨e, hexecutions ▸ he, rfl, rfl, rfl⟩
  tasks t ht := ⟨t, htasks ▸ ht, rfl, fun _ _ => rfl⟩

/-- **Uniform stores are followed by uniform stores.** -/
theorem Store.IsUniform.follows (h : s.IsUniform) (hfollows : s.Follows f s') : s'.IsUniform := by
  refine ⟨fun i' hi' hinstance' e' he' hof => ?_, fun i' hi' hinstance' t' ht' hof => ?_⟩
  all_goals
    obtain ⟨i, hi, hid, hown, histate⟩ := hfollows.executions i' hi'
    have hinstance : i.id = i.instanceId := by
      rw [← hid, ← hown]
      exact of_decide_eq_true hinstance'
  · obtain ⟨e, he, -, heof, hestate⟩ := hfollows.executions e' he'
    have hbelongs : e.instanceId = i.id := by rw [← heof, hof, hid]
    rw [hestate, histate, hbelongs, ← hinstance,
      h.executions i hi (decide_eq_true hinstance) e he hbelongs]
  · obtain ⟨t, ht, htof, htstate⟩ := hfollows.tasks t' ht'
    have hbelongs : t.instanceId = some i.id := by rw [← htof, hof, hid]
    rw [htstate i.id hbelongs, histate, ← hinstance,
      h.tasks i hi (decide_eq_true hinstance) t ht hbelongs]

theorem State.FreshIds.follows (h : st.FreshIds) (hfollows : st.store.Follows f st'.store)
    (hminted : st.minted ≤ st'.minted) : st'.FreshIds := by
  intro n hn
  obtain ⟨hexecutions, htasks⟩ := h n (Nat.lt_of_le_of_lt hminted hn)
  refine ⟨fun e' he' => ?_, fun t' ht' => ?_⟩
  · obtain ⟨e, he, -, hof, -⟩ := hfollows.executions e' he'
    exact hof ▸ hexecutions e he
  · obtain ⟨t, ht, hof, -⟩ := hfollows.tasks t' ht'
    exact hof ▸ htasks t ht

/-! ## What is written -/

/-- Instances are uniform, and ids that will be handed out are not in use. -/
structure State.Uniform (st : State) : Prop where
  uniform : st.store.IsUniform
  fresh : st.FreshIds

/-- What runs keep: ids count upwards, and instances stay uniform. -/
structure State.KeepsUniform (st st' : State) : Prop where
  minted : st.minted ≤ st'.minted
  uniform : st.Uniform → st'.Uniform

namespace State.KeepsUniform

theorem of_follows (hminted : st.minted ≤ st'.minted) (h : st.store.Follows f st'.store) :
    st.KeepsUniform st' :=
  ⟨hminted, fun hst => ⟨hst.uniform.follows h, hst.fresh.follows h hminted⟩⟩

/-- Work that leaves executions and tasks alone. -/
theorem of_eq (hminted : st.minted ≤ st'.minted)
    (hexecutions : st'.store.executions = st.store.executions)
    (htasks : st'.store.tasks = st.store.tasks) : st.KeepsUniform st' :=
  of_follows hminted (.of_eq hexecutions htasks)

/-- A request gives states to whole instances. -/
theorem states (r : Suspension.Request) (st : State) :
    st.KeepsUniform { st with store := r.carriedOut st.store } := by
  let f (id : String) (state : SuspensionState) : SuspensionState :=
    if r.coversInstance st.store id then r.state else state
  refine of_follows (f := f) (Nat.le_refl _) ⟨fun e' he' => ?_, fun t' ht' => ?_⟩
  · rw [r.carriedOut_executions, Table.rows_map, List.mem_map] at he'
    obtain ⟨e, he, rfl⟩ := he'
    exact ⟨e, he, rfl, rfl, rfl⟩
  · rw [r.carriedOut_tasks, Table.rows_map, List.mem_map] at ht'
    obtain ⟨t, ht, rfl⟩ := ht'
    refine ⟨t, ht, rfl, fun i hi => ?_⟩
    simp only [Suspension.Request.coversTask, hi, f]

/-- An event changes variables only. -/
theorem deliver {sub : Subscription} {payload : Option Variables}
    (h : st.store.deliver sub payload = .ok s') : st.KeepsUniform { st with store := s' } := by
  obtain ⟨id, owner, -, -, rfl⟩ := Store.deliver_eq_ok.1 h
  refine of_follows (f := fun _ state => state) (Nat.le_refl _)
    ⟨fun e' he' => ?_, fun t ht => ⟨t, ht, rfl, fun _ _ => rfl⟩⟩
  obtain ⟨e, he, rfl | rfl⟩ := Table.mem_rows_modify he'
  · exact ⟨_, he, rfl, rfl, rfl⟩
  · exact ⟨e, he, rfl, rfl, rfl⟩

/-- Work on a task leaves its instance and its state alone. -/
theorem task {id : String} {t t' : Task} (h : st.store.tasks.get? id = some t)
    (hwork : t.WorkedTo t') : st.KeepsUniform { st with store := st.store.putTask t' } := by
  refine of_follows (f := fun _ state => state) (Nat.le_refl _)
    ⟨fun e he => ⟨e, he, rfl, rfl, rfl⟩, fun u hu => ?_⟩
  rcases Table.mem_rows_insert hu with rfl | hu
  · refine ⟨t, Table.mem_rows_iff.2 ⟨id, h⟩, ?_⟩
    rw [hwork]
    exact ⟨rfl, fun _ _ => rfl⟩
  · exact ⟨u, hu, rfl, fun _ _ => rfl⟩

/-- **A new instance is the only row that belongs to it.** -/
theorem start (st : State) (d : ProcessDefinition) (businessKey activityId : Option String)
    (vars : Variables) :
    st.KeepsUniform
      { store := st.store.putExecution
          (.started (mintedId (st.minted + 1)) d businessKey activityId vars)
        minted := st.minted + 1 } := by
  refine ⟨Nat.le_succ _, fun hst => ?_⟩
  obtain ⟨hexecutions, htasks⟩ := hst.fresh (st.minted + 1) (Nat.lt_succ_self _)
  refine ⟨⟨fun i hi hinstance e he hof => ?_, fun i hi hinstance t ht hof => ?_⟩, fun n hn => ?_⟩
  · rcases Table.mem_rows_insert hi with rfl | hi <;>
      rcases Table.mem_rows_insert he with rfl | he
    · rfl
    · exact absurd hof (hexecutions e he)
    · have hown : i.id = i.instanceId := of_decide_eq_true hinstance
      exact absurd (hown.symm.trans hof.symm) (hexecutions i hi)
    · exact hst.uniform.executions i hi hinstance e he hof
  · rcases Table.mem_rows_insert hi with rfl | hi
    · exact absurd hof (htasks t ht)
    · exact hst.uniform.tasks i hi hinstance t ht hof
  · obtain ⟨hother, htasks'⟩ := hst.fresh n (Nat.lt_of_succ_lt hn)
    refine ⟨fun e he => ?_, htasks'⟩
    rcases Table.mem_rows_insert he with rfl | he
    · exact fun h => Nat.ne_of_lt hn (mintedId_injective h)
    · exact hother e he

/-- **Nothing that commands write takes instances apart.** -/
theorem writes : WritesWithin State.KeepsUniform where
  refl _ := ⟨Nat.le_refl _, id⟩
  trans h h' := ⟨Nat.le_trans h.minted h'.minted, fun hst => h'.uniform (h.uniform hst)⟩
  rollback h := of_eq h.minted rfl rfl
  fresh _ := of_eq (Nat.le_succ _) rfl rfl
  record _ _ := of_eq (Nat.le_refl _) rfl rfl
  revoke _ _ _ := of_eq (Nat.le_refl _) rfl rfl
  save _ _ _ := of_eq (Nat.le_refl _) rfl rfl
  states st r := states r st
  schedule _ _ _ := of_eq (Nat.le_succ _) rfl rfl
  unschedule _ _ := of_eq (Nat.le_refl _) rfl rfl
  failure st id reason left s' h := by
    obtain ⟨_, -, h⟩ := bind_eq_ok.1 h
    cases h
    exact of_eq (Nat.le_refl _) rfl rfl
  deliver _ _ _ _ h := deliver h
  start := start
  task _ _ _ _ h hwork := task h hwork

end State.KeepsUniform

/-! ## Messages -/

/-- Messages do not come to executions of suspended instances. -/
theorem Store.IsUniform.active_of_target (h : s.IsUniform) {m : Message} {targets : List Match}
    (htargets : Lookup.standard.candidates m s = .ok targets ∨
      Lookup.standard.all m s = .ok targets)
    {e : Execution} {sub : Subscription} (he : Match.waiting e sub ∈ targets) {i : Execution}
    (hi : i ∈ s.executions.rows) (hinstance : i.isInstance) (hof : i.id = e.instanceId) :
    i.isSuspended = false := by
  obtain ⟨waiting, start, rfl, hwaiting, hstart⟩ := Correlation.targets_standard htargets
  rcases List.mem_append.1 he with he | he
  · obtain ⟨_, _, heq, hrow, hactive, -⟩ :=
      Correlation.waiting_of_mem_waitingMatches (hwaiting _ he)
    obtain ⟨rfl, rfl⟩ := Match.waiting.inj heq
    rw [Execution.isSuspended, ← h.executions i hi hinstance e hrow hof.symm]
    exact hactive
  · obtain ⟨_, _, heq⟩ :=
      Correlation.start_of_startMatch? (hstart _ (Option.mem_toList.1 he))
    cases heq

/-! ## Runs -/

/-- **Instances are suspended as a whole.** If executions and tasks have the state of the instance
that they belong to, they have it after every run, whatever commands are asked for by whom, whenever
deferred jobs are looked for, and whatever finds the targets of messages. So at no time does the
standard look-up find an execution of a suspended instance. Ids that are handed out are not in use
before. -/
theorem instances_stay_uniform (settings : Settings) (l : Lookup) (events : List Engine.Event)
    (st : State) (huniform : st.store.IsUniform) (hfresh : st.FreshIds) :
    let final := ((Engine.mk settings ⟨Suspension.handlers, l⟩).run events st).store
    final.IsUniform ∧
      ∀ m targets, (Lookup.standard.candidates m final = .ok targets ∨
          Lookup.standard.all m final = .ok targets) →
        ∀ e sub, Match.waiting e sub ∈ targets →
          ∀ i ∈ final.executions.rows, i.isInstance → i.id = e.instanceId →
            i.isSuspended = false := by
  intro final
  have hkept := State.KeepsUniform.writes.run settings l events st
  have hfinal : final.IsUniform := (hkept.uniform ⟨huniform, hfresh⟩).uniform
  exact ⟨hfinal, fun m targets htargets e sub he i hi hinstance hof =>
    hfinal.active_of_target htargets he hi hinstance hof⟩

/-- A process is suspended together with its instance, where a task is at work and a branch waits
for a payment; then the payment comes and finds nobody. -/
theorem suspended_branch_not_paid :
    let definition := ProcessDefinition.new "p" "order" 1
    let i := Execution.instanceOf "i" definition
    let branch := Execution.childOf "b" i
    let store := ((((Store.putDefinition ∅ definition).putExecution i).putExecution branch).putTask
      (.ofExecution "t" branch)).putSubscription (.toMessage "s" "paid" "b" "i" "wait" 0)
    let suspension : Suspension.Request :=
      { Suspension.Request.new .processDefinition .suspended with
        selectors := { processDefinitionKey := some "order" }, dependents := true }
    let paid : Message := ⟨some "paid", ⟨none, none, ∅⟩, ∅⟩
    let final := ((Engine.standard {}).run
      [.ask none (.setStates suspension), .ask none (.correlateAll paid)] ⟨store, 0⟩).store
    store.IsUniform ∧ State.FreshIds ⟨store, 0⟩ ∧
      final.executions.rows.map (·.state) = [.suspended, .suspended] ∧
      final.tasks.rows.map (·.state) = [.suspended] ∧ final.deliveries = [] ∧ final.IsUniform := by
  intro definition i branch store suspension paid final
  have huniform : store.IsUniform := ⟨by decide +kernel, by decide +kernel⟩
  have hids : (∀ e ∈ store.executions.rows, e.instanceId.toList.head? ≠ some '0') ∧
      ∀ t ∈ store.tasks.rows, ∀ id ∈ t.instanceId, id.toList.head? ≠ some '0' := by
    decide +kernel
  have hfresh : State.FreshIds ⟨store, 0⟩ := fun n _ =>
    ⟨fun e he => State.ne_mintedId (hids.1 e he) n,
      fun t ht hof => State.ne_mintedId (hids.2 t ht _ hof) n rfl⟩
  exact ⟨huniform, hfresh, by decide +kernel, by decide +kernel, by decide +kernel,
    (instances_stay_uniform {} .standard _ ⟨store, 0⟩ huniform hfresh).1⟩

end Workflow
