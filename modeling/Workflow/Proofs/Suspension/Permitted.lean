import Workflow.Proofs.Authorization.Holding
import Workflow.Proofs.Suspension.Refusal

/-!
# Changes of states touch what the subject may update

What the subject needs for a request is decided once, by the key of a definition or by an id; which
rows get their state is decided by their columns, at every level of the cascade. Where process
instances and job definitions carry the keys of their definitions the two fit together: apart from
jobs, nothing is covered that the subject may not update.

* `Store.Keyed`: the keys that rows carry are those of their definitions.
* `Request.CoversWithin`: the subject may update what a request covers.
* `coversWithin_definition`, `coversWithin_instance` and `coversWithin_jobDefinition`: what is
  required for a request about one kind of resource covers the rows of every kind below it.
* `suspension_within_authority`: a request that succeeds covers and changes only such rows.
-/

namespace Workflow

/-- Rows are filed under their ids, and process instances and job definitions carry the key of the
process definition that they name, if it is deployed. -/
structure Store.Keyed (s : Store) : Prop where
  definitions : s.definitions.Filed (·.id)
  executions : s.executions.Filed (·.id)
  jobDefinitions : s.jobDefinitions.Filed (·.id)
  instanceKey : ∀ i ∈ s.executions.rows, i.isInstance →
    ∀ d, s.definitions.get? i.definitionId = some d → i.definitionKey = d.key
  jobDefinitionKey : ∀ j ∈ s.jobDefinitions.rows,
    ∀ d, s.definitions.get? j.definitionId = some d → j.definitionKey = d.key

/-- Rows that differ between two stores are process definitions, job definitions and rows of process
instances that the subject may update, and they differ in their states only. Jobs may differ too. -/
structure Store.ChangedWithin (s : Store) (u : Subject) (s' : Store) : Prop where
  definitions : s.definitions.Related (fun d d' => d' = d ∨
    d' = { d with state := d'.state } ∧
      s.Holds u .update .processDefinition (some d.key)) s'.definitions
  jobDefinitions : s.jobDefinitions.Related (fun j j' => j' = j ∨
    j' = { j with state := j'.state } ∧
      s.Holds u .update .processDefinition (some j.definitionKey)) s'.jobDefinitions
  executions : s.executions.Related (fun e e' => e' = e ∨
    e' = { e with state := e'.state } ∧ ∃ i ∈ s.executions.rows, i.isInstance ∧
      i.id = e.instanceId ∧ s.MayUpdateInstance u i.id i.definitionKey) s'.executions
  tasks : s.tasks.Related (fun t t' => t' = t ∨
    t' = { t with state := t'.state } ∧ ∃ i ∈ s.executions.rows, i.isInstance ∧
      t.instanceId = some i.id ∧ s.MayUpdateInstance u i.id i.definitionKey) s'.tasks

/-- What is looked up by the id of a row, if the row is there. -/
theorem Store.map_row_eq_ok {α β : Type} {t : Table α} {kind : RowKind} {id : String} {f : α → β}
    {b : β} : (row t kind id).map f = .ok b ↔ ∃ a, t.get? id = some a ∧ f a = b := by
  unfold row
  cases t.get? id <;> simp [Except.map]

namespace Suspension.Request

/-- The subject may update the process definitions, the job definitions and the process instances
that a request covers. -/
structure CoversWithin (r : Request) (u : Subject) (s : Store) : Prop where
  definitions : ∀ d ∈ s.definitions.rows, r.coversDefinition d →
    s.Holds u .update .processDefinition (some d.key)
  jobDefinitions : ∀ j ∈ s.jobDefinitions.rows, r.coversJobDefinition j →
    s.Holds u .update .processDefinition (some j.definitionKey)
  instances : ∀ i ∈ s.executions.rows, i.isInstance → r.picksInstance i →
    s.MayUpdateInstance u i.id i.definitionKey

/-! ## What is required covers the rows -/

section

variable {r : Request} {selector : RowSelector} {c : Context} {u : Subject} (hc : c.Binds u)
  {s : Store} (hs : s.Keyed) (hchosen : r.chosen? = some selector)
include hc hs hchosen

/-- **Definitions, with what is below them.** The permission is on the key that was named, or on the
key of the definition that was named; every covered row has this key. -/
theorem coversWithin_definition (ht : r.target = .processDefinition)
    (hrequired : r.require selector c s = .ok ()) : r.CoversWithin u s := by
  have hkind := kind_mem_order hchosen
  cases selector with
  | processDefinitionKey key =>
    simp only [require, ht, bind_eq_ok] at hrequired
    obtain ⟨_, hkey, _, hupdate, hinstances⟩ := hrequired
    obtain rfl := Except.ok.inj hkey
    rw [hc.requireUpdateDefinition] at hupdate
    refine ⟨fun d _ hd => ?_, fun j _ hj => ?_, fun i _ _ hi => ?_⟩
    · simp only [coversDefinition, ht, hchosen, decide_eq_true_eq] at hd
      exact hd ▸ hupdate
    · simp only [coversJobDefinition, ht, hchosen, decide_eq_true_eq] at hj
      exact hj ▸ hupdate
    · simp only [picksInstance, ht, hchosen, Bool.and_eq_true, decide_eq_true_eq] at hi
      rw [if_pos hi.1, hc.requireUpdateInstances] at hinstances
      exact .inr (hi.2 ▸ hinstances)
  | id v =>
    simp only [require, ht, bind_eq_ok, RowSelector.value] at hrequired
    obtain ⟨key, hkey, _, hupdate, hinstances⟩ := hrequired
    obtain ⟨d, hrow, rfl⟩ := Store.map_row_eq_ok.1 hkey
    rw [hc.requireUpdateDefinition] at hupdate
    refine ⟨fun d' hmem hd => ?_, fun j hmem hj => ?_, fun i hmem hinstance hi => ?_⟩
    · simp only [coversDefinition, ht, hchosen, decide_eq_true_eq] at hd
      obtain rfl := hs.definitions.eq_of_get? hmem hd hrow
      exact hupdate
    · simp only [coversJobDefinition, ht, hchosen, decide_eq_true_eq] at hj
      rw [hs.jobDefinitionKey j hmem d (hj ▸ hrow)]
      exact hupdate
    · simp only [picksInstance, ht, hchosen, Bool.and_eq_true, decide_eq_true_eq] at hi
      rw [if_pos hi.1, hc.requireUpdateInstances] at hinstances
      rw [hs.instanceKey i hmem hinstance d (hi.2 ▸ hrow)]
      exact .inr hinstances
  | _ => simp [ht, Target.order, RowSelector.kind] at hkind

/-- **Instances.** The permission is on the instance that was named, or on all instances of the
process that was named. -/
theorem coversWithin_instance (ht : r.target = .processInstance)
    (hrequired : r.require selector c s = .ok ()) : r.CoversWithin u s := by
  have hkind := kind_mem_order hchosen
  refine ⟨fun d _ hd => ?_, fun j _ hj => ?_, fun i hmem hinstance hi => ?_⟩
  · simp [coversDefinition, ht] at hd
  · simp [coversJobDefinition, ht] at hj
  · cases selector with
    | processDefinitionKey key =>
      simp only [require, ht, hc.requireUpdateInstances] at hrequired
      simp only [picksInstance, ht, hchosen, decide_eq_true_eq] at hi
      exact .inr (hi ▸ hrequired)
    | processDefinitionId v =>
      simp only [require, ht, Context.requireUpdateInstances, bind_eq_ok,
        hc.requireUpdateInstances, Store.row_eq_ok] at hrequired
      obtain ⟨d, hrow, hupdate⟩ := hrequired
      simp only [picksInstance, ht, hchosen, decide_eq_true_eq] at hi
      rw [hs.instanceKey i hmem hinstance d (hi ▸ hrow)]
      exact .inr hupdate
    | id v =>
      simp only [require, ht, Context.requireUpdateInstance, bind_eq_ok, hc.requireUpdateInstance,
        Store.row_eq_ok, RowSelector.value] at hrequired
      obtain ⟨e, hrow, hupdate⟩ := hrequired
      simp only [picksInstance, ht, hchosen, decide_eq_true_eq] at hi
      obtain rfl := hs.executions.eq_of_get? hmem hi hrow
      rwa [show i.id = i.instanceId from of_decide_eq_true hinstance]
    | _ => simp [ht, Target.order, RowSelector.kind] at hkind

/-- **Job definitions.** The permission is on the process definition of the job definition that was
named, or on the one that was named. -/
theorem coversWithin_jobDefinition (ht : r.target = .jobDefinition)
    (hrequired : r.require selector c s = .ok ()) : r.CoversWithin u s := by
  have hkind := kind_mem_order hchosen
  refine ⟨fun d _ hd => ?_, fun j hmem hj => ?_, fun i _ _ hi => ?_⟩
  · simp [coversDefinition, ht] at hd
  · cases selector with
    | processDefinitionKey key =>
      simp only [require, ht, hc.requireUpdateDefinition] at hrequired
      simp only [coversJobDefinition, ht, hchosen, decide_eq_true_eq] at hj
      exact hj ▸ hrequired
    | processDefinitionId v =>
      simp only [require, ht, Context.requireUpdateDefinition, bind_eq_ok,
        hc.requireUpdateDefinition, Store.row_eq_ok] at hrequired
      obtain ⟨d, hrow, hupdate⟩ := hrequired
      simp only [coversJobDefinition, ht, hchosen, decide_eq_true_eq] at hj
      rw [hs.jobDefinitionKey j hmem d (hj ▸ hrow)]
      exact hupdate
    | id v =>
      simp only [require, ht, bind_eq_ok, hc.requireUpdateDefinition, Store.row_eq_ok,
        RowSelector.value] at hrequired
      obtain ⟨j', hrow, hupdate⟩ := hrequired
      simp only [coversJobDefinition, ht, hchosen, decide_eq_true_eq] at hj
      obtain rfl := hs.jobDefinitions.eq_of_get? hmem hj hrow
      exact hupdate
    | _ => simp [ht, Target.order, RowSelector.kind] at hkind
  · simp [picksInstance, ht] at hi

end

/-- **A request that is admitted covers what the subject may update**, unless it is about jobs. -/
theorem coversWithin_of_admission {r : Request} {c : Context} {u : Subject} (hc : c.Binds u)
    {s : Store} (hs : s.Keyed) (hnow : r.date = none) (htarget : r.target ≠ .job)
    {before : Option SuspensionState} (h : r.admission c s = .ok before) : r.CoversWithin u s := by
  obtain ⟨selector, hselector, hrequired, -⟩ := admission_inv hnow h
  have hchosen : r.normalized.chosen? = some selector := by
    rw [chosen?_normalized, chosen?_of_selector hselector]
  have hcovers : r.normalized.CoversWithin u s := by
    cases ht : r.target with
    | processDefinition => exact coversWithin_definition hc hs hchosen (by simpa using ht) hrequired
    | processInstance => exact coversWithin_instance hc hs hchosen (by simpa using ht) hrequired
    | jobDefinition => exact coversWithin_jobDefinition hc hs hchosen (by simpa using ht) hrequired
    | job => exact absurd ht htarget
  exact ⟨by simpa using hcovers.definitions, by simpa using hcovers.jobDefinitions,
    by simpa using hcovers.instances⟩

/-! ## What changes -/

section

variable {r : Request} {u : Subject} {s : Store}

/-- **Carrying a request out changes rows that it covers**, and their states only. -/
theorem CoversWithin.changed (h : r.CoversWithin u s) : s.ChangedWithin u (r.carriedOut s) := by
  refine ⟨.map_of_mem fun d hd => ?_, .map_of_mem fun j hj => ?_, .map_of_mem fun e _ => ?_,
    .map_of_mem fun t _ => ?_⟩
  · split
    · exact .inr ⟨rfl, h.definitions d hd ‹_›⟩
    · exact .inl rfl
  · split
    · exact .inr ⟨rfl, h.jobDefinitions j hj ‹_›⟩
    · exact .inl rfl
  · split
    · rename_i hcovers
      obtain ⟨i, hi, hown, hpicks, hof⟩ := coversInstance_iff.1 hcovers
      have hinstance : i.isInstance := decide_eq_true hown
      exact .inr ⟨rfl, i, hi, hinstance, hof, h.instances i hi hinstance hpicks⟩
    · exact .inl rfl
  · split
    · rename_i hcovers
      obtain ⟨id, hof, hid⟩ := coversTask_iff.1 hcovers
      obtain ⟨i, hi, hown, hpicks, rfl⟩ := coversInstance_iff.1 hid
      have hinstance : i.isInstance := decide_eq_true hown
      exact .inr ⟨rfl, i, hi, hinstance, hof, h.instances i hi hinstance hpicks⟩
    · exact .inl rfl

end

/-- **A change of states touches only what the subject may update.** Where permissions are enforced,
a request about definitions, instances or job definitions that is to be carried out now and
succeeds, whatever selectors it has and whether or not it takes dependent resources along, covers no
process definition, job definition or process instance that the subject may not update; and of
these, of the executions and of the tasks none but covered ones have changed. Jobs are open to
everybody. -/
theorem suspension_within_authority (e : Engine) (henforced : e.settings.enforced = true)
    (u : Subject) (r : Request) (hnow : r.date = none) (htarget : r.target ≠ .job) (st st' : State)
    (reply : Reply) (hs : st.store.Keyed)
    (hask : e.ask (some u) (.setStates r) st = (.ok reply, st')) :
    r.CoversWithin u st.store ∧ st.store.ChangedWithin u st'.store := by
  rw [Engine.ask_setStates] at hask
  cases hadmission : r.admission (e.contextFor (some u)) st.store with
  | error reason =>
    rw [hadmission] at hask
    cases hask
  | ok before =>
    rw [hadmission] at hask
    cases hask
    have hcovers :=
      coversWithin_of_admission (Engine.binds_contextFor henforced u) hs hnow htarget hadmission
    have hchanged := hcovers.changed
    refine ⟨hcovers, ?_⟩
    unfold outcome effect
    rw [hnow]
    split
    · exact ⟨hchanged.definitions, hchanged.jobDefinitions, hchanged.executions, hchanged.tasks⟩
    · exact hchanged

/-- John may change orders and their instances. He suspends one version of orders with what depends
on it; the instance of another process, which he may not change, is left alone. -/
theorem orders_suspended_by_clerk :
    let order := ProcessDefinition.new "p" "order" 1
    let invoice := ProcessDefinition.new "q" "invoice" 1
    let grant : Grant :=
      ⟨"g", .give, some "john", none, .processDefinition, "order",
        .ofList [.update, .updateInstances]⟩
    let store := ((((((Store.putDefinition ∅ order).putDefinition invoice).putExecution
      (.instanceOf "i" order)).putExecution (.instanceOf "k" invoice)).putJobDefinition
        (.new "j" order.id "order" "pack" "async")).putGrant grant)
    let john : Subject := ⟨"john", []⟩
    let e := Engine.standard { enforced := true }
    let r : Request :=
      { Request.new .processDefinition .suspended with
        selectors := { resourceId := some order.id }, dependents := true }
    let final := (e.ask (some john) (.setStates r) ⟨store, 0⟩).2.store
    store.Keyed ∧ r.CoversWithin john store ∧ store.ChangedWithin john final ∧
    final.executions.rows.map (·.state) = [.suspended, .active] ∧
    final.jobDefinitions.rows.map (·.state) = [.suspended] ∧
    ¬ store.MayUpdateInstance john "k" "invoice" := by
  intro order invoice grant store john e r final
  have hkeyed : store.Keyed := by
    refine ⟨(Table.Filed.empty.insert order).insert invoice,
      (Table.Filed.empty.insert _).insert _, Table.Filed.empty.insert _, ?_, ?_⟩
    · decide +kernel
    · decide +kernel
  have hok : (e.ask (some john) (.setStates r) ⟨store, 0⟩).1.isOk := by decide +kernel
  rcases hask : e.ask (some john) (.setStates r) ⟨store, 0⟩ with ⟨reason | reply, st'⟩
  · rw [hask] at hok
    cases hok
  · have hwithin := suspension_within_authority e rfl john r rfl (by decide) ⟨store, 0⟩ st' reply
      hkeyed hask
    have hfinal : final = st'.store := congrArg (·.2.store) hask
    rw [← hfinal] at hwithin
    exact ⟨hkeyed, hwithin.1, hwithin.2, by decide +kernel, by decide +kernel, by decide +kernel⟩

end Suspension.Request

end Workflow
