import Workflow.Proofs.Tables
import Workflow.Suspension.Change

/-!
# What a request covers

A request is about the rows that its selector picks, about the rows that always change together with
these, and, if it takes dependent resources along, about the rows below them. What it covers follows
from its kind of resource, from the selector that counts and from ids and keys of the rows; the
states of the rows play no part.

* `Request.chosen?` is the selector that counts: of those that are given, the first in the order of
  its kind of resource.
* `Request.coversDefinition`, `coversJobDefinition`, `coversExecution`, `coversTask` and `coversJob`
  say which rows a request covers, column by column.
* `Request.carriedOut` is the store in which exactly the covered rows have the state asked for.
* `coversInstance_eq_contains` and `carriedOut_eq_set`: the ids that the store picks are those of
  the covered instances, and its changes one after the other make the store that is carried out.
* `carriedOut_cascade`: the dependent resources are those that the next request of the cascade
  covers.
-/

namespace Workflow.Suspension

namespace Request

/-! ## The selector that counts -/

/-- The selector that counts. An instance may also be named as process instance, a job definition
as job definition. -/
def chosen? (r : Request) : Option RowSelector :=
  let s := r.selectors
  let ofDefinition :=
    (s.processDefinitionId.map .processDefinitionId).or
      (s.processDefinitionKey.map .processDefinitionKey)
  match r.target with
  | .processDefinition =>
    (s.resourceId.map .id).or (s.processDefinitionKey.map .processDefinitionKey)
  | .processInstance => ((s.resourceId.or s.processInstanceId).map .id).or ofDefinition
  | .jobDefinition => ((s.resourceId.or s.jobDefinitionId).map .id).or ofDefinition
  | .job =>
    (s.resourceId.map .id).or ((s.jobDefinitionId.map .jobDefinitionId).or
      ((s.processInstanceId.map .processInstanceId).or ofDefinition))

/-! ## Covered rows -/

/-- Whether a request covers a process definition: one about definitions does, by id or key. -/
def coversDefinition (r : Request) (d : ProcessDefinition) : Bool :=
  match r.target, r.chosen? with
  | .processDefinition, some (.id v) => d.id = v
  | .processDefinition, some (.processDefinitionKey v) => d.key = v
  | _, _ => false

/-- Whether a request covers a job definition: one about job definitions does, and one about process
definitions covers the job definitions of these. -/
def coversJobDefinition (r : Request) (d : JobDefinition) : Bool :=
  match r.target, r.chosen? with
  | .processDefinition, some (.id v) => d.definitionId = v
  | .processDefinition, some (.processDefinitionKey v) => d.definitionKey = v
  | .jobDefinition, some (.id v) => d.id = v
  | .jobDefinition, some (.processDefinitionId v) => d.definitionId = v
  | .jobDefinition, some (.processDefinitionKey v) => d.definitionKey = v
  | _, _ => false

/-- Whether a request covers a process instance, given that an execution is one: one about
instances does, and one about process definitions if it takes dependent resources along. -/
def picksInstance (r : Request) (e : Execution) : Bool :=
  match r.target, r.chosen? with
  | .processDefinition, some (.id v) => r.dependents && e.definitionId = v
  | .processDefinition, some (.processDefinitionKey v) => r.dependents && e.definitionKey = v
  | .processInstance, some (.id v) => e.id = v
  | .processInstance, some (.processDefinitionId v) => e.definitionId = v
  | .processInstance, some (.processDefinitionKey v) => e.definitionKey = v
  | _, _ => false

/-- Whether an id is that of a process instance which a request covers: of an execution that is its
own instance and that the request picks. -/
def coversInstance (r : Request) (s : Store) (id : String) : Bool :=
  decide (∃ i ∈ s.executions.rows, i.id = i.instanceId ∧ r.picksInstance i ∧ i.id = id)

/-- Whether a request covers an execution: it covers all those of the instances that it covers. -/
def coversExecution (r : Request) (s : Store) (e : Execution) : Bool :=
  r.coversInstance s e.instanceId

/-- Whether a request covers a task: it covers all those of the instances that it covers. -/
def coversTask (r : Request) (s : Store) (t : Task) : Bool :=
  match t.instanceId with
  | some id => r.coversInstance s id
  | none => false

/-- Whether a request covers a job: one about jobs does, and one about anything else if it takes
dependent resources along. -/
def coversJob (r : Request) (j : Job) : Bool :=
  match r.target, r.chosen? with
  | .processDefinition, some (.id v) => r.dependents && j.definitionId = some v
  | .processDefinition, some (.processDefinitionKey v) =>
    r.dependents && j.definitionKey = some v
  | .processInstance, some (.id v) => r.dependents && j.instanceId = some v
  | .processInstance, some (.processDefinitionId v) => r.dependents && j.definitionId = some v
  | .processInstance, some (.processDefinitionKey v) => r.dependents && j.definitionKey = some v
  | .jobDefinition, some (.id v) => r.dependents && j.jobDefinitionId = some v
  | .jobDefinition, some (.processDefinitionId v) => r.dependents && j.definitionId = some v
  | .jobDefinition, some (.processDefinitionKey v) => r.dependents && j.definitionKey = some v
  | .job, some (.id v) => j.id = v
  | .job, some (.jobDefinitionId v) => j.jobDefinitionId = some v
  | .job, some (.processInstanceId v) => j.instanceId = some v
  | .job, some (.processDefinitionId v) => j.definitionId = some v
  | .job, some (.processDefinitionKey v) => j.definitionKey = some v
  | _, _ => false

/-- The store in which the covered rows have the state that is asked for. -/
def carriedOut (r : Request) (s : Store) : Store :=
  { s with
    definitions := s.definitions.map fun d =>
      if r.coversDefinition d then { d with state := r.state } else d
    jobDefinitions := s.jobDefinitions.map fun d =>
      if r.coversJobDefinition d then { d with state := r.state } else d
    executions := s.executions.map fun e =>
      if r.coversExecution s e then { e with state := r.state } else e
    tasks := s.tasks.map fun t => if r.coversTask s t then { t with state := r.state } else t
    jobs := s.jobs.map fun j => if r.coversJob j then { j with state := r.state } else j }

theorem coversInstance_iff {r : Request} {s : Store} {id : String} : r.coversInstance s id ↔
    ∃ i ∈ s.executions.rows, i.id = i.instanceId ∧ r.picksInstance i ∧ i.id = id :=
  decide_eq_true_iff

theorem coversTask_iff {r : Request} {s : Store} {t : Task} : r.coversTask s t ↔
    ∃ id, t.instanceId = some id ∧ r.coversInstance s id := by
  unfold coversTask
  cases t.instanceId <;> simp

section

variable (r : Request) (s : Store)

theorem carriedOut_definitions : (r.carriedOut s).definitions = s.definitions.map fun d =>
    { d with state := if r.coversDefinition d then r.state else d.state } := by
  simp only [carriedOut]
  refine Table.map_congr fun d _ => ?_
  split <;> rfl

theorem carriedOut_jobDefinitions : (r.carriedOut s).jobDefinitions = s.jobDefinitions.map fun d =>
    { d with state := if r.coversJobDefinition d then r.state else d.state } := by
  simp only [carriedOut]
  refine Table.map_congr fun d _ => ?_
  split <;> rfl

theorem carriedOut_executions : (r.carriedOut s).executions = s.executions.map fun e =>
    { e with state := if r.coversExecution s e then r.state else e.state } := by
  simp only [carriedOut]
  refine Table.map_congr fun e _ => ?_
  split <;> rfl

theorem carriedOut_tasks : (r.carriedOut s).tasks = s.tasks.map fun t =>
    { t with state := if r.coversTask s t then r.state else t.state } := by
  simp only [carriedOut]
  refine Table.map_congr fun t _ => ?_
  split <;> rfl

theorem carriedOut_jobs : (r.carriedOut s).jobs = s.jobs.map fun j =>
    { j with state := if r.coversJob j then r.state else j.state } := by
  simp only [carriedOut]
  refine Table.map_congr fun j _ => ?_
  split <;> rfl

end

/-! ## What the store picks -/

/-- The ids that the store lists as those of the instances to change. -/
def instanceIds (r : Request) (s : Store) : List String := s.pickedInstances r.picksInstance

/-- **The listed ids are those of the covered instances.** -/
theorem coversInstance_eq_contains (r : Request) (s : Store) (id : String) :
    r.coversInstance s id = (r.instanceIds s).contains id := by
  rw [Bool.eq_iff_iff, coversInstance_iff, List.contains_iff_mem]
  simp [instanceIds, Store.pickedInstances, Execution.isInstance, and_assoc]

theorem coversTask_eq_any (r : Request) (s : Store) (t : Task) :
    r.coversTask s t = t.instanceId.any (r.instanceIds s).contains := by
  unfold coversTask
  cases t.instanceId with
  | none => rfl
  | some id => exact r.coversInstance_eq_contains s id

/-- **The changes of the store give the covered rows their state**, one kind of row after the
other. -/
theorem carriedOut_eq_set (r : Request) (s : Store) : r.carriedOut s =
    (((s.setDefinitionStates r.coversDefinition r.state).setJobDefinitionStates
      r.coversJobDefinition r.state).setInstanceStates (r.instanceIds s) r.state).setJobStates
        r.coversJob r.state := by
  simp only [carriedOut, coversExecution, coversInstance_eq_contains, coversTask_eq_any]
  rfl

/-- The request for the resources themselves, without what depends on them. -/
def own (r : Request) : Request := { r with dependents := false }

/-! ## The selector that is looked for -/

theorem findSome?_of_selector {r : Request} {selector : RowSelector}
    (h : r.selector = .ok selector) :
    r.target.order.findSome? r.selectors.rowSelector? = some selector := by
  unfold Request.selector at h
  split at h
  · cases h
  · split at h
    · rename_i found hfound
      rw [hfound]
      exact congrArg some (Except.ok.inj h)
    · cases h

theorem selector_of_findSome? {r : Request} {selector : RowSelector}
    (hgiven : ∀ kind, (r.selectors.get kind).isSome → kind ∈ r.target.order)
    (h : r.target.order.findSome? r.selectors.rowSelector? = some selector) :
    r.selector = .ok selector := by
  have hnone : r.selectors.supplied.find? (fun kind => !r.target.order.contains kind) = none := by
    refine List.find?_eq_none.2 fun kind hkind => ?_
    have hmem := hgiven kind (List.mem_filter.1 hkind).2
    simp [hmem]
  simp only [Request.selector, hnone, h]

@[simp] theorem target_normalized (r : Request) : r.normalized.target = r.target := by
  unfold normalized
  split <;> rfl

@[simp] theorem state_normalized (r : Request) : r.normalized.state = r.state := by
  unfold normalized
  split <;> rfl

@[simp] theorem dependents_normalized (r : Request) : r.normalized.dependents = r.dependents := by
  unfold normalized
  split <;> rfl

@[simp] theorem date_normalized (r : Request) : r.normalized.date = r.date := by
  unfold normalized
  split <;> rfl

@[simp] theorem audited_normalized (r : Request) : r.normalized.audited = r.audited := by
  unfold normalized
  split <;> rfl

@[simp] theorem normalized_normalized (r : Request) : r.normalized.normalized = r.normalized := by
  obtain ⟨target, _, _, _, _, _⟩ := r
  cases target <;> simp [normalized]

theorem findSome?_order (r : Request) :
    r.normalized.target.order.findSome? r.normalized.selectors.rowSelector? = r.chosen? := by
  obtain ⟨target, _, ⟨own, jobDefinition, inst, definition, key⟩, _, _, _⟩ := r
  cases target <;> cases own <;> cases jobDefinition <;> cases inst <;> cases definition <;>
    cases key <;> rfl

/-- The selector that is found is the one that counts. -/
theorem chosen?_of_selector {r : Request} {selector : RowSelector}
    (h : r.normalized.selector = .ok selector) : r.chosen? = some selector := by
  rw [← findSome?_order]
  exact findSome?_of_selector h

/-- The selector that counts is one that the kind of resource is addressed by. -/
theorem kind_mem_order {r : Request} {selector : RowSelector} (h : r.chosen? = some selector) :
    selector.kind ∈ r.target.order := by
  rw [← findSome?_order, target_normalized] at h
  obtain ⟨kind, hkind, hfound⟩ := List.exists_of_findSome?_eq_some h
  obtain ⟨v, -, rfl⟩ := Option.map_eq_some_iff.1 hfound
  cases kind <;> exact hkind

end Request

/-! ## Dependent resources -/

/-- The selector of what depends on the resources of a selector: an id becomes the id of the owner,
everything else is passed on. -/
def RowSelector.below (target : Target) : RowSelector → RowSelector
  | id v =>
    match target with
    | .processDefinition => processDefinitionId v
    | .processInstance => processInstanceId v
    | .jobDefinition => jobDefinitionId v
    | .job => id v
  | other => other

namespace Request

/-- The request for dependent resources addresses them by the selector that counts. -/
theorem selector_cascade {r next : Request} {selector : RowSelector}
    (hsel : r.normalized.selector = .ok selector) (hnext : r.normalized.cascade? = some next) :
    next.normalized.selector = .ok (selector.below r.target) := by
  have hfound := findSome?_of_selector hsel
  obtain ⟨target, state, ⟨own, jobDefinition, inst, definition, key⟩, dependents, date, audited⟩ :=
    r
  cases dependents with
  | false => cases target <;> cases hnext
  | true =>
    refine selector_of_findSome? ?_ ?_
    · intro kind hkind
      cases target <;> cases hnext <;> cases kind <;>
        first
        | cases hkind
        | simp [normalized, new, Target.order]
    · cases target <;> cases hnext <;> cases own <;> cases jobDefinition <;> cases inst <;>
        cases definition <;> cases key <;> cases hfound <;> rfl

theorem chosen?_cascade {r next : Request} {selector : RowSelector}
    (hsel : r.normalized.selector = .ok selector) (hnext : r.normalized.cascade? = some next) :
    next.chosen? = some (selector.below r.target) :=
  chosen?_of_selector (selector_cascade hsel hnext)

/-- What the next request of a cascade is about. -/
theorem cascade?_inv {r next : Request} (h : r.cascade? = some next) :
    r.dependents = true ∧ next.state = r.state ∧ next.date = none ∧
      (r.target = .processDefinition ∧ next.target = .processInstance ∧ next.dependents = true ∨
        (r.target = .processInstance ∨ r.target = .jobDefinition) ∧ next.target = .job) := by
  unfold cascade? at h
  split at h
  · rename_i hdependents
    split at h <;> rename_i htarget <;> cases h
    · exact ⟨hdependents, rfl, rfl, .inl ⟨htarget, rfl, rfl⟩⟩
    · exact ⟨hdependents, rfl, rfl, .inr ⟨.inl htarget, rfl⟩⟩
    · exact ⟨hdependents, rfl, rfl, .inr ⟨.inr htarget, rfl⟩⟩
  · cases h

/-! ## What is not covered -/

section

variable {r : Request}

theorem coversDefinition_of_ne (h : r.target ≠ .processDefinition) :
    r.coversDefinition = fun _ => false := by
  funext d
  unfold coversDefinition
  split <;> simp_all

theorem coversJobDefinition_of_ne (h : r.target ≠ .processDefinition)
    (h' : r.target ≠ .jobDefinition) : r.coversJobDefinition = fun _ => false := by
  funext d
  unfold coversJobDefinition
  split <;> simp_all

theorem instanceIds_of_ne (h : r.target ≠ .processDefinition) (h' : r.target ≠ .processInstance)
    (s : Store) : r.instanceIds s = [] := by
  have hnone : r.picksInstance = fun _ => false := by
    funext e
    unfold picksInstance
    split <;> simp_all
  simp [instanceIds, Store.pickedInstances, hnone]

theorem instanceIds_own_definition (h : r.target = .processDefinition) (s : Store) :
    r.own.instanceIds s = [] := by
  have hnone : r.own.picksInstance = fun _ => false := by
    funext e
    unfold picksInstance
    split <;> simp_all [own]
  simp [instanceIds, Store.pickedInstances, hnone]

theorem instanceIds_own (h : r.target ≠ .processDefinition) (s : Store) :
    r.own.instanceIds s = r.instanceIds s := by
  have hpicks : r.own.picksInstance = r.picksInstance := by
    funext e
    have hchosen : r.own.chosen? = r.chosen? := rfl
    unfold picksInstance
    rw [hchosen]
    split <;> simp_all [own]
  rw [instanceIds, instanceIds, hpicks]

theorem coversJob_own (h : r.target ≠ .job) : r.own.coversJob = fun _ => false := by
  funext j
  unfold coversJob
  split <;> simp_all [own]

end

end Request

end Workflow.Suspension

namespace Workflow.Store

/-! ## Changes that change nothing -/

@[simp] theorem setDefinitionStates_none (s : Store) (state : SuspensionState) :
    s.setDefinitionStates (fun _ => false) state = s := by
  simp [setDefinitionStates, Table.map_eq_self]

@[simp] theorem setJobDefinitionStates_none (s : Store) (state : SuspensionState) :
    s.setJobDefinitionStates (fun _ => false) state = s := by
  simp [setJobDefinitionStates, Table.map_eq_self]

@[simp] theorem setInstanceStates_none (s : Store) (state : SuspensionState) :
    s.setInstanceStates [] state = s := by
  have hnone (t : Task) : t.instanceId.any ([] : List String).contains = false := by
    cases t.instanceId <;> rfl
  simp [setInstanceStates, Table.map_eq_self, hnone]

@[simp] theorem setJobStates_none (s : Store) (state : SuspensionState) :
    s.setJobStates (fun _ => false) state = s := by
  simp [setJobStates, Table.map_eq_self]

end Workflow.Store

namespace Workflow.Suspension.Request

/-! ## Each kind of resource -/

section

variable {r : Request}

theorem carriedOut_own_definition (h : r.target = .processDefinition) (s : Store) :
    r.own.carriedOut s = (s.setDefinitionStates r.coversDefinition r.state).setJobDefinitionStates
      r.coversJobDefinition r.state := by
  rw [carriedOut_eq_set, instanceIds_own_definition h, Store.setInstanceStates_none,
    coversJob_own (by simp [h]), Store.setJobStates_none]
  rfl

theorem carriedOut_own_instance (h : r.target = .processInstance) (s : Store) :
    r.own.carriedOut s = s.setInstanceStates (r.instanceIds s) r.state := by
  have hne : r.own.target ≠ .processDefinition := by simp [own, h]
  rw [carriedOut_eq_set, coversDefinition_of_ne hne, Store.setDefinitionStates_none,
    coversJobDefinition_of_ne hne (by simp [own, h]), Store.setJobDefinitionStates_none,
    instanceIds_own (by simp [h]), coversJob_own (by simp [h]), Store.setJobStates_none]
  rfl

theorem carriedOut_own_jobDefinition (h : r.target = .jobDefinition) (s : Store) :
    r.own.carriedOut s = s.setJobDefinitionStates r.coversJobDefinition r.state := by
  have hne : r.own.target ≠ .processDefinition := by simp [own, h]
  rw [carriedOut_eq_set, coversDefinition_of_ne hne, Store.setDefinitionStates_none,
    instanceIds_of_ne hne (by simp [own, h]), Store.setInstanceStates_none,
    coversJob_own (by simp [h]), Store.setJobStates_none]
  rfl

theorem carriedOut_job (h : r.target = .job) (s : Store) :
    r.carriedOut s = s.setJobStates r.coversJob r.state := by
  have hne : r.target ≠ .processDefinition := by simp [h]
  rw [carriedOut_eq_set, coversDefinition_of_ne hne, Store.setDefinitionStates_none,
    coversJobDefinition_of_ne hne (by simp [h]), Store.setJobDefinitionStates_none,
    instanceIds_of_ne hne (by simp [h]), Store.setInstanceStates_none]

end

/-! ## The cascade -/

theorem chosen?_normalized (r : Request) : r.normalized.chosen? = r.chosen? := by
  rw [← findSome?_order, ← findSome?_order, normalized_normalized]

@[simp] theorem coversDefinition_normalized (r : Request) :
    r.normalized.coversDefinition = r.coversDefinition := by
  funext d
  simp [coversDefinition, chosen?_normalized]

@[simp] theorem coversJobDefinition_normalized (r : Request) :
    r.normalized.coversJobDefinition = r.coversJobDefinition := by
  funext d
  simp [coversJobDefinition, chosen?_normalized]

@[simp] theorem picksInstance_normalized (r : Request) :
    r.normalized.picksInstance = r.picksInstance := by
  funext e
  simp [picksInstance, chosen?_normalized]

@[simp] theorem coversJob_normalized (r : Request) : r.normalized.coversJob = r.coversJob := by
  funext j
  simp [coversJob, chosen?_normalized]

@[simp] theorem carriedOut_normalized (r : Request) (s : Store) :
    r.normalized.carriedOut s = r.carriedOut s := by
  simp [carriedOut_eq_set, instanceIds]

/-- A request without a cascade covers only what it is about itself. -/
theorem carriedOut_own {r : Request} (h : r.normalized.cascade? = none) (s : Store) :
    r.own.carriedOut s = r.carriedOut s := by
  cases htarget : r.target with
  | job =>
    have hjob : r.own.coversJob = r.coversJob := by
      funext j
      have hchosen : r.own.chosen? = r.chosen? := rfl
      have hown : r.own.target = r.target := rfl
      simp only [coversJob, hchosen, hown, htarget]
      rcases r.chosen? with _ | selector
      · rfl
      · cases selector <;> rfl
    rw [carriedOut_eq_set, carriedOut_eq_set, instanceIds_own (by simp [htarget]), hjob]
    rfl
  | _ =>
    have hdependents : r.dependents = false := by
      simpa [cascade?, htarget] using h
    rw [own, ← hdependents]

/-- **The cascade covers the dependent resources.** Carrying a request out for the resources
themselves and then carrying out the next request of the cascade is carrying the request out. -/
theorem carriedOut_cascade {r next : Request} {selector : RowSelector}
    (hsel : r.normalized.selector = .ok selector) (hnext : r.normalized.cascade? = some next)
    (s : Store) : next.carriedOut (r.own.carriedOut s) = r.carriedOut s := by
  have hchosen := chosen?_of_selector hsel
  have hbelow := chosen?_cascade hsel hnext
  obtain ⟨hdependents, hstate, -, hcase⟩ := cascade?_inv hnext
  rw [state_normalized] at hstate
  rw [dependents_normalized] at hdependents
  rw [target_normalized] at hcase
  have hjob : next.coversJob = r.coversJob := by
    funext j
    have hkind := kind_mem_order hchosen
    rcases hcase with ⟨htarget, htarget', hall⟩ | ⟨htarget | htarget, htarget'⟩ <;>
      cases selector <;>
      simp_all [coversJob, RowSelector.below, Target.order, RowSelector.kind]
  have hinstance : r.target = .processDefinition → next.picksInstance = r.picksInstance := by
    intro htarget
    funext e
    have hkind := kind_mem_order hchosen
    cases selector <;>
      simp_all [picksInstance, RowSelector.below, Target.order, RowSelector.kind]
  have hlower : next.target ≠ .processDefinition ∧ next.target ≠ .jobDefinition := by
    rcases hcase with ⟨-, htarget, -⟩ | ⟨-, htarget⟩ <;> simp [htarget]
  rcases hcase with ⟨htarget, -⟩ | ⟨htarget | htarget, htarget'⟩
  · rw [carriedOut_own_definition htarget, next.carriedOut_eq_set, r.carriedOut_eq_set,
      coversDefinition_of_ne hlower.1, Store.setDefinitionStates_none,
      coversJobDefinition_of_ne hlower.1 hlower.2, Store.setJobDefinitionStates_none, instanceIds,
      hinstance htarget, hjob, hstate]
    rfl
  · rw [carriedOut_own_instance htarget, carriedOut_job htarget', hjob, hstate, carriedOut_eq_set,
      coversDefinition_of_ne (by simp [htarget]), Store.setDefinitionStates_none,
      coversJobDefinition_of_ne (by simp [htarget]) (by simp [htarget]),
      Store.setJobDefinitionStates_none]
  · rw [carriedOut_own_jobDefinition htarget, carriedOut_job htarget', hjob, hstate,
      carriedOut_eq_set, coversDefinition_of_ne (by simp [htarget]), Store.setDefinitionStates_none,
      instanceIds_of_ne (by simp [htarget]) (by simp [htarget]), Store.setInstanceStates_none]

end Workflow.Suspension.Request
