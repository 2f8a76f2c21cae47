import Workflow.Action
import Workflow.Proofs.Tables
import Workflow.Record.Suspension
import Workflow.Store.States

/-!
# Which rows a selector names

A resource shows a value for some kinds of selector, and a selector names the resources that show
its value for its kind. Giving a state to what a selector names counts the named resources and
changes nothing but their state; process instances pass their state on to all that belongs to them.

* `shows`, for each kind of resource: what its rows show. `Target.selects` says for which kinds of
  selector they show anything.
* `Store.countNamed`: how many resources a selector names.
* `Store.GivesState`: what a store is like after a state was given.
* `named_rows_get_state`: a selector of a kind for which nothing is shown is refused, provided that
  there is a row to look at. `unusable_selector_accepted_without_rows`: if there is none, it is not.
-/

namespace Workflow

open Suspension (Target SelectorKind RowSelector)

/-! ## What rows show -/

/-- What a process definition shows for a kind of selector. -/
def ProcessDefinition.shows (d : ProcessDefinition) : SelectorKind → Option String
  | .resourceId => some d.id
  | .processDefinitionKey => some d.key
  | .jobDefinitionId | .processInstanceId | .processDefinitionId => none

/-- What a process instance shows for a kind of selector. -/
def Execution.shows (e : Execution) : SelectorKind → Option String
  | .resourceId | .processInstanceId => some e.id
  | .processDefinitionId => some e.definitionId
  | .processDefinitionKey => some e.definitionKey
  | .jobDefinitionId => none

/-- What a job definition shows for a kind of selector. -/
def JobDefinition.shows (d : JobDefinition) : SelectorKind → Option String
  | .resourceId | .jobDefinitionId => some d.id
  | .processDefinitionId => some d.definitionId
  | .processDefinitionKey => some d.definitionKey
  | .processInstanceId => none

/-- What a job shows for a kind of selector. -/
def Job.shows (j : Job) : SelectorKind → Option String
  | .resourceId => some j.id
  | .jobDefinitionId => j.jobDefinitionId
  | .processInstanceId => j.instanceId
  | .processDefinitionId => j.definitionId
  | .processDefinitionKey => j.definitionKey

namespace Suspension

/-- Whether resources of a kind can be selected in a way. -/
def Target.selects : Target → SelectorKind → Bool
  | .processDefinition, kind => kind = .resourceId || kind = .processDefinitionKey
  | .processInstance, kind => kind ≠ .jobDefinitionId
  | .jobDefinition, kind => kind ≠ .processInstanceId
  | .job, _ => true

/-- A selector names what shows its value for its kind. -/
def RowSelector.Names (selector : RowSelector) (shows : SelectorKind → Option String) : Prop :=
  shows selector.kind = some selector.value

instance (selector : RowSelector) (shows : SelectorKind → Option String) :
    Decidable (selector.Names shows) :=
  inferInstanceAs (Decidable (shows selector.kind = some selector.value))

end Suspension

namespace Store

/-- A selector names the process instance of an id. -/
def NamesInstance (s : Store) (selector : RowSelector) (id : String) : Prop :=
  ∃ e ∈ s.executions.rows, e.isInstance ∧ selector.Names e.shows ∧ e.id = id

instance (s : Store) (selector : RowSelector) (id : String) :
    Decidable (s.NamesInstance selector id) :=
  inferInstanceAs (Decidable (∃ e ∈ s.executions.rows, e.isInstance ∧ selector.Names e.shows ∧
    e.id = id))

/-- How many resources of a kind a selector names. -/
def countNamed (s : Store) (selector : RowSelector) : Target → Nat
  | .processDefinition => s.definitions.rows.countP fun d => selector.Names d.shows
  | .processInstance => s.executions.rows.countP fun e => e.isInstance ∧ selector.Names e.shows
  | .jobDefinition => s.jobDefinitions.rows.countP fun d => selector.Names d.shows
  | .job => s.jobs.rows.countP fun j => selector.Names j.shows

/-- The store in which the named resources of a kind have a state; process instances pass it on to
all their executions and tasks. -/
def withState (s : Store) (target : Target) (selector : RowSelector) (state : SuspensionState) :
    Store :=
  { s with
    definitions := s.definitions.map fun d =>
      if target = .processDefinition ∧ selector.Names d.shows then { d with state := state } else d
    jobDefinitions := s.jobDefinitions.map fun d =>
      if target = .jobDefinition ∧ selector.Names d.shows then { d with state := state } else d
    jobs := s.jobs.map fun j =>
      if target = .job ∧ selector.Names j.shows then { j with state := state } else j
    executions := s.executions.map fun e =>
      if target = .processInstance ∧ s.NamesInstance selector e.instanceId then
        { e with state := state }
      else e
    tasks := s.tasks.map fun t =>
      if target = .processInstance ∧ ∃ id, t.instanceId = some id ∧ s.NamesInstance selector id then
        { t with state := state }
      else t }

/-- Whether there is a row to look at when a state is given. Of process instances and jobs none is
needed. -/
def hasRows (s : Store) : Target → Bool
  | .processDefinition => !s.definitions.rows.isEmpty
  | .jobDefinition => !s.jobDefinitions.rows.isEmpty
  | .processInstance | .job => true

end Store

/-! ## Selectors of each kind -/

namespace Suspension.RowSelector

variable (selector : RowSelector)

theorem picksDefinition?_eq_ite : selector.picksDefinition? =
    if Target.processDefinition.selects selector.kind then
      some fun d => decide (selector.Names d.shows)
    else none := by
  cases selector <;>
    simp [picksDefinition?, Target.selects, kind, Names, ProcessDefinition.shows, value]

theorem picksInstance?_eq_ite : selector.picksInstance? =
    if Target.processInstance.selects selector.kind then
      some fun e => decide (selector.Names e.shows)
    else none := by
  cases selector <;> simp [picksInstance?, Target.selects, kind, Names, Execution.shows, value]

theorem picksJobDefinition?_eq_ite : selector.picksJobDefinition? =
    if Target.jobDefinition.selects selector.kind then
      some fun d => decide (selector.Names d.shows)
    else none := by
  cases selector <;>
    simp [picksJobDefinition?, Target.selects, kind, Names, JobDefinition.shows, value]

theorem picksJob_eq_names : selector.picksJob = fun j => decide (selector.Names j.shows) := by
  funext j
  rw [Bool.eq_iff_iff, decide_eq_true_iff]
  cases selector <;> simp [picksJob, kind, Names, Job.shows, value]

end Suspension.RowSelector

/-! ## Giving a state -/

namespace Store

variable {s : Store} {selector : RowSelector} {state : SuspensionState}

theorem setDefinitionStates_eq : s.setDefinitionStates (fun d => selector.Names d.shows) state =
    s.withState .processDefinition selector state := by
  simp [setDefinitionStates, withState]

theorem setJobDefinitionStates_eq :
    s.setJobDefinitionStates (fun d => selector.Names d.shows) state =
      s.withState .jobDefinition selector state := by
  simp [setJobDefinitionStates, withState]

theorem setJobStates_eq : s.setJobStates (fun j => selector.Names j.shows) state =
    s.withState .job selector state := by
  simp [setJobStates, withState]

theorem mem_pickedInstances {id : String} :
    id ∈ s.pickedInstances (fun e => selector.Names e.shows) ↔ s.NamesInstance selector id := by
  simp [pickedInstances, NamesInstance, and_assoc]

theorem setInstanceStates_eq :
    s.setInstanceStates (s.pickedInstances fun e => selector.Names e.shows) state =
      s.withState .processInstance selector state := by
  simp [setInstanceStates, withState, Option.any_eq_true, mem_pickedInstances]

/-- What giving a state does, by the kind of selector and whether there is a row to look at. -/
theorem setState_eq (s : Store) (target : Target) (selector : RowSelector)
    (state : SuspensionState) :
    s.setState target selector state =
      if target.selects selector.kind then
        .ok (s.countNamed selector target, s.withState target selector state)
      else if s.hasRows target then .error (.invalid (.rowSelector target selector))
      else .ok (0, s) := by
  cases hselects : target.selects selector.kind with
  | true =>
    rw [if_pos rfl]
    cases target with
    | processDefinition =>
      simp only [setState, selector.picksDefinition?_eq_ite, hselects]
      simp [countNamed, setDefinitionStates_eq]
    | processInstance =>
      have hcount : s.countNamed selector .processInstance =
          (s.pickedInstances fun e => selector.Names e.shows).length := by
        simp [countNamed, pickedInstances, List.countP_eq_length_filter]
      simp only [setState, selector.picksInstance?_eq_ite, hselects]
      simp [hcount, setInstanceStates_eq]
    | jobDefinition =>
      simp only [setState, selector.picksJobDefinition?_eq_ite, hselects]
      simp [countNamed, setJobDefinitionStates_eq]
    | job => simp [setState, countNamed, selector.picksJob_eq_names, setJobStates_eq]
  | false =>
    rw [if_neg Bool.false_ne_true]
    cases target with
    | processDefinition =>
      simp only [setState, selector.picksDefinition?_eq_ite, hselects]
      cases hrows : s.definitions.rows.isEmpty <;> simp [hasRows, hrows]
    | processInstance =>
      simp only [setState, selector.picksInstance?_eq_ite, hselects]
      rfl
    | jobDefinition =>
      simp only [setState, selector.picksJobDefinition?_eq_ite, hselects]
      cases hrows : s.jobDefinitions.rows.isEmpty <;> simp [hasRows, hrows]
    | job => cases hselects

/-- **Named rows get their state.** Whatever is stored, a selector that resources of a kind can be
selected by is accepted: the named resources are counted, these rows have the new state, and nothing
else is different. Any other selector is refused and nothing is changed, except that where there is
no row to look at, it is taken to name nothing. -/
theorem named_rows_get_state (s : Store) (target : Target) (selector : RowSelector)
    (state : SuspensionState) (c : Context) (minted : Nat) :
    (Action.change (·.setState target selector state)).run c ⟨s, minted⟩ =
      if target.selects selector.kind then
        (.ok (s.countNamed selector target), ⟨s.withState target selector state, minted⟩)
      else if s.hasRows target then
        (.error (.invalid (.rowSelector target selector)), ⟨s, minted⟩)
      else (.ok 0, ⟨s, minted⟩) := by
  rw [Action.run_change, setState_eq]
  by_cases hselects : target.selects selector.kind
  · simp only [if_pos hselects]
  · by_cases hrows : s.hasRows target
    · simp only [if_neg hselects, if_pos hrows]
    · simp only [if_neg hselects, if_neg hrows]

/-- Process definitions cannot be selected by a job definition. This is refused if there is a
definition, and accepted if there is none. -/
theorem unusable_selector_accepted_without_rows :
    let selector := RowSelector.jobDefinitionId "d"
    let order := ProcessDefinition.new "p" "order" 1
    Target.processDefinition.selects selector.kind = false ∧
      ((∅ : Store).putDefinition order).setState .processDefinition selector .suspended =
        .error (.invalid (.rowSelector .processDefinition selector)) ∧
      (∅ : Store).setState .processDefinition selector .suspended = .ok (0, ∅) := by
  refine ⟨rfl, ?_, ?_⟩ <;> rfl

end Store

end Workflow
