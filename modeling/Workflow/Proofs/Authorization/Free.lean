import Workflow.Proofs.Authorization.Visibility

/-!
# Where nobody needs a permission

There are two ways past permissions: they are not enforced, or nobody asked for the work. In a
context that is *free* in one of these ways whatever is required is granted, by whatever grants, and
the guards of queries show every row.

* `Context.IsFree`: a context of either kind; `IsFree.bound?` says what the two have in common.
* `Authority.requireAny_of_free` and its siblings: what commands need.
* `Search.selectInstances_of_free` and its siblings: what queries show.
* `State.withGrants`, `State.withLog`: what free contexts need not look at, replaced.
-/

namespace Workflow

/-- The state with other grants. -/
def State.withGrants (st : State) (grants : Table Grant) : State :=
  { st with store := { st.store with grants := grants } }

/-- The state with another audit log. -/
def State.withLog (st : State) (log : List LogEntry) : State :=
  { st with store := { st.store with log := log } }

/-- Nobody needs a permission: permissions are not enforced, or nobody asked for the work. -/
def Context.IsFree (c : Context) : Prop := c.enforced = false ∨ c.subject = none

namespace Context.IsFree

variable {c : Context}

/-- There is nobody for whom permissions are enforced. -/
theorem bound? (h : c.IsFree) (s : Store) : (c.authority s).bound? = none := by
  rcases h with h | h <;> simp [Authority.bound?, authority, h]

theorem unauthenticated (c : Context) : c.unauthenticated.IsFree := .inr rfl

end Context.IsFree

namespace Authority

variable {a : Authority} (h : a.bound? = none)
include h

/-! ## What is required -/

theorem permits_of_free (permission : Permission) (resource : Resource)
    (resourceId : Option String) : a.permits permission resource resourceId = true := by
  rw [permits, permitsAny, h]

theorem requireAny_of_free (checks : List Check) : a.requireAny checks = .ok () := by
  rw [requireAny, h]

theorem require_of_free (permission : Permission) (resource : Resource)
    (resourceId : Option String) : a.require permission resource resourceId = .ok () :=
  requireAny_of_free h _

theorem requireStart_of_free (definitionKey : String) : a.requireStart definitionKey = .ok () :=
  bind_eq_ok.2 ⟨(), require_of_free h .., require_of_free h ..⟩

theorem requireUpdateInstance_of_free (instanceId definitionKey : String) :
    a.requireUpdateInstance instanceId definitionKey = .ok () := requireAny_of_free h _

theorem requireUpdateInstances_of_free (definitionKey : String) :
    a.requireUpdateInstances definitionKey = .ok () := require_of_free h ..

theorem requireUpdateDefinition_of_free (definitionKey : String) :
    a.requireUpdateDefinition definitionKey = .ok () := require_of_free h ..

theorem requireUpdateTask_of_free (t : Task) : a.requireUpdateTask t = .ok () :=
  requireTask_eq_ok.2 (.inl (permits_of_free h ..))

theorem requireMatch_of_free (target : Correlation.Match) : target.require a = .ok () := by
  cases target with
  | waiting execution subscription => exact requireUpdateInstance_of_free h ..
  | start definition activityId => exact requireStart_of_free h _

theorem requireAll_of_free (targets : List Correlation.Match) :
    Correlation.requireAll a targets = .ok () := by
  induction targets with
  | nil => rfl
  | cons target rest ih => exact bind_eq_ok.2 ⟨(), requireMatch_of_free h target, ih⟩

end Authority

/-! ## What is shown -/

namespace Search

variable {c : Context} (hc : c.IsFree) (s : Store)
include hc

theorem selectInstances_of_free (q : InstanceQuery) :
    s.selectInstances (q.guarded (c.authority s)) = s.executions.rows.filter q.accepts := by
  rw [selectInstances_guarded]
  simp [seesRow, Authority.permits_of_free (hc.bound? s)]

theorem selectJobs_of_free (q : JobQuery) :
    s.selectJobs (q.guarded (c.authority s)) = s.jobs.rows.filter q.accepts := by
  rw [selectJobs_guarded]
  simp [seesRow, Authority.permits_of_free (hc.bound? s)]

theorem selectTasks_of_free (q : TaskQuery) :
    s.selectTasks (q.guarded (c.authority s)) = s.tasks.rows.filter q.accepts := by
  rw [selectTasks_guarded]
  simp [showsTask, Authority.permits_of_free (hc.bound? s)]

theorem selectGrants_of_free (q : GrantQuery) :
    s.selectGrants (Administration.guarded (c.authority s) q) =
      s.grants.rows.filter q.accepts := by
  rw [selectGrants_guarded]
  simp [Authority.permits_of_free (hc.bound? s)]

end Search

end Workflow
