import Workflow.Authorization.ById
import Workflow.Proofs.Authorization.Rule
import Workflow.Proofs.Runs
import Workflow.Proofs.Tables

/-!
# What searches show

Whether a subject may see something is decided in two ways. A requirement makes its checks for one
resource and fails if none of them is satisfied. A search binds its checks to every row in turn,
takes the resource ids from columns of the row, and leaves out the rows for which none is satisfied.

* `requireAny_eq_ok`, `requireInstance_eq_ok`, `requireTask_eq_ok`: requirements in terms of
  `Authority.permits`.
* `shows_guardBy`, `shows_guardOr`: guards of searches in the same terms.
* `InstanceQuery.Matches`, `JobQuery.Matches` and `GrantQuery.Matches`: which rows meet the criteria
  of a query, column by column.
* `Search.Answers`: what holds of the answers to all queries of one kind, whatever they ask for and
  whatever guard they come with.
* `searches_show_what_is_allowed`: for instances, jobs and grants the two ways agree.
* `task_search_shows_more`: for tasks the search shows all that may be seen, and some tasks more.
-/

namespace Workflow

/-! ## Requirements -/

/-- A decision does not depend on the column, and an answer that a check does not have is no. -/
theorem Check.isSatisfied_congr {c d : Check} (hpermission : c.permission = d.permission)
    (hresource : c.resource = d.resource) (hid : c.resourceId = d.resourceId)
    (hunmatched : c.unmatched.getD false = d.unmatched.getD false) (grants : List Grant)
    (s : Subject) : c.isSatisfied grants s = d.isSatisfied grants s := by
  obtain ⟨permission, resource, id, column, unmatched⟩ := c
  obtain ⟨_, _, _, column', unmatched'⟩ := d
  dsimp only at hpermission hresource hid hunmatched
  subst hpermission hresource hid
  simp only [isSatisfied, hunmatched]
  rfl

namespace Authority

variable {a : Authority}

/-- Alternatives are tried one after the other. -/
theorem permitsAny_cons (c : Check) (rest : List Check) :
    a.permitsAny (c :: rest) = (a.permitsAny [c] || a.permitsAny rest) := by
  unfold permitsAny
  cases a.bound? with
  | none => rfl
  | some s => simp [satisfiesAny]

/-- A single check that does not answer yes by itself asks for a permission. -/
theorem permitsAny_singleton {c : Check} (h : c.unmatched.getD false = false) :
    a.permitsAny [c] = a.permits c.permission c.resource c.resourceId := by
  unfold permits permitsAny
  cases a.bound? with
  | none => rfl
  | some s =>
    have hsame := Check.isSatisfied_congr (c := c) (d := .new c.permission c.resource c.resourceId)
      rfl rfl rfl h a.grants s
    simp only [satisfiesAny, List.any_cons, hsame]

theorem requireAny_eq_ok {checks : List Check} (hne : checks ≠ []) :
    a.requireAny checks = .ok () ↔ a.permitsAny checks = true := by
  obtain ⟨c, hlast⟩ : ∃ c, checks.getLast? = some c := ⟨_, List.getLast?_eq_some_getLast hne⟩
  rw [requireAny]
  cases hbound : a.bound? with
  | none => simp [permitsAny, hbound]
  | some s => cases a.permitsAny checks <;> simp [hlast]

theorem require_eq_ok {permission : Permission} {resource : Resource} {id : Option String} :
    a.require permission resource id = .ok () ↔ a.permits permission resource id = true :=
  requireAny_eq_ok (by simp)

/-- A permission on the instance or one on its process. -/
theorem requireInstance_eq_ok {onInstance onDefinition : Permission}
    {instanceId definitionKey : String} :
    a.requireInstance onInstance onDefinition instanceId definitionKey = .ok () ↔
      a.permits onInstance .processInstance (some instanceId) = true ∨
        a.permits onDefinition .processDefinition (some definitionKey) = true := by
  rw [requireInstance, requireAny_eq_ok (by simp), permitsAny_cons, Bool.or_eq_true,
    permitsAny_singleton rfl, permitsAny_singleton rfl]
  rfl

/-- A permission on the task, or, if the task has a process, one on its process; a task of a case
needs none. -/
theorem requireTask_eq_ok {onTask onDefinition : Permission} {t : Task} :
    a.requireTask onTask onDefinition t = .ok () ↔
      a.permits onTask .task (some t.id) = true ∨
        (t.executionId.isSome ∧ t.definitionKey.isSome ∧
          a.permits onDefinition .processDefinition t.definitionKey = true) ∨
        (t.executionId = none ∧ t.caseExecutionId.isSome) := by
  unfold requireTask
  cases hexecution : t.executionId with
  | none =>
    cases hcase : t.caseExecutionId with
    | none => simp [require_eq_ok]
    | some id => simp
  | some id =>
    cases hkey : t.definitionKey with
    | none =>
      simp only [Option.isSome_some, if_true]
      rw [requireAny_eq_ok (by simp), permitsAny_singleton rfl]
      simp [Check.new]
    | some key =>
      simp only [Option.isSome_some, if_true]
      rw [requireAny_eq_ok (by simp), permitsAny_cons, Bool.or_eq_true, permitsAny_singleton rfl,
        permitsAny_singleton rfl]
      simp [Check.new]

/-! ## Guards -/

/-- A guard for the subject asks its checks of the row. -/
theorem shows_bound {s : Subject} (h : a.bound? = some s) (checks : List Check) (row : Columns) :
    Guard.shows ⟨true, some s.user, s.groups, checks⟩ a.grants row =
      a.permitsAny (checks.map (·.bindTo row)) := by
  simp only [Guard.shows, if_true, permitsAny, h]

@[simp] theorem permitsAny_ofColumn (permission : Permission) (resource : Resource)
    (column : String) (row : Columns) :
    a.permitsAny [(Check.ofColumn permission resource column).bindTo row] =
      a.permits permission resource (row column) := permitsAny_singleton rfl

theorem shows_guardBy (permission : Permission) (resource : Resource) (column : String)
    (row : Columns) :
    (a.guardBy permission resource column).shows a.grants row =
      a.permits permission resource (row column) := by
  unfold guardBy
  cases hbound : a.bound? with
  | none => simp [Guard.shows, permits, permitsAny, hbound]
  | some s => simp only [shows_bound hbound, List.map_cons, List.map_nil, permitsAny_ofColumn]

theorem shows_guardOr (resource : Resource) (column : String) (onDefinition : Permission)
    (row : Columns) :
    (a.guardOr resource column onDefinition).shows a.grants row =
      (a.permits .read resource (row column) ||
        a.permits onDefinition .processDefinition (row Column.definitionKey)) := by
  unfold guardOr alsoGuard guardBy
  cases hbound : a.bound? with
  | none => simp [Guard.shows, permits, permitsAny, hbound]
  | some s =>
    simp only [shows_bound hbound, List.cons_append, List.nil_append, List.map_cons, List.map_nil]
    rw [permitsAny_cons, permitsAny_ofColumn, permitsAny_ofColumn]

end Authority

/-! ## Rows that meet the criteria -/

/-- The execution is a process instance that has what is asked for. -/
structure InstanceQuery.Matches (q : InstanceQuery) (e : Execution) : Prop where
  isInstance : e.id = e.instanceId
  id : ∀ id ∈ q.id, e.id = id
  businessKey : ∀ key ∈ q.businessKey, e.businessKey = some key
  definitionId : ∀ id ∈ q.definitionId, e.definitionId = id
  definitionKey : ∀ key ∈ q.definitionKey, e.definitionKey = key
  state : ∀ state ∈ q.state, e.state = state

theorem InstanceQuery.accepts_iff {q : InstanceQuery} {e : Execution} :
    q.accepts e = true ↔ q.Matches e := by
  simp only [accepts, Bool.and_eq_true, meets_iff, meetsSome_iff, Execution.isInstance,
    decide_eq_true_eq]
  constructor
  · rintro ⟨⟨⟨⟨⟨hinstance, hid⟩, hbusiness⟩, hdefinition⟩, hkey⟩, hstate⟩
    exact ⟨hinstance, hid, hbusiness, hdefinition, hkey, hstate⟩
  · rintro ⟨hinstance, hid, hbusiness, hdefinition, hkey, hstate⟩
    exact ⟨⟨⟨⟨⟨hinstance, hid⟩, hbusiness⟩, hdefinition⟩, hkey⟩, hstate⟩

instance (q : InstanceQuery) (e : Execution) : Decidable (q.Matches e) :=
  decidable_of_iff _ InstanceQuery.accepts_iff

/-- The job has what is asked for. -/
structure JobQuery.Matches (q : JobQuery) (j : Job) : Prop where
  id : ∀ id ∈ q.id, j.id = id
  jobDefinitionId : ∀ id ∈ q.jobDefinitionId, j.jobDefinitionId = some id
  instanceId : ∀ id ∈ q.instanceId, j.instanceId = some id
  definitionId : ∀ id ∈ q.definitionId, j.definitionId = some id
  definitionKey : ∀ key ∈ q.definitionKey, j.definitionKey = some key
  state : ∀ state ∈ q.state, j.state = state

theorem JobQuery.accepts_iff {q : JobQuery} {j : Job} : q.accepts j = true ↔ q.Matches j := by
  simp only [accepts, Bool.and_eq_true, meets_iff, meetsSome_iff]
  constructor
  · rintro ⟨⟨⟨⟨⟨hid, hjobDefinition⟩, hinstance⟩, hdefinition⟩, hkey⟩, hstate⟩
    exact ⟨hid, hjobDefinition, hinstance, hdefinition, hkey, hstate⟩
  · rintro ⟨hid, hjobDefinition, hinstance, hdefinition, hkey, hstate⟩
    exact ⟨⟨⟨⟨⟨hid, hjobDefinition⟩, hinstance⟩, hdefinition⟩, hkey⟩, hstate⟩

instance (q : JobQuery) (j : Job) : Decidable (q.Matches j) :=
  decidable_of_iff _ JobQuery.accepts_iff

/-- The grant has what is asked for: it is about one of the users and one of the groups, if there are
any, and about the resource or, if that is to count, about all resources. -/
structure GrantQuery.Matches (q : GrantQuery) (g : Grant) : Prop where
  id : ∀ id ∈ q.id, g.id = id
  users : q.users = [] ∨ ∃ user ∈ q.users, g.user = some user
  groups : q.groups = [] ∨ ∃ group ∈ q.groups, g.group = some group
  resource : ∀ resource ∈ q.resource, g.resource = resource
  resourceId : (∀ id ∈ q.resourceId, g.resourceId = id) ∨ q.includeAny ∧ g.resourceId = anyId
  permission : ∀ p ∈ q.permission, g.HasBits p

theorem GrantQuery.accepts_iff {q : GrantQuery} {g : Grant} : q.accepts g = true ↔ q.Matches g := by
  have hone {names : List String} {name : Option String} :
      (names.isEmpty || name.any names.contains) = true ↔
        names = [] ∨ ∃ n ∈ names, name = some n := by
    cases name <;> simp
  have hcarries : q.permission.all g.carries = true ↔ ∀ p ∈ q.permission, g.HasBits p := by
    cases q.permission <;> simp [Grant.carries_iff]
  simp only [accepts, Bool.and_eq_true, Bool.or_eq_true (meets _ _), meets_iff, hone, hcarries,
    Grant.isAny, decide_eq_true_eq]
  constructor
  · rintro ⟨⟨⟨⟨⟨hid, husers⟩, hgroups⟩, hresource⟩, hresourceId⟩, hpermission⟩
    exact ⟨hid, husers, hgroups, hresource, hresourceId, hpermission⟩
  · rintro ⟨hid, husers, hgroups, hresource, hresourceId, hpermission⟩
    exact ⟨⟨⟨⟨⟨hid, husers⟩, hgroups⟩, hresource⟩, hresourceId⟩, hpermission⟩

instance (q : GrantQuery) (g : Grant) : Decidable (q.Matches g) :=
  decidable_of_iff _ GrantQuery.accepts_iff

/-! ## Answers -/

@[simp] theorem InstanceQuery.accepts_blank (e : Execution) :
    InstanceQuery.accepts {} e = e.isInstance := by
  simp [accepts, meets, meetsSome]

theorem InstanceQuery.isInstance_of_accepts {q : InstanceQuery} {e : Execution}
    (h : q.accepts e = true) : e.isInstance = true :=
  decide_eq_true (accepts_iff.1 h).isInstance

@[simp] theorem JobQuery.accepts_blank (j : Job) : JobQuery.accepts {} j = true := by
  simp [accepts, meets, meetsSome]

@[simp] theorem GrantQuery.accepts_blank (g : Grant) : GrantQuery.accepts {} g = true := by
  simp [accepts, meets]

@[simp] theorem TaskQuery.accepts_blank (t : Task) : TaskQuery.accepts {} t = true := by
  simp [accepts, meets, meetsSome]

namespace Search

section

variable {Q α : Type} {blank : Q} {withGuard : Q → Guard → Q} {Matches : Q → α → Prop}
  [∀ q v, Decidable (Matches q v)] {id : α → String} {answer : Q → List α}

/-- What holds of the answers to all queries of one kind. Its rows have ids, `Matches` says whether
a row meets a query, `blank` is the query without criteria, and `withGuard` is a query that comes
with another guard. -/
structure Answers (blank : Q) (withGuard : Q → Guard → Q) (Matches : Q → α → Prop)
    [∀ q v, Decidable (Matches q v)] (id : α → String) (answer : Q → List α) : Prop where
  /-- Criteria leave of what is shown without them what meets them. -/
  restricted : ∀ q, answer q = (answer blank).filter fun v => Matches q v
  /-- Rows are shown in ascending order of id, each once. -/
  ascending : ∀ q, ((answer q).map id).Pairwise (· < ·)
  /-- The guard that a query comes with does not matter. -/
  unforgeable : ∀ q g, answer (withGuard q g) = answer q

/-- Answers are of this kind if they are the rows of a table that meet the query and are seen. -/
theorem Answers.of_rows {t : Table α} {accepts : Q → α → Bool} {seen : α → Bool}
    (ht : t.Filed id) (hanswer : ∀ q, answer q = t.rows.filter fun v => accepts q v && seen v)
    (hmatches : ∀ {q v}, accepts q v = true ↔ Matches q v)
    (hblank : ∀ q v, accepts q v = true → accepts blank v = true)
    (hguard : ∀ q g v, accepts (withGuard q g) v = accepts q v) :
    Answers blank withGuard Matches id answer where
  restricted q := by
    rw [hanswer, hanswer, List.filter_filter]
    refine List.filter_congr fun v _ => ?_
    have hsame : accepts q v = decide (Matches q v) := by
      rw [Bool.eq_iff_iff, hmatches, decide_eq_true_iff]
    rw [hsame]
    by_cases hmatch : Matches q v
    · simp [hmatch, hblank q v (hmatches.2 hmatch)]
    · simp [hmatch]
  ascending q := by
    rw [hanswer]
    exact ht.ascending_ids.sublist (List.filter_sublist.map id)
  unforgeable q g := by
    rw [hanswer, hanswer]
    simp only [hguard]

end

/-- What a subject is shown of the instances, the jobs and the grants of a store, whatever the
queries, is what the subject may see. -/
structure ShowsWhatIsAllowed (e : Engine) (subject : Option Subject) (st : State)
    (instances : InstanceQuery → List Execution) (jobs : JobQuery → List Job)
    (grants : GrantQuery → List Grant) : Prop where
  /-- A search for instances succeeds and changes nothing. -/
  ask_instances : ∀ q, e.ask subject (.instances q) st = (.ok (.instances (instances q)), st)
  /-- A search for jobs succeeds and changes nothing. -/
  ask_jobs : ∀ q, e.ask subject (.jobs q) st = (.ok (.jobs (jobs q)), st)
  /-- A search for grants succeeds and changes nothing. -/
  ask_grants : ∀ q, e.ask subject (.grants q) st = (.ok (.grants (grants q)), st)
  instances_answers : Answers {} (fun q g => { q with guard := g }) InstanceQuery.Matches (·.id)
    instances
  jobs_answers : Answers {} (fun q g => { q with guard := g }) JobQuery.Matches (·.id) jobs
  grants_answers : Answers {} (fun q g => { q with guard := g }) GrantQuery.Matches (·.id) grants
  /-- Of the process instances those are shown that the subject is permitted to see. -/
  mem_instances : ∀ i ∈ st.store.executions.rows, i.isInstance →
    (i ∈ instances {} ↔ (e.contextFor subject).requireReadInstance st.store i.id = .ok ())
  /-- Nothing else is shown as a process instance. -/
  instances_stored : ∀ i ∈ instances {}, i ∈ st.store.executions.rows ∧ i.isInstance
  /-- A job of a process instance is shown if the instance is. -/
  mem_jobs : ∀ j ∈ st.store.jobs.rows, ∀ i ∈ st.store.executions.rows, i.isInstance →
    j.instanceId = some i.id → j.definitionKey = some i.definitionKey →
    (j ∈ jobs {} ↔ i ∈ instances {})
  /-- Of the grants those are shown that the subject is permitted to see. -/
  mem_grants : ∀ g, g ∈ grants {} ↔ g ∈ st.store.grants.rows ∧
    ((e.contextFor subject).authority st.store).permits .read .authorization (some g.id) = true

/-! ## Instances, jobs and grants -/

/-- Whether a row that belongs to an instance of a process may be seen. -/
def seesRow (a : Authority) (instanceId definitionKey : Option String) : Bool :=
  a.permits .read .processInstance instanceId ||
    a.permits .readInstances .processDefinition definitionKey

section

variable {c : Context} {s : Store}

theorem selectInstances_guarded (q : InstanceQuery) :
    s.selectInstances (q.guarded (c.authority s)) = s.executions.rows.filter fun i =>
      q.accepts i && seesRow (c.authority s) (some i.id) (some i.definitionKey) := by
  refine List.filter_congr fun i _ => ?_
  congr 1
  exact Authority.shows_guardOr _ _ _ i.columns

theorem selectJobs_guarded (q : JobQuery) :
    s.selectJobs (q.guarded (c.authority s)) = s.jobs.rows.filter fun j =>
      q.accepts j && seesRow (c.authority s) j.instanceId j.definitionKey := by
  refine List.filter_congr fun j _ => ?_
  congr 1
  exact Authority.shows_guardOr _ _ _ j.columns

theorem selectGrants_guarded (q : GrantQuery) :
    s.selectGrants (Administration.guarded (c.authority s) q) = s.grants.rows.filter fun g =>
      q.accepts g && (c.authority s).permits .read .authorization (some g.id) := by
  refine List.filter_congr fun g _ => ?_
  congr 1
  exact Authority.shows_guardBy _ _ _ g.columns

/-- What is required to see a stored instance. -/
theorem requireReadInstance_eq_ok (hs : s.executions.Filed (·.id)) {i : Execution}
    (hi : i ∈ s.executions.rows) (hinstance : i.isInstance) :
    c.requireReadInstance s i.id = .ok () ↔
      seesRow (c.authority s) (some i.id) (some i.definitionKey) = true := by
  have hrow : Store.row s.executions .processInstance i.id = .ok i :=
    Store.row_eq_ok.2 (hs.get?_of_mem hi)
  have hown : i.id = i.instanceId := of_decide_eq_true hinstance
  rw [Context.requireReadInstance, hrow, seesRow, Bool.or_eq_true,
    ← Authority.requireInstance_eq_ok, hown]
  rfl

/-- **Searches show what is allowed.** Of the process instances that are stored a search shows those
that the subject is permitted to see, of the jobs of an instance all or none with it, and of the
grants those that the subject is permitted to see. Criteria leave of these the rows that meet them,
in the order of their ids, and the guard that comes with a query does not matter. -/
theorem searches_show_what_is_allowed (e : Engine) (subject : Option Subject) (st : State)
    (hexecutions : st.store.executions.Filed (·.id)) (hjobs : st.store.jobs.Filed (·.id))
    (hgrants : st.store.grants.Filed (·.id)) :
    ∃ instances jobs grants, ShowsWhatIsAllowed e subject st instances jobs grants := by
  let a := (e.contextFor subject).authority st.store
  refine ⟨fun q => st.store.selectInstances (q.guarded a),
    fun q => st.store.selectJobs (q.guarded a),
    fun q => st.store.selectGrants (Administration.guarded a q), ?_⟩
  constructor
  case ask_instances | ask_jobs | ask_grants => exact fun _ => rfl
  case instances_answers =>
    exact .of_rows hexecutions selectInstances_guarded InstanceQuery.accepts_iff
      (fun q i h => by simpa using InstanceQuery.isInstance_of_accepts h) fun _ _ _ => rfl
  case jobs_answers =>
    exact .of_rows hjobs selectJobs_guarded JobQuery.accepts_iff (by simp) fun _ _ _ => rfl
  case grants_answers =>
    exact .of_rows hgrants selectGrants_guarded GrantQuery.accepts_iff (by simp) fun _ _ _ => rfl
  case mem_instances =>
    intro i hi hinstance
    rw [requireReadInstance_eq_ok hexecutions hi hinstance, selectInstances_guarded]
    simp [hi, hinstance]
  case instances_stored =>
    intro i hi
    rw [selectInstances_guarded] at hi
    obtain ⟨hstored, hshown⟩ := List.mem_filter.1 hi
    exact ⟨hstored, InstanceQuery.isInstance_of_accepts (Bool.and_eq_true_iff.1 hshown).1⟩
  case mem_jobs =>
    intro j hj i hi hinstance hid hkey
    rw [selectInstances_guarded, selectJobs_guarded]
    simp [hj, hi, hinstance, hid, hkey]
  case mem_grants =>
    intro g
    rw [selectGrants_guarded]
    simp

/-- John may see the instance of an order, and nothing is said about the instance of a return. He is
shown the order and its job, whatever guard his query comes with, also if he asks for the business
key and for jobs of the order that are active; asking for the return he is shown nothing, and the
grant is not shown. -/
theorem order_shown_with_its_job :
    let order := { Execution.instanceOf "i" (ProcessDefinition.new "p" "order" 1) with
      businessKey := some "42" }
    let refund := Execution.instanceOf "k" (ProcessDefinition.new "q" "return" 1)
    let job : Job := ⟨"j", none, none, some "i", none, some "order", none, 3, .active⟩
    let grant : Grant :=
      ⟨"g", .give, some "john", none, .processInstance, "i", .singleton .read⟩
    let store := ((((∅ : Store).putExecution order).putExecution refund).putJob job).putGrant grant
    let forged : Guard := ⟨false, none, [], []⟩
    store.executions.Filed (·.id) ∧ store.jobs.Filed (·.id) ∧ store.grants.Filed (·.id) ∧
    ∃ instances jobs grants,
      ShowsWhatIsAllowed (.standard { enforced := true }) (some ⟨"john", []⟩) ⟨store, 0⟩
        instances jobs grants ∧
      instances { guard := forged } = [order] ∧
      instances { businessKey := some "42", guard := forged } = [order] ∧
      instances { definitionKey := some "return", guard := forged } = [] ∧
      jobs { guard := forged } = [job] ∧
      jobs { instanceId := some "i", state := some .active } = [job] ∧
      jobs { state := some .suspended } = [] ∧
      grants {} = [] := by
  intro order refund job grant store forged
  have hexecutions : store.executions.Filed (·.id) :=
    (Table.Filed.empty.insert order).insert refund
  have hjobs : store.jobs.Filed (·.id) := Table.Filed.empty.insert job
  have hgrants : store.grants.Filed (·.id) := Table.Filed.empty.insert grant
  obtain ⟨instances, jobs, grants, hshows⟩ := searches_show_what_is_allowed
    (.standard { enforced := true }) (some ⟨"john", []⟩) ⟨store, 0⟩ hexecutions hjobs hgrants
  have hinstance : instances { guard := forged } = [order] := by
    have hanswer := Except.ok.inj (congrArg Prod.fst (hshows.ask_instances { guard := forged }))
    rw [← Reply.instances.inj hanswer]
    decide +kernel
  have hjob : jobs { guard := forged } = [job] := by
    have hanswer := Except.ok.inj (congrArg Prod.fst (hshows.ask_jobs { guard := forged }))
    rw [← Reply.jobs.inj hanswer]
    decide +kernel
  have hgrant : grants {} = [] := by
    have hanswer := Except.ok.inj (congrArg Prod.fst (hshows.ask_grants {}))
    rw [← Reply.grants.inj hanswer]
    decide +kernel
  have hall : instances {} = [order] := (hshows.instances_answers.unforgeable {} forged) ▸ hinstance
  have hevery : jobs {} = [job] := (hshows.jobs_answers.unforgeable {} forged) ▸ hjob
  refine ⟨hexecutions, hjobs, hgrants, instances, jobs, grants, hshows, hinstance, ?_, ?_, hjob,
    ?_, ?_, hgrant⟩
  · rw [hshows.instances_answers.restricted, hall]
    decide +kernel
  · rw [hshows.instances_answers.restricted, hall]
    decide +kernel
  · rw [hshows.jobs_answers.restricted, hevery]
    decide +kernel
  · rw [hshows.jobs_answers.restricted, hevery]
    decide +kernel

/-! ## Tasks -/

/-- Whether a task is shown. Tasks of cases are shown to everybody, others like the rows of a
process; a task without one is open to whom the tasks of all processes are. -/
def showsTask (a : Authority) (t : Task) : Bool :=
  t.caseExecutionId.isSome || (a.permits .read .task (some t.id) ||
    a.permits .readTasks .processDefinition t.definitionKey)

theorem selectTasks_guarded (q : TaskQuery) :
    s.selectTasks (q.guarded (c.authority s)) =
      s.tasks.rows.filter fun t => q.accepts t && showsTask (c.authority s) t := by
  refine List.filter_congr fun t _ => ?_
  exact congrArg (fun shown => q.accepts t && (t.caseExecutionId.isSome || shown))
    (Authority.shows_guardOr _ _ _ t.columns)

/-- A task is shown if it may be seen, and in two cases more. -/
theorem showsTask_iff {a : Authority} {t : Task} :
    showsTask a t = true ↔ a.requireReadTask t = .ok () ∨ t.caseExecutionId.isSome ∨
      ((t.executionId = none ∨ t.definitionKey = none) ∧
        a.permits .readTasks .processDefinition t.definitionKey = true) := by
  have hread : a.requireReadTask t = .ok () ↔ _ := @Authority.requireTask_eq_ok a .read .readTasks t
  rw [hread, showsTask, Bool.or_eq_true, Bool.or_eq_true]
  cases t.executionId with
  | none => cases t.caseExecutionId <;> simp
  | some _ => cases t.definitionKey <;> cases t.caseExecutionId <;> simp

/-- **The search for tasks shows all that may be seen, and more.** Of the tasks that may not be seen
it shows those of cases, and, to whom the tasks of all processes are open, those that have no
execution or no process. -/
theorem task_search_shows_more (e : Engine) (subject : Option Subject) (st : State) :
    ∃ ts, e.ask subject (.tasks {}) st = (.ok (.tasks ts), st) ∧
      ∀ t ∈ st.store.tasks.rows,
        let a := (e.contextFor subject).authority st.store
        t ∈ ts ↔ a.requireReadTask t = .ok () ∨ t.caseExecutionId.isSome ∨
          ((t.executionId = none ∨ t.definitionKey = none) ∧
            a.permits .readTasks .processDefinition t.definitionKey = true) := by
  let a := (e.contextFor subject).authority st.store
  refine ⟨st.store.selectTasks (TaskQuery.guarded {} a), rfl, fun t ht => ?_⟩
  dsimp only
  rw [← showsTask_iff, selectTasks_guarded]
  simp [ht]

/-- Kermit may see the tasks of orders. He is shown the task of an order and not a task on its own,
and may see the one and not the other. -/
theorem task_of_order_shown :
    let order := Execution.instanceOf "i" (ProcessDefinition.new "p" "order" 1)
    let packing := Task.ofExecution "pack" order
    let cleaning := Task.standalone "clean"
    let grant : Grant :=
      ⟨"g", .give, some "kermit", none, .processDefinition, "order", .singleton .readTasks⟩
    let store := (((∅ : Store).putTask packing).putTask cleaning).putGrant grant
    let e := Engine.standard { enforced := true }
    let kermit : Subject := ⟨"kermit", []⟩
    packing ∈ store.tasks.rows ∧ cleaning ∈ store.tasks.rows ∧
    ∃ ts, e.ask (some kermit) (.tasks {}) ⟨store, 0⟩ = (.ok (.tasks ts), ⟨store, 0⟩) ∧
      packing ∈ ts ∧ cleaning ∉ ts ∧
      ((e.contextFor (some kermit)).authority store).requireReadTask packing = .ok () ∧
      ((e.contextFor (some kermit)).authority store).requireReadTask cleaning ≠ .ok () := by
  intro order packing cleaning grant store e kermit
  have hpacking : packing ∈ store.tasks.rows := by decide +kernel
  have hcleaning : cleaning ∈ store.tasks.rows := by decide +kernel
  have hread : ((e.contextFor (some kermit)).authority store).requireReadTask packing = .ok () :=
    Authority.requireTask_eq_ok.2 (by decide +kernel)
  have hdenied :
      ((e.contextFor (some kermit)).authority store).requireReadTask cleaning ≠ .ok () := by
    refine fun h => absurd (Authority.requireTask_eq_ok.1 h) ?_
    decide +kernel
  obtain ⟨ts, hask, hshown⟩ := task_search_shows_more e (some kermit) ⟨store, 0⟩
  refine ⟨hpacking, hcleaning, ts, hask, (hshown packing hpacking).2 (.inl hread), fun hmem => ?_,
    hread, hdenied⟩
  rcases (hshown cleaning hcleaning).1 hmem with h | h | ⟨-, h⟩
  · exact hdenied h
  · cases h
  · revert h
    decide +kernel

/-- John may see the tasks of all processes. A task on its own belongs to none of them: it is shown
to him, and he is denied to see it. -/
theorem task_on_its_own_shown_and_denied :
    let cleaning := Task.standalone "t"
    let grant : Grant :=
      ⟨"g", .give, some "john", none, .processDefinition, anyId, .singleton .readTasks⟩
    let store := ((∅ : Store).putTask cleaning).putGrant grant
    let e := Engine.standard { enforced := true }
    let john : Subject := ⟨"john", []⟩
    (∃ ts, e.ask (some john) (.tasks {}) ⟨store, 0⟩ = (.ok (.tasks ts), ⟨store, 0⟩) ∧
      cleaning ∈ ts) ∧
    ((e.contextFor (some john)).authority store).requireReadTask cleaning =
      .error (.denied ⟨"john", .read, .task, some "t"⟩) := by
  intro cleaning grant store e john
  let a := (e.contextFor (some john)).authority store
  exact ⟨⟨store.selectTasks (TaskQuery.guarded {} a), rfl, by decide +kernel⟩, rfl⟩

end

end Search

end Workflow
