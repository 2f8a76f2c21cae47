import Workflow.Proofs.Ids
import Workflow.Proofs.Writes

/-!
# What commands never change

Of everything that the engine remembers, commands change little: states, the variables of
executions, how far work on a task has come, and how often a deferred job may still be tried. The
audit log and the deliveries only grow. Rows come and go in few tables: executions are added when
instances are started, deferred jobs when changes are scheduled, and subscriptions, deferred jobs
and grants are taken away.

* `Store.IsSound`: rows are filed under their ids, and grants have the right shape.
* `permanent`, for each kind of row that changes: what stays of it.
* `Store.Persists`: what stays of a store. `State.Continues.writes` says that all that commands
  write leads from sound stores to sound stores in which the earlier ones persist.
* `Engine.starts`: the instances that an event has started, by the answers.
* `StepKeeps`: what one event keeps. `commands_keep_what_is_permanent` says so after any run.
-/

namespace Workflow

open Workflow.Action (Frame Within)
open Correlation (Lookup Message Match)

/-! ## Sound stores -/

/-- Every row is filed under its own id, and every grant has the right shape. -/
structure Store.IsSound (s : Store) : Prop where
  grants : s.grants.Filed (·.id)
  definitions : s.definitions.Filed (·.id)
  executions : s.executions.Filed (·.id)
  jobDefinitions : s.jobDefinitions.Filed (·.id)
  jobs : s.jobs.Filed (·.id)
  tasks : s.tasks.Filed (·.id)
  subscriptions : s.subscriptions.Filed (·.id)
  deferredJobs : s.deferredJobs.Filed (·.id)
  shapes : ∀ g ∈ s.grants.rows, g.fault? = none

/-! ## What stays of a row -/

/-- What stays of a process definition: all but its state. -/
def ProcessDefinition.permanent (d : ProcessDefinition) : ProcessDefinition :=
  { d with state := .active }

/-- What stays of an execution: all but its state and its variables. -/
def Execution.permanent (e : Execution) : Execution := { e with state := .active, vars := ∅ }

/-- What stays of a job definition: all but its state. -/
def JobDefinition.permanent (d : JobDefinition) : JobDefinition := { d with state := .active }

/-- What stays of a job: all but its state. -/
def Job.permanent (j : Job) : Job := { j with state := .active }

/-- What stays of a task: all but its state and how far work on it has come. -/
def Task.permanent (t : Task) : Task :=
  { t with state := .active, priority := 0, assignee := none, owner := none, delegation := none }

/-- What stays of a deferred job: all but how often it may be tried and why it failed. -/
def DeferredJob.permanent (j : DeferredJob) : DeferredJob :=
  { j with retries := 0, failure := none }

/-! ## What stays of a store -/

/-- What stays of a store. Log and deliveries are extended; definitions, jobs and tasks are the same
but for what changes of a row; executions are still there; and subscriptions are none but those that
there were. -/
structure Store.Persists (s s' : Store) : Prop where
  log : s.log <+: s'.log
  deliveries : s.deliveries <+: s'.deliveries
  definitions : s'.definitions.map (·.permanent) = s.definitions.map (·.permanent)
  jobDefinitions : s'.jobDefinitions.map (·.permanent) = s.jobDefinitions.map (·.permanent)
  jobs : s'.jobs.map (·.permanent) = s.jobs.map (·.permanent)
  tasks : s'.tasks.map (·.permanent) = s.tasks.map (·.permanent)
  executions : ∀ id e, s.executions.get? id = some e →
    (s'.executions.get? id).map (·.permanent) = some e.permanent
  subscriptions : ∀ id sub, s'.subscriptions.get? id = some sub →
    s.subscriptions.get? id = some sub

namespace Store.Persists

variable {s s' s'' : Store}

theorem refl (s : Store) : s.Persists s where
  log := List.prefix_refl _
  deliveries := List.prefix_refl _
  definitions := rfl
  jobDefinitions := rfl
  jobs := rfl
  tasks := rfl
  executions _ _ h := by rw [h, Option.map_some]
  subscriptions _ _ h := h

theorem trans (h : s.Persists s') (h' : s'.Persists s'') : s.Persists s'' where
  log := h.log.trans h'.log
  deliveries := h.deliveries.trans h'.deliveries
  definitions := h'.definitions.trans h.definitions
  jobDefinitions := h'.jobDefinitions.trans h.jobDefinitions
  jobs := h'.jobs.trans h.jobs
  tasks := h'.tasks.trans h.tasks
  executions id e he := by
    obtain ⟨e', he', hsame⟩ := Option.map_eq_some_iff.1 (h.executions id e he)
    rw [h'.executions id e' he', hsame]
  subscriptions id sub hsub := h.subscriptions id sub (h'.subscriptions id sub hsub)

end Store.Persists

namespace State

/-- No execution and no deferred job is filed under an id that was not handed out yet. -/
def HasFreshKeys (st : State) : Prop :=
  ∀ n, st.minted < n →
    st.store.executions.get? (mintedId n) = none ∧ st.store.deferredJobs.get? (mintedId n) = none

/-- An id that comes later stays free when a row is filed under an earlier one. -/
theorem get?_insert_later {α : Type} {t : Table α} {m n : Nat} (hmn : m < n)
    (h : t.get? (mintedId n) = none) (a : α) :
    (t.insert (mintedId m) a).get? (mintedId n) = none := by
  have hne : mintedId n ≠ mintedId m := fun heq => Nat.ne_of_gt hmn (mintedId_injective heq)
  rw [Table.get?_insert, if_neg hne, h]

/-- What runs keep of a state. -/
structure IsValid (st : State) : Prop where
  sound : st.store.IsSound
  fresh : st.HasFreshKeys

/-- A deferred job stems from an earlier one, or it came under a fresh id. -/
def DeferredStem (st st' : State) : Prop :=
  ∀ id j', st'.store.deferredJobs.get? id = some j' →
    (∃ j, st.store.deferredJobs.get? id = some j ∧ j'.permanent = j.permanent) ∨
      ∃ n, st.minted < n ∧ id = mintedId n

/-- Work leads on from a state: ids count upwards, and from a valid state it leads to a valid state
in which the store persists. -/
structure Continues (st st' : State) : Prop where
  minted : st.minted ≤ st'.minted
  valid : st.IsValid → st'.IsValid
  persists : st.IsValid → st.store.Persists st'.store
  deferred : st.IsValid → st.DeferredStem st'

variable {st st' : State}

/-- Work that files nothing under a fresh id. -/
theorem Continues.of_stem (hminted : st.minted ≤ st'.minted)
    (hsound : st.store.IsSound → st'.store.IsSound)
    (hpersists : st.store.IsSound → st.store.Persists st'.store)
    (hexecutions : ∀ id, st.store.executions.get? id = none → st'.store.executions.get? id = none)
    (hdeferred : ∀ id j', st'.store.deferredJobs.get? id = some j' →
      ∃ j, st.store.deferredJobs.get? id = some j ∧ j'.permanent = j.permanent) :
    st.Continues st' where
  minted := hminted
  valid hst := by
    refine ⟨hsound hst.sound, fun n hn => ?_⟩
    obtain ⟨hexecution, hjob⟩ := hst.fresh n (Nat.lt_of_le_of_lt hminted hn)
    refine ⟨hexecutions _ hexecution, Option.eq_none_iff_forall_ne_some.2 fun j' hj' => ?_⟩
    obtain ⟨j, hj, -⟩ := hdeferred _ j' hj'
    rw [hjob] at hj
    cases hj
  persists hst := hpersists hst.sound
  deferred _ id j' hj' := .inl (hdeferred id j' hj')

namespace Continues

/-- Work that leaves executions and deferred jobs as they are. -/
theorem of_eq (hminted : st.minted ≤ st'.minted)
    (hexecutions : st'.store.executions = st.store.executions)
    (hdeferred : st'.store.deferredJobs = st.store.deferredJobs)
    (hsound : st.store.IsSound → st'.store.IsSound)
    (hpersists : st.store.IsSound → st.store.Persists st'.store) : st.Continues st' :=
  of_stem hminted hsound hpersists (fun _ h => by rw [hexecutions, h])
    fun _ j h => ⟨j, hdeferred ▸ h, rfl⟩

theorem frame : Frame Continues where
  refl st := of_eq (Nat.le_refl _) rfl rfl id fun _ => .refl _
  trans h h' := by
    refine ⟨Nat.le_trans h.minted h'.minted, fun hst => h'.valid (h.valid hst),
      fun hst => (h.persists hst).trans (h'.persists (h.valid hst)), fun hst id j'' hj'' => ?_⟩
    rcases h'.deferred (h.valid hst) id j'' hj'' with ⟨j', hj', hsame⟩ | ⟨n, hn, hid⟩
    · rcases h.deferred hst id j' hj' with ⟨j, hj, hsame'⟩ | hnew
      · exact .inl ⟨j, hj, hsame.trans hsame'⟩
      · exact .inr hnew
    · exact .inr ⟨n, Nat.lt_of_le_of_lt h.minted hn, hid⟩
  rollback h := of_eq h.minted rfl rfl id fun _ => .refl _

/-! ## What is written -/

theorem revoke (grants : Table Grant)
    (h : ∀ id g, grants.get? id = some g → st.store.grants.get? id = some g) :
    st.Continues { st with store := { st.store with grants := grants } } := by
  refine of_eq (Nat.le_refl _) rfl rfl (fun hs => ?_) fun _ => { Store.Persists.refl st.store with }
  refine { hs with grants := fun id g hg => hs.grants id g (h id g hg), shapes := fun g hg => ?_ }
  obtain ⟨id, hid⟩ := Table.mem_rows_iff.1 hg
  exact hs.shapes g (Table.mem_rows_iff.2 ⟨id, h id g hid⟩)

theorem save {g : Grant} (hg : g.fault? = none) (st : State) :
    st.Continues { st with store := st.store.putGrant g } := by
  refine of_eq (Nat.le_refl _) rfl rfl (fun hs => ?_) fun _ => { Store.Persists.refl st.store with }
  refine { hs with grants := hs.grants.insert g, shapes := fun g' hg' => ?_ }
  rcases Table.mem_rows_insert hg' with rfl | hg'
  · exact hg
  · exact hs.shapes g' hg'

theorem record (entry : LogEntry) : st.Continues { st with store := st.store.record entry } :=
  of_eq (Nat.le_refl _) rfl rfl (fun hs => { hs with }) fun _ =>
    { Store.Persists.refl st.store with log := List.prefix_append _ _ }

/-- A request gives states and leaves the rest of the rows as it is. -/
theorem states (r : Suspension.Request) :
    st.Continues { st with store := r.carriedOut st.store } := by
  have hexecutions (id : String) : ((r.carriedOut st.store).executions.get? id).map (·.permanent) =
      (st.store.executions.get? id).map (·.permanent) := by
    rw [r.carriedOut_executions, Table.get?_map, Option.map_map]
    rfl
  refine of_stem (Nat.le_refl _) (fun hs => ?_) (fun _ => ?_) (fun id h => ?_)
    fun _ j h => ⟨j, h, rfl⟩
  · refine { hs with definitions := ?_, executions := ?_, jobDefinitions := ?_, jobs := ?_,
                     tasks := ?_ }
    · rw [r.carriedOut_definitions]
      exact hs.definitions.map fun _ => rfl
    · rw [r.carriedOut_executions]
      exact hs.executions.map fun _ => rfl
    · rw [r.carriedOut_jobDefinitions]
      exact hs.jobDefinitions.map fun _ => rfl
    · rw [r.carriedOut_jobs]
      exact hs.jobs.map fun _ => rfl
    · rw [r.carriedOut_tasks]
      exact hs.tasks.map fun _ => rfl
  · refine { Store.Persists.refl st.store with
      definitions := ?_, jobDefinitions := ?_, jobs := ?_, tasks := ?_,
      executions := fun id e he => by rw [hexecutions, he, Option.map_some] }
    · rw [r.carriedOut_definitions, Table.map_map]
      rfl
    · rw [r.carriedOut_jobDefinitions, Table.map_map]
      rfl
    · rw [r.carriedOut_jobs, Table.map_map]
      rfl
    · rw [r.carriedOut_tasks, Table.map_map]
      rfl
  · have hnone := hexecutions id
    rw [h, Option.map_none, Option.map_eq_none_iff] at hnone
    exact hnone

/-- A scheduled change comes under a fresh id. -/
theorem schedule (st : State) (r : Suspension.Request) (date : Int) :
    st.Continues
      { store := st.store.putDeferredJob (r.deferredJob (mintedId (st.minted + 1)) date)
        minted := st.minted + 1 } where
  minted := Nat.le_succ _
  valid hst := by
    refine ⟨{ hst.sound with deferredJobs := hst.sound.deferredJobs.insert _ }, fun n hn => ?_⟩
    obtain ⟨hexecution, hjob⟩ := hst.fresh n (Nat.lt_of_succ_lt hn)
    exact ⟨hexecution, get?_insert_later hn hjob _⟩
  persists _ := { Store.Persists.refl st.store with }
  deferred _ id j' hj' := by
    rw [Store.putDeferredJob, Table.get?_insert] at hj'
    split at hj'
    · exact .inr ⟨st.minted + 1, Nat.lt_succ_self _, ‹id = _›⟩
    · exact .inl ⟨j', hj', rfl⟩

theorem unschedule (id : String) : st.Continues { st with store := st.store.unschedule id } := by
  refine of_stem (Nat.le_refl _) (fun hs => { hs with deferredJobs := hs.deferredJobs.erase id })
    (fun _ => { Store.Persists.refl st.store with }) (fun _ h => h) fun k j hj => ?_
  rw [Store.unschedule, Table.get?_erase] at hj
  split at hj
  · cases hj
  · exact ⟨j, hj, rfl⟩

theorem failure {id reason : String} {left : Nat} {s' : Store}
    (h : st.store.recordFailure id reason = .ok (left, s')) :
    st.Continues { st with store := s' } := by
  obtain ⟨job, hrow, h⟩ := bind_eq_ok.1 h
  cases h
  rw [Store.row_eq_ok] at hrow
  refine of_stem (Nat.le_refl _) (fun hs => ?_) (fun _ => { Store.Persists.refl st.store with })
    (fun _ h => h) fun k j hj => ?_
  · have hid : (job.afterFailure reason).id = id := hs.deferredJobs id job hrow
    refine { hs with deferredJobs := ?_ }
    have hfiled := hs.deferredJobs.insert (job.afterFailure reason)
    rwa [hid] at hfiled
  · simp only [Table.get?_insert] at hj
    split at hj
    · rename_i hk
      cases hj
      exact ⟨job, hk ▸ hrow, rfl⟩
    · exact ⟨j, hj, rfl⟩

/-- An event changes variables and uses a subscription up. -/
theorem deliver {sub : Subscription} {payload : Option Variables} {s' : Store}
    (h : st.store.deliver sub payload = .ok s') : st.Continues { st with store := s' } := by
  obtain ⟨_, owner, -, -, rfl⟩ := Store.deliver_eq_ok.1 h
  refine of_stem (Nat.le_refl _) (fun hs => ?_) (fun _ => ?_) (fun id h => ?_)
    fun _ j h => ⟨j, h, rfl⟩
  · exact { hs with
      executions := hs.executions.modify (f := (·.given payload)) (fun _ => rfl) _
      subscriptions := hs.subscriptions.erase sub.id }
  · refine { Store.Persists.refl st.store with
      deliveries := List.prefix_append _ _, executions := fun id e he => ?_,
      subscriptions := fun id sub' hsub => ?_ }
    · simp only [Store.handedOver, Table.get?_modify, he]
      split <;> rfl
    · simp only [Store.handedOver, Table.get?_erase] at hsub
      split at hsub
      · cases hsub
      · exact hsub
  · simp only [Store.handedOver, Table.get?_modify, h]
    split <;> rfl

theorem task {id : String} {t t' : Task} (h : st.store.tasks.get? id = some t)
    (hwork : t.WorkedTo t') : st.Continues { st with store := st.store.putTask t' } := by
  rw [Task.WorkedTo] at hwork
  refine of_eq (Nat.le_refl _) rfl rfl (fun hs => { hs with tasks := hs.tasks.insert t' }) fun hs =>
    { Store.Persists.refl st.store with tasks := ?_ }
  have hid : t'.id = id := by
    rw [hwork]
    exact hs.tasks id t h
  refine Table.map_insert (hid ▸ h) ?_
  rw [hwork]
  rfl

/-- **A new instance** replaces nothing, since its id is fresh. -/
theorem start (st : State) (d : ProcessDefinition) (businessKey activityId : Option String)
    (vars : Variables) :
    st.Continues
      { store := st.store.putExecution
          (.started (mintedId (st.minted + 1)) d businessKey activityId vars)
        minted := st.minted + 1 } where
  minted := Nat.le_succ _
  valid hst := by
    refine ⟨{ hst.sound with executions := hst.sound.executions.insert _ }, fun n hn => ?_⟩
    obtain ⟨hexecution, hjob⟩ := hst.fresh n (Nat.lt_of_succ_lt hn)
    exact ⟨get?_insert_later hn hexecution _, hjob⟩
  persists hst := by
    refine { Store.Persists.refl st.store with executions := fun id e he => ?_ }
    obtain ⟨hnew, -⟩ := hst.fresh (st.minted + 1) (Nat.lt_succ_self _)
    have hne : id ≠ mintedId (st.minted + 1) := by
      rintro rfl
      rw [hnew] at he
      cases he
    have hget : (st.store.putExecution
        (.started (mintedId (st.minted + 1)) d businessKey activityId vars)).executions.get? id =
        some e := (Table.get?_insert ..).trans ((if_neg hne).trans he)
    rw [hget, Option.map_some]
  deferred _ _ j h := .inl ⟨j, h, rfl⟩

/-- **All that commands write leads on from valid states.** -/
theorem writes : WritesWithin Continues where
  toFrame := frame
  fresh _ := of_eq (Nat.le_succ _) rfl rfl id fun _ => .refl _
  record _ := record
  revoke _ := revoke
  states _ := states
  schedule := schedule
  unschedule _ := unschedule
  failure _ _ _ _ _ := failure
  deliver _ _ _ _ := deliver
  task _ _ _ _ := task
  start := start
  save _ := save

end Continues

/-! ## Grants -/

/-- Grants are none but those that there were. -/
def KeepsGrants (st st' : State) : Prop :=
  ∀ id g, st'.store.grants.get? id = some g → st.store.grants.get? id = some g

/-- All work but saving a grant adds no grant and changes none. -/
theorem KeepsGrants.works : WorksWithin KeepsGrants where
  refl _ _ _ h := h
  trans h h' id g hg := h id g (h' id g hg)
  rollback _ _ _ h := h
  fresh _ _ _ h := h
  record _ _ _ _ h := h
  revoke _ _ h := h
  states _ _ _ _ h := h
  schedule _ _ _ _ _ h := h
  unschedule _ _ _ _ h := h
  failure _ _ _ _ _ h := by
    obtain ⟨_, -, h⟩ := bind_eq_ok.1 h
    cases h
    exact fun _ _ h => h
  deliver _ _ _ _ h := by
    obtain ⟨_, _, -, -, rfl⟩ := Store.deliver_eq_ok.1 h
    exact fun _ _ h => h
  task _ _ _ _ _ _ _ _ h := h

/-! ## Executions -/

/-- Executions have the same ids. -/
def KeepsExecutionIds (st st' : State) : Prop :=
  st'.store.executions.keys = st.store.executions.keys

/-- All work but starting instances neither adds executions nor takes any away. -/
theorem KeepsExecutionIds.works : WorksWithin KeepsExecutionIds where
  refl _ := rfl
  trans h h' := h'.trans h
  rollback _ := rfl
  fresh _ := rfl
  record _ _ := rfl
  revoke _ _ _ := rfl
  states st r := by
    rw [KeepsExecutionIds, r.carriedOut_executions, Table.keys_map]
  schedule _ _ _ := rfl
  unschedule _ _ := rfl
  failure _ _ _ _ _ h := by
    obtain ⟨_, -, h⟩ := bind_eq_ok.1 h
    cases h
    rfl
  deliver _ _ _ _ h := by
    obtain ⟨_, _, -, -, rfl⟩ := Store.deliver_eq_ok.1 h
    exact Table.keys_modify _ _ _
  task _ _ _ _ _ _ := rfl

theorem KeepsExecutionIds.size {st st' : State} (h : st.KeepsExecutionIds st') :
    st'.store.executions.size = st.store.executions.size := by
  rw [Table.size_eq_length_keys, Table.size_eq_length_keys, h]

end State

namespace Correlation

variable {m : Message} {c : Context} {st st' : State}

/-- A new instance is one execution more. -/
theorem size_start (hst : st.IsValid) {d : ProcessDefinition}
    {businessKey activityId : Option String} {vars : Variables} {e : Execution}
    (h : (start d businessKey activityId vars).run c st = (.ok e, st')) :
    st'.store.executions.size = st.store.executions.size + 1 := by
  cases h
  exact Table.size_insert_of_new (hst.fresh _ (Nat.lt_succ_self _)).1 _

theorem size_dispatch (hst : st.IsValid) {target : Match}
    (h : (m.dispatch target).run c st = (.ok (), st')) :
    st'.store.executions.size =
      st.store.executions.size + if target.isWaiting then 0 else 1 := by
  cases target with
  | waiting e sub =>
    have hwithin := State.KeepsExecutionIds.works.deliverEvent sub m.payload
    exact (hwithin.of_run h).size
  | start d activityId =>
    obtain ⟨e, hstart⟩ := Action.run_discard_eq_ok.1 h
    exact size_start hst hstart

/-- **As many executions more as instances are started.** -/
theorem size_dispatchAll {targets : List Match} (hst : st.IsValid)
    (h : (m.dispatchAll targets).run c st = (.ok (), st')) :
    st'.store.executions.size =
      st.store.executions.size + targets.countP (!·.isWaiting) := by
  induction targets generalizing st with
  | nil =>
    cases h
    rfl
  | cons target rest ih =>
    obtain ⟨_, st₁, hfirst, hrest⟩ := Action.run_bind_eq_ok.1 h
    have hwrites := State.Continues.writes
    have hvalid : st₁.IsValid :=
      ((hwrites.dispatch hwrites.start m target).of_run hfirst).valid hst
    rw [ih hvalid hrest, size_dispatch hst hfirst, List.countP_cons]
    cases target.isWaiting with
    | true => simp
    | false =>
      simp only [Bool.false_eq_true, if_false, Bool.not_false, if_true]
      omega

end Correlation

/-- How many instances were started, according to an answer. -/
def Reply.starts : Reply → Nat
  | .started _ => 1
  | .target m => if m.isWaiting then 0 else 1
  | .targets ms => ms.countP (!·.isWaiting)
  | _ => 0

section

variable {l : Lookup} {command : Command} {c : Context} {st st' : State} {reply : Reply}

/-- Only messages are answered with instances that were started. -/
theorem starts_of_perform (hmessage : command.isMessage = false)
    (h : (command.perform ⟨Suspension.handlers, l⟩).run c st = (.ok reply, st')) :
    reply.starts = 0 := by
  cases command with
  | correlate | correlateAll | receive | startInstance => cases hmessage
  | isPermitted =>
    cases h
    rfl
  | deleteGrant id =>
    obtain ⟨_, -, h⟩ := Action.run_decided_bind_eq_ok.1 h
    obtain ⟨_, _, -, h⟩ := Action.run_bind_eq_ok.1 h
    cases h
    rfl
  | _ =>
    obtain ⟨_, -, rfl⟩ := Action.run_map_eq_ok.1 h
    rfl

/-- **A command that succeeds** adds as many executions as it has started instances. -/
theorem size_of_perform (hst : st.IsValid)
    (h : (command.perform ⟨Suspension.handlers, l⟩).run c st = (.ok reply, st')) :
    st'.store.executions.size = st.store.executions.size + reply.starts := by
  have hworks := State.KeepsExecutionIds.works
  cases hmessage : command.isMessage with
  | false =>
    have hwithin := hworks.perform l command (by simp [hmessage]) fun g _ _ _ => rfl
    rw [starts_of_perform hmessage h, (hwithin.of_run h).size, Nat.add_zero]
  | true =>
    cases command with
    | correlate m =>
      obtain ⟨target, hrun, rfl⟩ := Action.run_map_eq_ok.1 h
      obtain ⟨-, -, hdispatch⟩ := Correlation.correlate_inv hrun
      exact Correlation.size_dispatch hst hdispatch
    | correlateAll m =>
      obtain ⟨targets, hrun, rfl⟩ := Action.run_map_eq_ok.1 h
      obtain ⟨-, -, hdispatch⟩ := Correlation.correlateAll_inv hrun
      exact Correlation.size_dispatchAll hst hdispatch
    | receive name executionId payload =>
      obtain ⟨_, hrun, rfl⟩ := Action.run_map_eq_ok.1 h
      exact ((hworks.receive name executionId payload).of_run hrun).size
    | startInstance name businessKey vars =>
      obtain ⟨e, hrun, rfl⟩ := Action.run_map_eq_ok.1 h
      obtain ⟨_, _, -, hstart⟩ := Correlation.startInstance_inv hrun
      exact Correlation.size_start hst hstart
    | _ => cases hmessage

end

/-- A grant that is saved is put under its id, and that is all. -/
theorem Administration.saveGrant_inv {g g' : Grant} {c : Context} {st st' : State}
    (h : (saveGrant g).run c st = (.ok g', st')) :
    g' = g ∧ st' = { st with store := st.store.putGrant g } := by
  simp only [saveGrant, Action.run_decided_bind_eq_ok, Action.run_consult_bind_eq_ok] at h
  obtain ⟨_, -, known, -, h⟩ := h
  split at h <;> obtain ⟨_, -, h⟩ := Action.run_authorize_bind_eq_ok.1 h <;>
    obtain ⟨_, _, hmodify, h⟩ := Action.run_bind_eq_ok.1 h <;>
    obtain ⟨s, hput, rfl⟩ := Action.run_modify_eq_ok.1 hmodify <;> cases h
  · unfold Store.replaceGrant at hput
    split at hput <;> cases hput
    exact ⟨rfl, rfl⟩
  · unfold Store.addGrant at hput
    split at hput <;> cases hput
    exact ⟨rfl, rfl⟩

/-! ## Events -/

namespace Engine

/-- How many instances an event starts, according to the answer: none, if it is an error. -/
def starts (e : Engine) (st : State) : Event → Nat
  | .ask subject command =>
    match (e.ask subject command st).1 with
    | .ok reply => reply.starts
    | .error _ => 0
  | .look _ => 0

/-- An event is that a grant is saved, with success. -/
def Saves (e : Engine) (st : State) (event : Event) (g : Grant) : Prop :=
  ∃ subject, event = .ask subject (.saveGrant g) ∧
    (e.ask subject (.saveGrant g) st).1 = .ok (.grant g)

/-- What an event keeps. The store is sound afterwards, and what it was before persists; there is
one execution more for every instance that was started; deferred jobs that are still there are the
same but for tries and failure; and every grant was there before, unless it is the one that was
saved. -/
structure StepKeeps (e : Engine) (event : Event) (st : State) : Prop where
  sound : (e.happen st event).store.IsSound
  persists : st.store.Persists (e.happen st event).store
  executions : (e.happen st event).store.executions.size =
    st.store.executions.size + e.starts st event
  deferredJobs : ∀ id j j', st.store.deferredJobs.get? id = some j →
    (e.happen st event).store.deferredJobs.get? id = some j' → j'.permanent = j.permanent
  grants : ∀ id g, (e.happen st event).store.grants.get? id = some g →
    st.store.grants.get? id = some g ∨ id = g.id ∧ e.Saves st event g

section

variable {settings : Settings} {l : Lookup} {st : State}

theorem size_happen (hst : st.IsValid) (event : Event) :
    let e : Engine := ⟨settings, ⟨Suspension.handlers, l⟩⟩
    (e.happen st event).store.executions.size =
      st.store.executions.size + e.starts st event := by
  intro e
  cases event with
  | ask subject command =>
    rcases hask : e.ask subject command st with ⟨reason | reply, st'⟩
    · simp only [happen, starts, hask, store_ask_of_error hask, Nat.add_zero]
    · simp only [happen, starts, hask]
      exact size_of_perform hst (perform_of_ask hask)
  | look now => exact (State.KeepsExecutionIds.works.look settings l now _ st).size

theorem grants_happen (event : Event) :
    let e : Engine := ⟨settings, ⟨Suspension.handlers, l⟩⟩
    ∀ id g, (e.happen st event).store.grants.get? id = some g →
      st.store.grants.get? id = some g ∨ id = g.id ∧ e.Saves st event g := by
  intro e id g hg
  have hworks := State.KeepsGrants.works
  cases event with
  | look now => exact .inl (hworks.look settings l now _ st id g hg)
  | ask subject command =>
    by_cases hsave : ∃ saved, command = .saveGrant saved
    · obtain ⟨saved, rfl⟩ := hsave
      rcases hask : e.ask subject (.saveGrant saved) st with ⟨reason | reply, st'⟩
      · rw [happen, hask, store_ask_of_error hask] at hg
        exact .inl hg
      · obtain ⟨g', hrun, rfl⟩ := Action.run_map_eq_ok.1 (perform_of_ask hask)
        obtain ⟨rfl, rfl⟩ := Administration.saveGrant_inv hrun
        rw [happen, hask] at hg
        simp only [Store.putGrant, Table.get?_insert] at hg
        split at hg
        · rename_i hid
          cases hg
          exact .inr ⟨hid, subject, rfl, by rw [hask]⟩
        · exact .inl hg
    · have hwithin := hworks.perform l command (fun _ _ _ _ _ _ _ _ h => h) fun saved h =>
        absurd ⟨saved, h⟩ hsave
      exact .inl (hwithin.atomically hworks.toFrame _ st id g hg)

/-- **One event.** -/
theorem stepKeeps (hst : st.IsValid) (event : Event) :
    (Engine.mk settings ⟨Suspension.handlers, l⟩).StepKeeps event st := by
  have hnext := State.Continues.writes.happen settings l event st
  refine ⟨(hnext.valid hst).sound, hnext.persists hst, size_happen hst event,
    fun id j j' hj hj' => ?_, grants_happen event⟩
  rcases hnext.deferred hst id j' hj' with ⟨j₀, hj₀, hsame⟩ | ⟨n, hn, rfl⟩
  · obtain rfl := Option.some.inj (hj.symm.trans hj₀)
    exact hsame
  · rw [(hst.fresh n hn).2] at hj
    cases hj

/-- **What commands never change.** In every run, whatever commands are asked for by whom, whether
they succeed or not, whenever deferred jobs are looked for, and whatever finds the targets of
messages, every event keeps what is permanent. The run begins in a sound store, and ids that are
handed out are not in use before. -/
theorem commands_keep_what_is_permanent (settings : Settings) (l : Lookup) (events : List Event)
    (event : Event) (st : State) (hsound : st.store.IsSound) (hfresh : st.HasFreshKeys) :
    let e : Engine := ⟨settings, ⟨Suspension.handlers, l⟩⟩
    e.StepKeeps event (e.run events st) := by
  intro e
  have hrun := State.Continues.writes.run settings l events st
  exact stepKeeps (hrun.valid ⟨hsound, hfresh⟩) event

/-- An order waits for its payment, and its suspension is on the schedule. The message that comes
then resumes the order and starts another one: one execution more, and the scheduled suspension is
still there. -/
theorem payment_resumes_order_and_starts_another :
    let definition := ProcessDefinition.new "p" "order" 1
    let order := Execution.instanceOf "i" definition
    let waiting := Subscription.toMessage "s" "paid" "i" "i" "wait" 0
    let beginning := Subscription.toStartMessage "t" "paid" definition.id "begin" 0
    let store := (((Store.putDefinition ∅ definition).putExecution order).putSubscription
      waiting).putSubscription beginning
    let suspension : Suspension.Request :=
      { Suspension.Request.new .processInstance .suspended with
        selectors := { resourceId := some "i" }, date := some 10 }
    let paid : Message := ⟨some "paid", ⟨none, none, ∅⟩, ∅⟩
    let e := Engine.standard {}
    let before := e.run [.ask none (.setStates suspension)] ⟨store, 0⟩
    let event := Event.ask none (.correlateAll paid)
    store.IsSound ∧ State.HasFreshKeys ⟨store, 0⟩ ∧ e.StepKeeps event before ∧
      before.store.deferredJobs.keys = [State.mintedId 1] ∧ before.store.log.length = 1 ∧
      e.starts before event = 1 ∧ (e.happen before event).store.executions.size = 2 ∧
      (e.happen before event).store.deferredJobs = before.store.deferredJobs := by
  intro definition order waiting beginning store suspension paid e before event
  have hsound : store.IsSound := {
    grants := .empty
    definitions := Table.Filed.empty.insert definition
    executions := Table.Filed.empty.insert order
    jobDefinitions := .empty
    jobs := .empty
    tasks := .empty
    subscriptions := (Table.Filed.empty.insert waiting).insert beginning
    deferredJobs := .empty
    shapes := by decide }
  have hfresh : State.HasFreshKeys ⟨store, 0⟩ := by
    intro n _
    have hne : State.mintedId n ≠ "i" := (State.ne_mintedId (by decide +kernel) n).symm
    exact ⟨(Table.get?_insert ..).trans (if_neg hne), rfl⟩
  exact ⟨hsound, hfresh,
    commands_keep_what_is_permanent {} .standard _ event ⟨store, 0⟩ hsound hfresh,
    by decide +kernel, by decide +kernel, by decide +kernel, by decide +kernel, by decide +kernel⟩

end

end Engine

end Workflow
