import Mathlib.Data.List.Forall2
import Workflow.Proofs.Authorization.Strangers
import Workflow.Proofs.Correlation.Phases
import Workflow.Proofs.Suspension.Decision
import Workflow.Proofs.TaskWork

/-!
# Complete mediation

Every command of a user asks for permission before it writes and shows nothing without permission.
So where permissions are enforced, a stranger can only do what is open to everybody: work on tasks
of cases, suspend and activate jobs or put that on the schedule, and ask for what may not be seen.

* `Store.ChangesOpenly` says what such changes are, `Command.AnsweredOpenly` what is answered.
* `changesOpenly_of_run`: a command of a stranger that succeeds.
* `stranger_changes_openly`: any number of commands of a stranger.
-/

namespace Workflow

/-! ## What is open to everybody -/

/-- The task belongs to a case and to no execution. -/
def Task.IsOfCase (t : Task) : Prop := t.caseExecutionId.isSome ∧ t.executionId = none

/-- What may become of a task: one of a case is worked on. -/
def Task.ChangesOpenly (t t' : Task) : Prop := t' = t ∨ t.IsOfCase ∧ t'.IsOfCase ∧ t'.id = t.id

/-- What may become of a job: it is suspended or activated. -/
def Job.ChangesOpenly (j j' : Job) : Prop := j' = { j with state := j'.state }

/-- What may become of a store: tasks and jobs change as they may, and changes of jobs are put on
the schedule. -/
structure Store.ChangesOpenly (s s' : Store) : Prop where
  grants : s'.grants = s.grants
  definitions : s'.definitions = s.definitions
  jobDefinitions : s'.jobDefinitions = s.jobDefinitions
  executions : s'.executions = s.executions
  subscriptions : s'.subscriptions = s.subscriptions
  deliveries : s'.deliveries = s.deliveries
  tasks : s.tasks.Related Task.ChangesOpenly s'.tasks
  jobs : s.jobs.Related Job.ChangesOpenly s'.jobs
  deferredJobs : ∀ id, s'.deferredJobs.get? id = s.deferredJobs.get? id ∨
    ∃ (r : Suspension.Request) (date : Int), r.target = .job ∧
      s'.deferredJobs.get? id = some (r.deferredJob id date)

/-- What a search may be answered: nothing is found, apart from tasks of cases. -/
def Command.AnsweredOpenly (c : Command) (answer : Except Error Reply) : Prop :=
  match c with
  | .instances _ => answer = .ok (.instances [])
  | .jobs _ => answer = .ok (.jobs [])
  | .grants _ => answer = .ok (.grants [])
  | .tasks _ => ∃ ts, answer = .ok (.tasks ts) ∧ ∀ t ∈ ts, t.caseExecutionId.isSome
  | _ => True

/-- Whether a command is one that users ask for; deferred jobs are run by the engine. -/
def Command.isOfUser : Command → Bool
  | .runDeferred _ => false
  | _ => true

theorem Task.ChangesOpenly.refl (t : Task) : t.ChangesOpenly t := .inl rfl

theorem Task.ChangesOpenly.trans (t u v : Task) (h : t.ChangesOpenly u) (h' : u.ChangesOpenly v) :
    t.ChangesOpenly v := by
  rcases h with rfl | ⟨ht, hu, hid⟩
  · exact h'
  · rcases h' with rfl | ⟨-, hv, hid'⟩
    · exact .inr ⟨ht, hu, hid⟩
    · exact .inr ⟨ht, hv, hid'.trans hid⟩

theorem Job.ChangesOpenly.refl (j : Job) : j.ChangesOpenly j := rfl

theorem Job.ChangesOpenly.trans (i j k : Job) (h : i.ChangesOpenly j) (h' : j.ChangesOpenly k) :
    i.ChangesOpenly k := by
  unfold ChangesOpenly at *
  rw [h', h]

namespace Store.ChangesOpenly

theorem refl (s : Store) : s.ChangesOpenly s where
  grants := rfl
  definitions := rfl
  jobDefinitions := rfl
  executions := rfl
  subscriptions := rfl
  deliveries := rfl
  tasks := .refl Task.ChangesOpenly.refl _
  jobs := .refl Job.ChangesOpenly.refl _
  deferredJobs _ := .inl rfl

theorem trans {s t u : Store} (h : s.ChangesOpenly t) (h' : t.ChangesOpenly u) :
    s.ChangesOpenly u where
  grants := h'.grants.trans h.grants
  definitions := h'.definitions.trans h.definitions
  jobDefinitions := h'.jobDefinitions.trans h.jobDefinitions
  executions := h'.executions.trans h.executions
  subscriptions := h'.subscriptions.trans h.subscriptions
  deliveries := h'.deliveries.trans h.deliveries
  tasks := h.tasks.trans Task.ChangesOpenly.trans h'.tasks
  jobs := h.jobs.trans Job.ChangesOpenly.trans h'.jobs
  deferredJobs id := by
    rcases h'.deferredJobs id with hsame | hnew
    · rw [hsame]
      exact h.deferredJobs id
    · exact .inr hnew

/-- What the audit log says does not matter. -/
theorem record {s t : Store} (h : s.ChangesOpenly t) (entry : LogEntry) :
    s.ChangesOpenly (t.record entry) :=
  ⟨h.grants, h.definitions, h.jobDefinitions, h.executions, h.subscriptions, h.deliveries, h.tasks,
    h.jobs, h.deferredJobs⟩

/-- Tasks stay filed under their ids. -/
theorem filed_tasks {s t : Store} (h : s.ChangesOpenly t) (hs : s.tasks.Filed (·.id)) :
    t.tasks.Filed (·.id) :=
  h.tasks.filed (fun _ _ hopen => hopen.elim (congrArg _) (·.2.2)) hs

end Store.ChangesOpenly

/-! ## Changes of states -/

namespace Suspension.Request

variable {r : Request} {selector : RowSelector} {c : Context} {s : Store} {u : Subject}

/-- A stranger may change the states of jobs only. -/
theorem target_of_require (hpower : (c.authority s).IsPowerless u)
    (h : r.require selector c s = .ok ()) : r.target = .job := by
  cases ht : r.target with
  | job => rfl
  | processDefinition =>
    cases selector <;> simp only [require, ht, bind_eq_ok] at h
    all_goals
      obtain ⟨key, -, _, hupdate, -⟩ := h
      exact absurd hupdate (hpower.requireUpdateDefinition key)
  | processInstance =>
    cases selector <;>
      simp only [require, ht, Context.requireUpdateInstances, Context.requireUpdateInstance,
        bind_eq_ok] at h
    case processDefinitionKey => exact absurd h (hpower.requireUpdateInstances _)
    case processDefinitionId =>
      obtain ⟨d, -, hupdate⟩ := h
      exact absurd hupdate (hpower.requireUpdateInstances _)
    all_goals
      obtain ⟨e, -, hupdate⟩ := h
      exact absurd hupdate (hpower.requireUpdateInstance _ _)
  | jobDefinition =>
    cases selector <;>
      simp only [require, ht, Context.requireUpdateDefinition, bind_eq_ok] at h
    case processDefinitionKey => exact absurd h (hpower.requireUpdateDefinition _)
    all_goals
      obtain ⟨d, -, hupdate⟩ := h
      exact absurd hupdate (hpower.requireUpdateDefinition _)

theorem target_of_admission {before : Option SuspensionState}
    (hpower : (c.authority s).IsPowerless u) (h : r.admission c s = .ok before) : r.target = .job := by
  simp only [admission, bind_eq_ok] at h
  obtain ⟨selector, -, _, hrequired, -⟩ := h
  rw [← target_normalized]
  exact target_of_require hpower hrequired

/-- What a request about jobs does is open to everybody. -/
theorem changesOpenly_outcome (h : r.target = .job) (c : Context) (before : Option SuspensionState)
    (st : State) : st.store.ChangesOpenly (r.outcome c before st).store := by
  have heffect : st.store.ChangesOpenly (r.effect st).store := by
    unfold effect
    split
    · rw [carriedOut_job h]
      refine { Store.ChangesOpenly.refl st.store with jobs := .map (fun j => ?_) _ }
      split <;> rfl
    · rename_i date _
      refine { Store.ChangesOpenly.refl st.store with deferredJobs := fun id => ?_ }
      simp only [Store.putDeferredJob, Table.get?_insert]
      split
      · rename_i hid
        exact .inr ⟨r, date, h, congrArg _ (congrArg (r.deferredJob · date) hid.symm)⟩
      · exact .inl rfl
  unfold outcome
  split
  · exact heffect.record _
  · exact heffect

end Suspension.Request

/-! ## Work on tasks -/

namespace TaskWork

/-- Working on a task of a case is open to everybody. -/
theorem changesOpenly_putTask {s : Store} {id : String} {t t' : Task}
    (hfiled : s.tasks.Filed (·.id)) (ht : s.tasks.get? id = some t) (hcase : t.IsOfCase)
    (hid : t'.id = t.id) (hcaseExecution : t'.caseExecutionId = t.caseExecutionId)
    (hexecution : t'.executionId = t.executionId) (entry : LogEntry) :
    s.ChangesOpenly ((s.putTask t').record entry) := by
  have hcase' : t'.IsOfCase := by
    unfold Task.IsOfCase at *
    rwa [hcaseExecution, hexecution]
  have hkey : t'.id = id := hid.trans (hfiled id t ht)
  have hput : s.ChangesOpenly (s.putTask t') := by
    refine { Store.ChangesOpenly.refl s with tasks := ?_ }
    rw [Store.putTask, hkey]
    exact .insert Task.ChangesOpenly.refl ht (.inr ⟨hcase, hcase', hid⟩)
  exact hput.record entry

end TaskWork

/-! ## Commands of strangers -/

section

variable {c : Context} {st st' : State} {u : Subject}

theorem Correlation.require_ne_ok {a : Authority} (hpower : a.IsPowerless u) (m : Match) :
    m.require a ≠ .ok () := by
  cases m with
  | waiting execution _ => exact hpower.requireUpdateInstance _ _
  | start definition _ => exact hpower.requireStart _

/-- A stranger may act on all targets only if there is none. -/
theorem Correlation.eq_nil_of_requireAll {a : Authority} (hpower : a.IsPowerless u)
    {targets : List Match} (h : requireAll a targets = .ok ()) : targets = [] := by
  cases targets with
  | nil => rfl
  | cons m rest =>
    obtain ⟨_, hrequired, -⟩ := bind_eq_ok.1 h
    exact absurd hrequired (require_ne_ok hpower m)

/-- **A command of a stranger that succeeds changes only what is open to everybody.** -/
theorem changesOpenly_of_run {equipment : Equipment} {command : Command} {reply : Reply}
    (hpower : (c.authority st.store).IsPowerless u) (hfiled : st.store.tasks.Filed (·.id))
    (huser : command.isOfUser) (h : (command.perform equipment).run c st = (.ok reply, st')) :
    st.store.ChangesOpenly st'.store := by
  cases command with
  | correlate m =>
    obtain ⟨target, h, -⟩ := Action.run_map_eq_ok.1 h
    obtain ⟨-, hrequired, -⟩ := Correlation.correlate_inv h
    cases Correlation.eq_nil_of_requireAll hpower hrequired
  | correlateAll m =>
    obtain ⟨targets, h, -⟩ := Action.run_map_eq_ok.1 h
    obtain ⟨-, hrequired, hdispatch⟩ := Correlation.correlateAll_inv h
    obtain rfl := Correlation.eq_nil_of_requireAll hpower hrequired
    cases hdispatch
    exact .refl _
  | receive message executionId payload =>
    obtain ⟨_, h, -⟩ := Action.run_map_eq_ok.1 h
    obtain ⟨_, _, _, -, -, hrequired, -⟩ := Correlation.receive_inv h
    exact absurd hrequired (hpower.requireUpdateInstance _ _)
  | startInstance message businessKey vars =>
    obtain ⟨_, h, -⟩ := Action.run_map_eq_ok.1 h
    obtain ⟨_, _, hrequired, -⟩ := Correlation.startInstance_inv h
    exact absurd hrequired (hpower.requireStart _)
  | setStates r =>
    obtain ⟨_, h, -⟩ := Action.run_map_eq_ok.1 h
    rw [Suspension.Request.run_perform_request, Suspension.Request.decidedRun] at h
    cases hadmission : r.admission c st.store with
    | error e =>
      rw [hadmission] at h
      cases h
    | ok before =>
      rw [hadmission] at h
      cases h
      exact Suspension.Request.changesOpenly_outcome
        (Suspension.Request.target_of_admission hpower hadmission) c before st
  | delegate taskId user =>
    obtain ⟨_, h, -⟩ := Action.run_map_eq_ok.1 h
    obtain ⟨_, _, _, entry, ht, hrequired, hstore⟩ := TaskWork.delegate_inv h
    rw [hstore]
    refine TaskWork.changesOpenly_putTask hfiled ht (hpower.requireUpdateTask hrequired) ?_ ?_ ?_ _
    all_goals rfl
  | setPriority taskId priority =>
    obtain ⟨_, h, -⟩ := Action.run_map_eq_ok.1 h
    obtain ⟨_, _, entry, ht, hrequired, hstore⟩ := TaskWork.setPriority_inv h
    rw [hstore]
    refine TaskWork.changesOpenly_putTask hfiled ht (hpower.requireUpdateTask hrequired) ?_ ?_ ?_ _
    all_goals rfl
  | newGrant kind resource =>
    obtain ⟨_, h, -⟩ := Action.run_map_eq_ok.1 h
    obtain ⟨_, hrequired, -⟩ := Action.run_authorize_bind_eq_ok.1 h
    exact absurd hrequired (hpower.require _ _ _)
  | saveGrant g =>
    obtain ⟨_, h, -⟩ := Action.run_map_eq_ok.1 h
    simp only [Administration.saveGrant, Action.run_decided_bind_eq_ok,
      Action.run_consult_bind_eq_ok] at h
    obtain ⟨_, -, known, -, h⟩ := h
    split at h <;> obtain ⟨_, hrequired, -⟩ := Action.run_authorize_bind_eq_ok.1 h
    · exact absurd hrequired (hpower.require _ _ _)
    · exact absurd hrequired (hpower.require _ _ _)
  | deleteGrant id =>
    obtain ⟨_, -, h⟩ := Action.run_decided_bind_eq_ok.1 h
    obtain ⟨_, _, h, -⟩ := Action.run_bind_eq_ok.1 h
    obtain ⟨_, -, h⟩ := Action.run_consult_bind_eq_ok.1 h
    obtain ⟨_, hrequired, -⟩ := Action.run_authorize_bind_eq_ok.1 h
    exact absurd hrequired (hpower.require _ _ _)
  | grants q =>
    cases h
    exact .refl _
  | isPermitted s permission resource resourceId =>
    cases h
    exact .refl _
  | instances q =>
    cases h
    exact .refl _
  | jobs q =>
    cases h
    exact .refl _
  | tasks q =>
    cases h
    exact .refl _
  | runDeferred j => cases huser

/-- A search of a stranger finds nothing, apart from tasks of cases. -/
theorem answeredOpenly_ask {e : Engine} (hpower : ((e.contextFor (some u)).authority
    st.store).IsPowerless u) (command : Command) :
    command.AnsweredOpenly (e.ask (some u) command st).1 := by
  cases command with
  | instances q =>
    refine congrArg (fun es => Except.ok (Reply.instances es)) (List.filter_eq_nil_iff.2 ?_)
    intro row _
    rw [Bool.not_eq_true, Bool.and_eq_false_iff]
    exact .inr (hpower.shows_guardOr _ _ _ _)
  | jobs q =>
    refine congrArg (fun js => Except.ok (Reply.jobs js)) (List.filter_eq_nil_iff.2 ?_)
    intro row _
    rw [Bool.not_eq_true, Bool.and_eq_false_iff]
    exact .inr (hpower.shows_guardOr _ _ _ _)
  | grants q =>
    refine congrArg (fun gs => Except.ok (Reply.grants gs)) (List.filter_eq_nil_iff.2 ?_)
    intro row _
    rw [Bool.not_eq_true, Bool.and_eq_false_iff]
    exact .inr (hpower.shows_guardBy _ _ _ _)
  | tasks q =>
    refine ⟨_, rfl, fun t ht => ?_⟩
    have hseen := (List.mem_filter.1 ht).2
    rw [Bool.and_eq_true, Bool.or_eq_true] at hseen
    rcases hseen.2 with hcase | hshown
    · exact hcase
    · exact absurd hshown (Bool.eq_false_iff.1 (hpower.shows_guardOr _ _ _ _))
  | _ => trivial

end

/-- **Complete mediation.** Whatever commands a stranger asks for, one after the other, nothing
changes but what is open to everybody, and searches show nothing but tasks of cases. Tasks are filed
by their ids, as the store files them; otherwise writing one task could replace another. -/
theorem stranger_changes_openly (e : Engine) (henforced : e.settings.enforced = true) (u : Subject)
    (commands : List Command) (huser : ∀ c ∈ commands, c.isOfUser) (st : State)
    (hstranger : st.store.IsStranger u) (hfiled : st.store.tasks.Filed (·.id)) :
    st.store.ChangesOpenly (e.askAll (commands.map (some u, ·)) st).2.store ∧
      List.Forall₂ Command.AnsweredOpenly commands (e.askAll (commands.map (some u, ·)) st).1 := by
  induction commands generalizing st with
  | nil => exact ⟨.refl _, .nil⟩
  | cons command rest ih =>
    have hpower := hstranger.isPowerless (c := e.contextFor (some u)) henforced rfl
    have hfirst : st.store.ChangesOpenly (e.ask (some u) command st).2.store := by
      rcases hask : e.ask (some u) command st with ⟨reason | reply, st'⟩
      · rw [Engine.store_ask_of_error hask]
        exact .refl _
      · exact changesOpenly_of_run hpower hfiled (huser _ List.mem_cons_self)
          (Engine.perform_of_ask hask)
    have hstranger' : (e.ask (some u) command st).2.store.IsStranger u := by
      rw [Store.IsStranger, hfirst.grants]
      exact hstranger
    obtain ⟨hrest, hanswers⟩ := ih (fun c hc => huser c (List.mem_cons_of_mem _ hc)) _ hstranger'
      (hfirst.filed_tasks hfiled)
    exact ⟨hfirst.trans hrest, .cons (answeredOpenly_ask hpower command) hanswers⟩

/-- A stranger hands a task of a case over and then searches for instances, next to a grant that is
about somebody else. -/
theorem stranger_delegates_task_of_case :
    let john : Subject := ⟨"john", ["staff"]⟩
    let grant : Grant := { Grant.new "g" .give .task with user := some "mary" }
    let task : Task := { Task.standalone "t" with caseExecutionId := some "c" }
    let engine := Engine.standard { enforced := true }
    let store := (Store.putTask ∅ task).putGrant grant
    let commands : List Command := [.delegate (some "t") (some "john"), .instances {}]
    store.IsStranger john ∧ store.tasks.Filed (·.id) ∧
      store.ChangesOpenly (engine.askAll (commands.map (some john, ·)) ⟨store, 0⟩).2.store ∧
      List.Forall₂ Command.AnsweredOpenly commands
        (engine.askAll (commands.map (some john, ·)) ⟨store, 0⟩).1 := by
  intro john grant task engine store commands
  have hstranger : store.IsStranger john := by
    intro g hg
    obtain rfl : g = grant := List.mem_singleton.1 hg
    exact ⟨by decide, by decide, by decide, nofun⟩
  have hfiled : store.tasks.Filed (·.id) := Table.Filed.empty.insert task
  exact ⟨hstranger, hfiled,
    stranger_changes_openly engine rfl john commands (by decide) ⟨store, 0⟩ hstranger hfiled⟩

end Workflow
