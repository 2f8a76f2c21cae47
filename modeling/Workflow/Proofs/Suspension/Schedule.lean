import Workflow.Proofs.Suspension.Config
import Workflow.Proofs.Suspension.Free
import Workflow.Proofs.Suspension.Handlers

/-!
# A change on the schedule is the change, later

A request with a date that is accepted puts one job on the schedule and changes nothing else but the
audit log. Whatever happens then, running the job does what the same request without a date does at
that time on nobody's behalf, or nothing if its resources are gone.

* `Request.now` is the request without its date; `toRequest_ofRequest` says that it is what the
  schedule keeps.
* `Engine.ask_runDeferred`: what running the job does.
* `scheduled_change_is_change_later`: scheduling and running together.
-/

namespace Workflow

/-- The rows and deliveries of a store, without the schedule and the audit log. -/
def Store.entities (s : Store) : Store := { s with deferredJobs := ∅, log := [] }

namespace Suspension

/-! ## The request that the schedule keeps -/

namespace Request

/-- The request to be carried out without waiting. -/
def now (r : Request) : Request := { r with date := none }

theorem toRequest_ofRequest (r : Request) :
    (Config.ofRequest r.normalized).toRequest = { r.now with audited := true }.normalized := by
  obtain ⟨target, _, _, _, _, _⟩ := r
  cases target <;> rfl

theorem selector_now (r : Request) : r.now.normalized.selector = r.normalized.selector := by
  obtain ⟨target, _, _, _, _, _⟩ := r
  cases target <;> rfl

theorem admission_normalized (r : Request) (c : Context) (s : Store) :
    r.normalized.admission c s = r.admission c s := by
  simp only [admission, normalized_normalized, date_normalized]

theorem outcome_normalized (r : Request) (c : Context) (before : Option SuspensionState)
    (st : State) : r.normalized.outcome c before st = r.outcome c before st := by
  simp only [outcome, effect, deferredJob, auditEntry, normalized_normalized, date_normalized,
    audited_normalized, target_normalized, state_normalized, carriedOut_normalized]

/-- The entities are those that the effect leaves, whether or not there is an entry in the log. -/
theorem entities_outcome (r : Request) (c : Context) (before : Option SuspensionState)
    (st : State) : (r.outcome c before st).store.entities = (r.effect st).store.entities := by
  unfold outcome
  split <;> rfl

end Request

end Suspension

/-! ## Running the job -/

namespace Suspension

/-- The handler makes the request that the schedule kept. -/
theorem run_handler (r : Request) (c : Context) (st : State) :
    (handler r.target r.state (Config.ofRequest r.normalized).text).run c st =
      match r.now.admission c st.store with
      | .ok before => (.ok (), Request.outcome { r.now with audited := true } c before st)
      | .error e => (if e.isMissing then .ok () else .error e, st) := by
  have hkind : (Config.ofRequest r.normalized).target = r.target ∧
      (Config.ofRequest r.normalized).state = r.state :=
    ⟨r.target_normalized, r.state_normalized⟩
  simp only [handler, Config.ofText?_text, pure_bind, hkind, decide_true, Bool.and_self, if_true]
  rw [Request.toRequest_ofRequest, Request.run_perform_schedule, Request.admission_normalized,
    Request.admission_audited]
  cases r.now.admission c st.store with
  | ok before => simp only [Request.outcome_normalized]
  | error e => rfl

end Suspension

namespace Engine

/-- What a deferred job does: the request that the schedule kept, on nobody's behalf, unless
something that it needs is gone. -/
theorem ask_runDeferred (settings : Settings) {r : Suspension.Request}
    {selector : Suspension.RowSelector} (hselector : r.normalized.selector = .ok selector)
    {job : DeferredJob} (htype : job.handlerType = r.target.handlerType r.state)
    (hconfiguration : job.configuration = (Suspension.Config.ofRequest r.normalized).text)
    (subject : Option Subject) (st : State) :
    (standard settings).ask subject (.runDeferred job) st =
      match r.now.admission ((standard settings).contextFor none) st.store with
      | .ok before =>
        let st' := Suspension.Request.outcome { r.now with audited := true }
          ((standard settings).contextFor none) before st
        (.ok .done, { st' with store := st'.store.unschedule job.id })
      | .error _ => (.ok .done, { st with store := st.store.unschedule job.id }) := by
  let nobody := (standard settings).contextFor none
  have hmissing := Suspension.Request.onlyMissing_admission (c := nobody) (.inr rfl)
    (r.selector_now.trans hselector) st.store
  have hperform :
      (job.perform Suspension.handlers).run ((standard settings).contextFor subject) st =
      match r.now.admission nobody st.store with
      | .ok before =>
        let st' := Suspension.Request.outcome { r.now with audited := true } nobody before st
        (.ok (), { st' with store := st'.store.unschedule job.id })
      | .error _ => (.ok (), { st with store := st.store.unschedule job.id }) := by
    have hcontext : ((standard settings).contextFor subject).unauthenticated = nobody := rfl
    rw [DeferredJob.perform, htype, Suspension.find?_handlers, hconfiguration]
    dsimp only
    rw [Action.run_bind, Action.run_unauthenticated, hcontext, Suspension.run_handler]
    cases hadmission : r.now.admission nobody st.store with
    | ok before => rfl
    | error e =>
      dsimp only
      rw [hmissing e hadmission, if_pos rfl]
      rfl
  cases hadmission : r.now.admission nobody st.store with
  | ok before =>
    rw [hadmission] at hperform
    exact Action.run_atomically_eq_ok.2 (Action.run_map_eq_ok.2 ⟨(), hperform, rfl⟩)
  | error e =>
    rw [hadmission] at hperform
    exact Action.run_atomically_eq_ok.2 (Action.run_map_eq_ok.2 ⟨(), hperform, rfl⟩)

end Engine

namespace Suspension

/-! ## Scheduling -/

/-- Running a job is making a request now, on nobody's behalf, except that it succeeds in any case:
it is taken off the schedule, and where the request fails because something is missing, nothing else
happens. -/
structure RunsAs (settings : Settings) (subject : Option Subject) (job : DeferredJob) (r : Request)
    (st : State) : Prop where
  done : ((Engine.standard settings).ask subject (.runDeferred job) st).1 = .ok .done
  removed : ((Engine.standard settings).ask subject (.runDeferred job) st).2.store.deferredJobs =
    st.store.deferredJobs.erase job.id
  entities :
    ((Engine.standard settings).ask none (.setStates r) st).1 = .ok .done ∧
        ((Engine.standard settings).ask subject (.runDeferred job) st).2.store.entities =
          ((Engine.standard settings).ask none (.setStates r) st).2.store.entities ∨
      (∃ what, ((Engine.standard settings).ask none (.setStates r) st).1 = .error (.missing what)) ∧
        ((Engine.standard settings).ask subject (.runDeferred job) st).2.store.entities =
          st.store.entities ∧
        ((Engine.standard settings).ask subject (.runDeferred job) st).2.store.log = st.store.log

/-- A request that is made now leaves the schedule alone. -/
theorem deferredJobs_outcome_now (r : Request) (audited : Bool) (c : Context)
    (before : Option SuspensionState) (st : State) :
    (Request.outcome { r.now with audited := audited } c before st).store.deferredJobs =
      st.store.deferredJobs := by
  unfold Request.outcome
  split <;> rfl

theorem runsAs {settings : Settings} {r : Request} {selector : RowSelector}
    (hselector : r.normalized.selector = .ok selector) {job : DeferredJob}
    (htype : job.handlerType = r.target.handlerType r.state)
    (hconfiguration : job.configuration = (Config.ofRequest r.normalized).text)
    (subject : Option Subject) (st : State) : RunsAs settings subject job r.now st := by
  have hrun := Engine.ask_runDeferred settings hselector htype hconfiguration subject st
  have hdirect := (Engine.standard settings).ask_setStates none r.now st
  have hmissing := Request.onlyMissing_admission (c := (Engine.standard settings).contextFor none)
    (.inr rfl) (r.selector_now.trans hselector) st.store
  cases hadmission : r.now.admission ((Engine.standard settings).contextFor none) st.store with
  | ok before =>
    rw [hadmission] at hrun hdirect
    dsimp only at hrun hdirect
    refine ⟨by rw [hrun], ?_, .inl ⟨by rw [hdirect], ?_⟩⟩
    · rw [hrun]
      exact congrArg (·.erase job.id) (deferredJobs_outcome_now r true _ before st)
    · rw [hrun, hdirect]
      exact (Request.entities_outcome _ _ before st).trans
        (Request.entities_outcome r.now _ before st).symm
  | error e =>
    rw [hadmission] at hrun hdirect
    dsimp only at hrun hdirect
    have he := hmissing e hadmission
    cases e with
    | missing what =>
      refine ⟨by rw [hrun], by rw [hrun]; rfl, .inr ⟨⟨what, by rw [hdirect]⟩, ?_, ?_⟩⟩
      · rw [hrun]
        rfl
      · rw [hrun]
        rfl
    | _ => cases he

/-- A request with a date puts a job on the schedule and changes no entity. The job has a handler
and keeps the request; as long as it is there, however often it failed, and whatever else has
changed, running it is making the request at that time. -/
structure Schedules (settings : Settings) (subject : Option Subject) (r : Request) (date : Int)
    (st : State) (job : DeferredJob) : Prop where
  due : job.dueDate = date
  handled : ∃ handler, handlers.find? job.handlerType = some handler
  kept : Config.ofText? job.configuration = some (Config.ofRequest r.normalized)
  fresh : st.store.deferredJobs.get? job.id = none
  scheduled : ((Engine.standard settings).ask subject (.setStates r) st).2.store.deferredJobs =
    st.store.deferredJobs.insert job.id job
  entities : ((Engine.standard settings).ask subject (.setStates r) st).2.store.entities =
    st.store.entities
  later : ∀ (settings' : Settings) (subject' : Option Subject) (st' : State) (retries : Nat)
    (failure : Option String),
    st'.store.deferredJobs.get? job.id =
        some { job with retries := retries, failure := failure } →
      RunsAs settings' subject' { job with retries := retries, failure := failure } r.now st'

/-- **A scheduled change is the immediate change, later.** -/
theorem scheduled_change_is_change_later (settings : Settings) (subject : Option Subject)
    (r : Request) (date : Int) (hdate : r.date = some date) (st : State)
    (hfresh : st.store.deferredJobs.get? (State.mintedId (st.minted + 1)) = none)
    (haccepted : ((Engine.standard settings).ask subject (.setStates r) st).1 = .ok .done) :
    ∃ job, Schedules settings subject r date st job := by
  have hask := (Engine.standard settings).ask_setStates subject r st
  cases hadmission :
    r.admission ((Engine.standard settings).contextFor subject) st.store with
  | error reason =>
    rw [hadmission] at hask
    rw [hask] at haccepted
    cases haccepted
  | ok before =>
  rw [hadmission] at hask
  dsimp only at hask
  obtain ⟨selector, hselector, -⟩ := bind_eq_ok.1 hadmission
  refine ⟨r.deferredJob (State.mintedId (st.minted + 1)) date, rfl, ⟨_, find?_handlers _ _⟩,
    Config.ofText?_text _, hfresh, ?_, ?_, fun settings' subject' later retries failure _ =>
      runsAs hselector rfl rfl subject' later⟩
  · rw [hask]
    dsimp only
    unfold Request.outcome Request.effect
    rw [hdate]
    split <;> rfl
  · rw [hask, Request.entities_outcome]
    unfold Request.effect
    rw [hdate]
    rfl

/-- The suspension of a process with all that depends on it is put on the schedule. By the time that
the job runs a second instance was started: the definition, both instances, the job definition and
the job of the first instance are suspended, and the schedule is empty. -/
theorem suspension_of_process_scheduled_and_run :
    let definition := ProcessDefinition.new "p" "order" 1
    let first := Execution.instanceOf "i" definition
    let second := Execution.instanceOf "k" definition
    let shipping := JobDefinition.new "d" "order:1:p" "order" "ship" "async"
    let job := Job.ofDefinition "j" shipping "i"
    let store :=
      ((((∅ : Store).putDefinition definition).putExecution first).putJobDefinition
        shipping).putJob job
    let r : Request :=
      { Request.new .processDefinition .suspended with
        selectors := { resourceId := some "order:1:p" }
        dependents := true
        date := some 10 }
    let e := Engine.standard {}
    let st := (e.ask none (.setStates r) ⟨store, 0⟩).2
    let later : State := { st with store := st.store.putExecution second }
    let suspended :=
      (((((∅ : Store).putDefinition { definition with state := .suspended }).putExecution
        { first with state := .suspended }).putExecution
        { second with state := .suspended }).putJobDefinition
        { shipping with state := .suspended }).putJob { job with state := .suspended }
    r.date = some 10 ∧ store.deferredJobs.get? (State.mintedId 1) = none ∧
      (e.ask none (.setStates r) ⟨store, 0⟩).1 = .ok .done ∧
      ∃ deferred, Schedules {} none r 10 ⟨store, 0⟩ deferred ∧
        (e.ask none (.runDeferred deferred) later).2.store.entities = suspended ∧
        (e.ask none (.runDeferred deferred) later).2.store.deferredJobs = ∅ := by
  intro definition first second shipping job store r e st later suspended
  have hask := e.ask_setStates none r ⟨store, 0⟩
  have haccepted : (e.ask none (.setStates r) ⟨store, 0⟩).1 = .ok .done := by
    rw [hask]
    rfl
  obtain ⟨deferred, hschedules⟩ :=
    scheduled_change_is_change_later {} none r 10 rfl ⟨store, 0⟩ rfl haccepted
  have hscheduled : later.store.deferredJobs = store.deferredJobs.insert deferred.id deferred :=
    hschedules.scheduled
  have hstands : later.store.deferredJobs.get? deferred.id = some deferred := by
    rw [hscheduled, Table.get?_insert, if_pos rfl]
  have hruns := hschedules.later {} none later deferred.retries deferred.failure hstands
  have hnow : (e.ask none (.setStates r.now) later).1 = .ok .done ∧
      (e.ask none (.setStates r.now) later).2.store.entities = suspended := by
    rw [e.ask_setStates none r.now later]
    exact ⟨rfl, by decide +kernel⟩
  have hremoved : later.store.deferredJobs.erase deferred.id = ∅ := by
    rw [hscheduled, Table.erase_insert]
    rfl
  refine ⟨rfl, rfl, haccepted, deferred, hschedules, ?_, hruns.removed.trans hremoved⟩
  rcases hruns.entities with ⟨-, hentities⟩ | ⟨⟨what, hmissing⟩, -⟩
  · exact hentities.trans hnow.2
  · rw [hnow.1] at hmissing
    cases hmissing

end Suspension

end Workflow
