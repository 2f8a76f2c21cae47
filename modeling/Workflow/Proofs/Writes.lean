import Workflow.Proofs.Correlation.Phases
import Workflow.Proofs.Suspension.Handlers
import Workflow.Proofs.TaskWork

/-!
# What commands write

The commands that are always there write in few ways: they hand ids out, append to the audit log,
change states and tasks, put jobs on the schedule and take them off, deliver events, start
instances, save grants and delete them. A frame that each of these ways stays within is not left by
any command, by any look for deferred jobs, or by any run.

* `ServesWithin R`: the ways to write of most commands, each within the frame `R`. Instances are
  started by messages only, and grants are saved by one command only.
* `ServesWithin.perform`: every command but work on a task, whatever finds the targets of messages;
  `ServesWithin.look`: every look for deferred jobs.
* `WorksWithin R`: the ways to write of work on a task as well. `WorksWithin.perform`: every command.
* `WritesWithin R`: all ways to write. `WritesWithin.happen`, `WritesWithin.run`: every event of an
  engine, and every run.
-/

namespace Workflow

open Workflow.Action (Frame Within)

/-- What work on a task may make of it. -/
def Task.WorkedTo (t t' : Task) : Prop :=
  t' = { t with
    priority := t'.priority, assignee := t'.assignee, owner := t'.owner,
    delegation := t'.delegation }

/-- Whether a command is work on a task. -/
def Command.isTaskWork : Command → Bool
  | .delegate _ _ | .setPriority _ _ => true
  | _ => false

/-- Starting an instance stays within a frame. -/
def StartsWithin (R : State → State → Prop) : Prop :=
  ∀ (st : State) (d : ProcessDefinition) (businessKey activityId : Option String)
    (vars : Variables),
    R st
      { store := st.store.putExecution
          (.started (State.mintedId (st.minted + 1)) d businessKey activityId vars)
        minted := st.minted + 1 }

/-- Saving this grant stays within a frame, if its shape is right. -/
def SavesWithin (R : State → State → Prop) (g : Grant) : Prop :=
  g.fault? = none → ∀ st : State, R st { st with store := st.store.putGrant g }

/-- A frame that nothing leaves which commands write, other than work on tasks, new instances and
saved grants. -/
structure ServesWithin (R : State → State → Prop) : Prop extends Frame R where
  fresh (st : State) : R st { st with minted := st.minted + 1 }
  entry (st : State) (r : Suspension.Request) (c : Context) (before : Option SuspensionState) :
    R st { st with store := st.store.record (r.auditEntry c before) }
  revoke (st : State) (grants : Table Grant)
    (h : ∀ id g, grants.get? id = some g → st.store.grants.get? id = some g) :
    R st { st with store := { st.store with grants := grants } }
  states (st : State) (r : Suspension.Request) : R st { st with store := r.carriedOut st.store }
  schedule (st : State) (r : Suspension.Request) (date : Int) :
    R st
      { store := st.store.putDeferredJob (r.deferredJob (State.mintedId (st.minted + 1)) date)
        minted := st.minted + 1 }
  unschedule (st : State) (id : String) : R st { st with store := st.store.unschedule id }
  failure (st : State) (id reason : String) (left : Nat) (s' : Store)
    (h : st.store.recordFailure id reason = .ok (left, s')) : R st { st with store := s' }
  deliver (st : State) (subscription : Subscription) (payload : Option Variables) (s' : Store)
    (h : st.store.deliver subscription payload = .ok s') : R st { st with store := s' }

/-- A frame that nothing leaves which commands write, other than new instances and saved grants. -/
structure WorksWithin (R : State → State → Prop) : Prop extends ServesWithin R where
  record (st : State) (entry : LogEntry) : R st { st with store := st.store.record entry }
  entry st _ _ _ := record st _
  task (st : State) (id : String) (t t' : Task) (h : st.store.tasks.get? id = some t)
    (hwork : t.WorkedTo t') : R st { st with store := st.store.putTask t' }

/-- A frame that nothing leaves which commands write. -/
structure WritesWithin (R : State → State → Prop) : Prop extends WorksWithin R where
  start : StartsWithin R
  save : ∀ g, SavesWithin R g

namespace ServesWithin

variable {R : State → State → Prop} (h : ServesWithin R)
include h

/-! ## Changes of states and deferred jobs -/

theorem outcome (r : Suspension.Request) (c : Context) (before : Option SuspensionState)
    (st : State) : R st (r.outcome c before st) := by
  have heffect : R st (r.effect st) := by
    unfold Suspension.Request.effect
    split
    · exact h.states st r
    · exact h.schedule st r _
  unfold Suspension.Request.outcome
  split
  · exact h.trans heffect (h.entry _ r c before)
  · exact heffect

theorem deferred (j : DeferredJob) : Within R (j.perform Suspension.handlers) :=
  j.perform_within h.toFrame (fun r _ => h.outcome r) h.unschedule

/-! ## Messages -/

theorem deliverEvent (subscription : Subscription) (payload : Option Variables) :
    Within R (Correlation.deliver subscription payload) :=
  .modify h.toFrame fun st s' => h.deliver st subscription payload s'

theorem receive (name executionId : Option String) (payload : Option Variables) :
    Within R (Correlation.receive name executionId payload) := by
  have hR := h.toFrame
  refine (Within.decided hR _).bind hR fun id => (Within.consult hR _).bind hR fun sub => ?_
  refine (Within.consult hR _).bind hR fun owner => (Within.authorize hR _).bind hR fun _ => ?_
  exact h.deliverEvent sub payload

section

variable (hstart : StartsWithin R)
include hstart

omit h in
theorem startInstance (d : ProcessDefinition) (businessKey activityId : Option String)
    (vars : Variables) : Within R (Correlation.start d businessKey activityId vars) :=
  fun _ st => hstart st d businessKey activityId vars

theorem dispatch (m : Correlation.Message) (target : Correlation.Match) :
    Within R (m.dispatch target) := by
  cases target with
  | waiting execution subscription => exact h.deliverEvent _ _
  | start d activityId => exact (startInstance hstart _ _ _ _).discard

theorem dispatchAll (m : Correlation.Message) (targets : List Correlation.Match) :
    Within R (m.dispatchAll targets) := by
  induction targets with
  | nil => exact .pure h.toFrame _
  | cons target rest ih => exact (h.dispatch hstart m target).bind h.toFrame fun _ => ih

theorem correlate (l : Correlation.Lookup) (m : Correlation.Message) :
    Within R (Correlation.correlate l m) := by
  have hR := h.toFrame
  refine (Within.decided hR _).bind hR fun _ => (Within.consult hR _).bind hR fun candidates => ?_
  refine (Within.authorize hR _).bind hR fun _ => (Within.decided hR _).bind hR fun target => ?_
  exact (h.dispatch hstart m target).bind hR fun _ => .pure hR _

theorem correlateAll (l : Correlation.Lookup) (m : Correlation.Message) :
    Within R (Correlation.correlateAll l m) := by
  have hR := h.toFrame
  refine (Within.decided hR _).bind hR fun _ => (Within.consult hR _).bind hR fun targets => ?_
  refine (Within.authorize hR _).bind hR fun _ => ?_
  exact (h.dispatchAll hstart m targets).bind hR fun _ => .pure hR _

theorem startByMessage (name businessKey : Option String) (vars : Variables) :
    Within R (Correlation.startInstance name businessKey vars) := by
  have hR := h.toFrame
  unfold Correlation.startInstance
  cases name with
  | none => exact (Within.fail hR _).bind hR fun name =>
      (Within.consult hR _).bind hR fun sub => (Within.consult hR _).bind hR fun d =>
        (Within.authorize hR _).bind hR fun _ => startInstance hstart _ _ _ _
  | some name => exact (Within.pure hR _).bind hR fun name =>
      (Within.consult hR _).bind hR fun sub => (Within.consult hR _).bind hR fun d =>
        (Within.authorize hR _).bind hR fun _ => startInstance hstart _ _ _ _

end

/-! ## Grants -/

theorem newGrant (kind : GrantKind) (resource : Resource) :
    Within R (Administration.newGrant kind resource) :=
  (Within.authorize h.toFrame _).bind h.toFrame fun _ =>
    Within.bind (fun _ st => h.fresh st) h.toFrame fun _ => .pure h.toFrame _

theorem saveGrant {g : Grant} (hsave : SavesWithin R g) :
    Within R (Administration.saveGrant g) := by
  intro c st
  refine Within.run_decided_bind h.toFrame fun _ hsound => ?_
  have hput : ∀ st : State, R st { st with store := st.store.putGrant g } := by
    refine hsave ?_
    unfold Administration.requireSound at hsound
    split at hsound
    · cases hsound
    · assumption
  refine Within.run_consult_bind h.toFrame fun known _ => ?_
  dsimp only
  split
  · refine (Within.authorize h.toFrame _).bind h.toFrame (fun _ => Within.bind ?_ h.toFrame
      fun _ => .pure h.toFrame _) c st
    refine .modify h.toFrame fun st s' hs => ?_
    unfold Store.replaceGrant at hs
    split at hs <;> cases hs
    exact hput st
  · refine (Within.authorize h.toFrame _).bind h.toFrame (fun _ => Within.bind ?_ h.toFrame
      fun _ => .pure h.toFrame _) c st
    refine .modify h.toFrame fun st s' hs => ?_
    unfold Store.addGrant at hs
    split at hs <;> cases hs
    exact hput st

theorem eraseGrant (st : State) (id : String) :
    R st { st with store := st.store.eraseGrant id } := by
  refine h.revoke st _ fun k g hg => ?_
  rw [Table.get?_erase] at hg
  split at hg
  · cases hg
  · exact hg

theorem eraseGrantsOn (st : State) (resource : Resource) (id : String) :
    R st { st with store := st.store.eraseGrantsOn resource id } := by
  refine h.revoke st _ fun k g hg => ?_
  rw [Table.get?_filter] at hg
  exact (Option.filter_eq_some_iff.1 hg).1

theorem deleteGrant (id : String) : Within R (Administration.deleteGrant id) := by
  have hR := h.toFrame
  refine (Within.consult hR _).bind hR fun g => (Within.authorize hR _).bind hR fun _ => ?_
  refine Within.bind (.update fun st => h.eraseGrant st _) hR fun _ => .discard ?_
  refine (Within.pure hR _).bind hR fun id => (Within.context hR).bind hR fun c => ?_
  split
  · refine .change hR fun st count s' hs => ?_
    cases hs
    exact h.eraseGrantsOn st _ _
  · exact .pure hR _

/-! ## Commands and looks -/

/-- **Every command but work on a task stays within the frame**, provided that new instances do, if
it delivers messages, and that the grant does which it saves, if it saves one. -/
theorem perform (l : Correlation.Lookup) (command : Command) (htask : command.isTaskWork = false)
    (hstart : command.isMessage → StartsWithin R)
    (hsave : ∀ g, command = .saveGrant g → SavesWithin R g) :
    Within R (command.perform ⟨Suspension.handlers, l⟩) := by
  have hR := h.toFrame
  cases command with
  | delegate | setPriority => cases htask
  | correlate m => exact (h.correlate (hstart rfl) l m).map _
  | correlateAll m => exact (h.correlateAll (hstart rfl) l m).map _
  | receive message executionId payload => exact (h.receive _ _ _).map _
  | startInstance message businessKey vars => exact (h.startByMessage (hstart rfl) _ _ _).map _
  | setStates r => exact (r.perform_within hR (h.outcome r) _).map _
  | newGrant kind resource => exact (h.newGrant _ _).map _
  | saveGrant g => exact (h.saveGrant (hsave g rfl)).map _
  | deleteGrant id =>
    exact (Within.decided hR _).bind hR fun id => (h.deleteGrant id).bind hR fun _ => .pure hR _
  | grants q => exact (Within.consult hR _).map _
  | isPermitted s permission resource resourceId => exact .authorize hR _
  | instances q => exact (Within.consult hR _).map _
  | jobs q => exact (Within.consult hR _).map _
  | tasks q => exact (Within.consult hR _).map _
  | runDeferred j => exact (h.deferred j).map _

/-- **Every look for deferred jobs stays within the frame.** -/
theorem look (settings : Settings) (l : Correlation.Lookup) (now : Int) :
    Within R ((Engine.mk settings ⟨Suspension.handlers, l⟩).runDueJobs now) :=
  Engine.runDueJobs_within h.toFrame h.deferred h.failure now

end ServesWithin

namespace WorksWithin

variable {R : State → State → Prop} (h : WorksWithin R)
include h

/-! ## Tasks -/

/-- A task that was found is put back after some work, and the audit log gets an entry. -/
theorem work {c : Context} {st : State} {id : String} {t : Task}
    (ht : st.store.tasks.get? id = some t) (t' : Task) (hwork : t.WorkedTo t')
    (entry : LogEntry) :
    R st ((do Action.modify (·.replaceTask t'); Action.audit entry : Action Unit).run c st).2 := by
  rw [Action.run_bind, Action.run_modify]
  cases hreplace : st.store.replaceTask t' with
  | error e => exact h.refl st
  | ok s' =>
    obtain rfl := TaskWork.replaceTask_inv hreplace
    exact h.trans (h.task st id t t' ht hwork) (h.record _ _)

/-- Work on a task begins with finding it. -/
theorem find {f : Task → Action Unit} {c : Context} {st : State} (taskId : Option String)
    (hf : ∀ id t, st.store.tasks.get? id = some t → R st ((f t).run c st).2) :
    R st ((TaskWork.find taskId >>= f).run c st).2 := by
  rw [TaskWork.find, bind_assoc]
  refine Within.run_decided_bind h.toFrame fun id _ => Within.run_consult_bind h.toFrame ?_
  intro t ht
  split at ht <;> cases ht
  exact hf id t ‹_›

theorem delegate (taskId user : Option String) : Within R (TaskWork.delegate taskId user) := by
  intro c st
  refine h.find taskId fun id t ht => Within.run_decided_bind h.toFrame fun user _ => ?_
  exact Within.run_consult_bind h.toFrame fun _ _ => h.work ht (t.delegate user) rfl _

theorem setPriority (taskId : Option String) (priority : Int) :
    Within R (TaskWork.setPriority taskId priority) := by
  intro c st
  refine h.find taskId fun id t ht => ?_
  exact Within.run_consult_bind h.toFrame fun _ _ =>
    h.work ht { t with priority := priority } rfl _

/-- **Every command stays within the frame**, provided that new instances do, if it delivers
messages, and that the grant does which it saves, if it saves one. -/
theorem perform (l : Correlation.Lookup) (command : Command)
    (hstart : command.isMessage → StartsWithin R)
    (hsave : ∀ g, command = .saveGrant g → SavesWithin R g) :
    Within R (command.perform ⟨Suspension.handlers, l⟩) := by
  cases htask : command.isTaskWork with
  | false => exact h.toServesWithin.perform l command htask hstart hsave
  | true =>
    cases command with
    | delegate taskId user => exact (h.delegate _ _).map _
    | setPriority taskId priority => exact (h.setPriority _ _).map _
    | _ => cases htask

end WorksWithin

/-! ## Events and runs -/

namespace WritesWithin

variable {R : State → State → Prop} (h : WritesWithin R)
include h

theorem perform (l : Correlation.Lookup) (command : Command) :
    Within R (command.perform ⟨Suspension.handlers, l⟩) :=
  h.toWorksWithin.perform l command (fun _ => h.start) fun g _ => h.save g

theorem happen (settings : Settings) (l : Correlation.Lookup) (event : Engine.Event) (st : State) :
    R st ((Engine.mk settings ⟨Suspension.handlers, l⟩).happen st event) := by
  cases event with
  | ask subject command => exact (h.perform l command).atomically h.toFrame _ st
  | look now => exact h.look settings l now _ st

/-- **Every run stays within the frame.** -/
theorem run (settings : Settings) (l : Correlation.Lookup) (events : List Engine.Event)
    (st : State) : R st ((Engine.mk settings ⟨Suspension.handlers, l⟩).run events st) :=
  Engine.run_within h.toFrame (h.happen settings l) events st

end WritesWithin

end Workflow
