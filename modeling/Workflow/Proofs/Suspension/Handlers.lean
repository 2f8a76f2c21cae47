import Workflow.Proofs.Suspension.Decision

/-!
# The handlers for changes of states

There is one handler for each kind of resource and each state, registered under a type of its own.

* `find?_handlers`: the handler of a type is the one for the change that the type names.
* `perform_within`: a deferred job stays within a frame if the outcomes of requests do; so what
  these keep, deferred jobs keep (`perform_keeps`).
-/

namespace Workflow.Suspension

open Workflow.Action (Frame Within)

/-- Every handler is registered under the type of its change. -/
theorem find?_handlers (target : Target) (state : SuspensionState) :
    handlers.find? (target.handlerType state) = some (handler target state) := by
  cases target <;> cases state <;> rfl

/-- There are no other handlers. -/
theorem handler_of_find? {type : String} {h : Handler} (hfind : handlers.find? type = some h) :
    ∃ target state, h = handler target state := by
  obtain ⟨before, after, hlist, -⟩ := List.lookup_eq_some_iff.1 hfind
  have hmem : (type, h) ∈ handlers := by
    rw [← List.mem_reverse, hlist]
    simp
  obtain ⟨⟨_, target, state⟩, -, he⟩ := List.mem_map.1 hmem
  exact ⟨target, state, (congrArg Prod.snd he).symm⟩

section

variable {R : State → State → Prop} (hR : Frame R)
include hR

/-- A request does nothing or has its outcome. -/
theorem Request.perform_within (r : Request)
    (houtcome : ∀ c before st, R st (r.outcome c before st)) (o : Origin) :
    Within R (r.perform o) := by
  intro c st
  cases o with
  | request =>
    rw [run_perform_request, decidedRun]
    cases r.admission c st.store with
    | ok before => exact houtcome c before st
    | error e => exact hR.refl st
  | schedule =>
    rw [run_perform_schedule]
    cases r.admission c st.store with
    | ok before => exact houtcome c before st
    | error e => exact hR.refl st

/-- A handler does nothing or has the outcome of a request without a date. -/
theorem handler_within
    (houtcome : ∀ r : Request, r.date = none → ∀ c before st, R st (r.outcome c before st))
    (target : Target) (state : SuspensionState) (text : String) :
    Within R (handler target state text) := by
  have hchange (config : Config) : Within R
      (if config.target = target && config.state = state then config.toRequest.perform .schedule
        else Action.fail
          (.invalid (.handler (target.handlerType state) config.state config.target))) := by
    split
    · exact config.toRequest.perform_within hR (houtcome _ rfl) _
    · exact .fail hR _
  unfold handler
  cases Config.ofText? text with
  | none => exact (Within.fail hR _).bind hR hchange
  | some config => exact (Within.pure hR config).bind hR hchange

end

/-- What the outcomes of requests keep, requests keep. -/
theorem Request.perform_keeps {P : Store → Prop}
    (h : ∀ r c before st, P st.store → P (Request.outcome r c before st).store) (r : Request)
    (o : Origin) : Action.Keeps P (r.perform o) :=
  r.perform_within (Action.Keeps.frame P) (h r) o

end Workflow.Suspension

namespace Workflow.DeferredJob

open Workflow.Action (Frame Within)

/-- Running a job does what its handler does and takes it off the schedule. -/
theorem perform_within {R : State → State → Prop} (hR : Frame R)
    (houtcome : ∀ r : Suspension.Request, r.date = none → ∀ c before st,
      R st (r.outcome c before st))
    (hunschedule : ∀ (st : State) id, R st { st with store := st.store.unschedule id })
    (j : DeferredJob) : Within R (j.perform Suspension.handlers) := by
  unfold perform
  split
  · exact .fail hR _
  · rename_i handler hfind
    obtain ⟨target, state, rfl⟩ := Suspension.handler_of_find? hfind
    have hhandler := Suspension.handler_within hR houtcome target state j.configuration
    exact hhandler.unauthenticated.bind hR fun _ => .update fun st => hunschedule st j.id

/-- A job that ran is off the schedule, and the schedule is otherwise as it was. -/
theorem deferredJobs_of_perform {j : DeferredJob} {c : Context} {st st' : State}
    (h : (j.perform Suspension.handlers).run c st = (.ok (), st')) :
    st'.store.deferredJobs = st.store.deferredJobs.erase j.id := by
  have hframe : Frame fun st st' : State => st'.store.deferredJobs = st.store.deferredJobs :=
    ⟨fun _ => rfl, fun h h' => h'.trans h, fun _ => rfl⟩
  have houtcome (r : Suspension.Request) (hnow : r.date = none) (c : Context)
      (before : Option SuspensionState) (st : State) :
      (r.outcome c before st).store.deferredJobs = st.store.deferredJobs := by
    unfold Suspension.Request.outcome Suspension.Request.effect
    rw [hnow]
    split <;> rfl
  unfold perform at h
  split at h
  · cases h
  · rename_i handler hfind
    obtain ⟨target, state, rfl⟩ := Suspension.handler_of_find? hfind
    obtain ⟨_, st₁, hhandler, hlast⟩ := Action.run_bind_eq_ok.1 h
    cases hlast
    have hwithin := Suspension.handler_within hframe houtcome target state j.configuration
    have hsame : st₁.store.deferredJobs = st.store.deferredJobs :=
      hwithin.unauthenticated.of_run hhandler
    exact congrArg (·.erase j.id) hsame

/-- What the outcomes of requests and taking jobs off the schedule keep, running a job keeps. -/
theorem perform_keeps {P : Store → Prop}
    (h : ∀ r c before st, P st.store → P (Suspension.Request.outcome r c before st).store)
    (hunschedule : ∀ s id, P s → P (s.unschedule id)) (j : DeferredJob) :
    Action.Keeps P (j.perform Suspension.handlers) :=
  perform_within (Action.Keeps.frame P) (fun r _ => h r) (fun st id => hunschedule st.store id) j

end Workflow.DeferredJob
