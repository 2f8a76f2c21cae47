import Workflow.Proofs.Outcomes

/-!
# Runs of an engine

What happens to an engine is that somebody asks for a command, or that it looks for deferred jobs.
A run is any number of these, one after the other.

* `Engine.askAll` asks for commands and collects the answers.
* `Engine.run` lets events happen; `run_asks` says that asking is a case of it.
* `perform_of_ask`, `store_ask_of_error`: a command that succeeds has done its work, one that fails
  nothing.
* `run_within`, `runDueJobs_within`: a run stays within a frame if every event does, and looking for
  deferred jobs if the work on one of them does; `run_keeps`, `runDueJobs_keeps` say so of
  properties of stores.
-/

namespace Workflow.Engine

open Workflow.Action (Frame Within Keeps)

/-- The engine with the handlers and the look-up that are always there and no others. -/
def standard (settings : Settings) : Engine := ⟨settings, {}⟩

/-- It is the engine that is built from the settings and nothing else. -/
theorem build_standard {settings : Settings} (h : settings.checked = .ok settings) :
    build settings [] none = .ok (standard settings) := by
  simp only [build, h, bind, Except.bind, pure, Except.pure, List.append_nil, Option.getD_none]
  rfl

/-! ## Asking -/

/-- Ask for commands one after the other, each on somebody's behalf. -/
def askAll (e : Engine) :
    List (Option Subject × Command) → State → List (Except Error Reply) × State
  | [], st => ([], st)
  | (subject, command) :: rest, st =>
    let first := e.ask subject command st
    let later := e.askAll rest first.2
    (first.1 :: later.1, later.2)

variable {e : Engine} {subject : Option Subject} {command : Command} {st : State}

/-- A command that succeeds has done what it does when it is carried out. -/
theorem perform_of_ask {reply : Reply} {st' : State}
    (h : e.ask subject command st = (.ok reply, st')) :
    (command.perform e.equipment).run (e.contextFor subject) st = (.ok reply, st') :=
  Action.run_atomically_eq_ok.1 h

/-- A command that fails leaves the store as it is. -/
theorem store_ask_of_error {reason : Error} {st' : State}
    (h : e.ask subject command st = (.error reason, st')) : st'.store = st.store :=
  Action.store_atomically_of_error h

/-! ## Events -/

/-- What can happen to an engine. -/
inductive Event where
  /-- Somebody asks for a command. -/
  | ask (subject : Option Subject) (command : Command)
  /-- The engine looks for deferred jobs that are due. -/
  | look (now : Int)

/-- Let an event happen. -/
def happen (e : Engine) (st : State) : Event → State
  | .ask subject command => (e.ask subject command st).2
  | .look now => ((e.runDueJobs now).run (e.contextFor none) st).2

/-- Let events happen one after the other. -/
def run (e : Engine) (events : List Event) (st : State) : State := events.foldl e.happen st

theorem run_asks (e : Engine) (asks : List (Option Subject × Command)) (st : State) :
    e.run (asks.map fun a => .ask a.1 a.2) st = (e.askAll asks st).2 := by
  induction asks generalizing st with
  | nil => rfl
  | cons a rest ih => exact ih (e.ask a.1 a.2 st).2

/-- If every event stays within a frame, a run does. -/
theorem run_within {R : State → State → Prop} (hR : Frame R) {e : Engine}
    (h : ∀ event st, R st (e.happen st event)) (events : List Event) (st : State) :
    R st (e.run events st) := by
  induction events generalizing st with
  | nil => exact hR.refl st
  | cons event rest ih => exact hR.trans (h event st) (ih _)

/-- What every event keeps, a run keeps. -/
theorem run_keeps {P : Store → Prop} {e : Engine}
    (h : ∀ event st, P st.store → P (e.happen st event).store) (events : List Event) {st : State}
    (hst : P st.store) : P (e.run events st).store :=
  run_within (Keeps.frame P) h events st hst

/-! ## Looking for deferred jobs -/

section

variable {R : State → State → Prop} (hR : Frame R) {e : Engine}
  (hjob : ∀ j : DeferredJob, Within R (j.perform e.equipment.handlers))
  (hfailure : ∀ (st : State) id reason left s', st.store.recordFailure id reason = .ok (left, s') →
    R st { st with store := s' })
include hR hjob hfailure

theorem runJobs_within (report : Report) (jobs : List DeferredJob) :
    Within R (e.runJobs report jobs) := by
  induction jobs generalizing report with
  | nil => exact .pure hR _
  | cons j rest ih =>
    refine Within.bind ?_ hR fun _ => ih _
    refine ((hjob j).unauthenticated.atomically hR).attempt.bind hR fun outcome => ?_
    cases outcome with
    | ok _ => exact .pure hR _
    | error reason =>
      have hnote : Within R (Action.change (·.recordFailure j.id reason.message)) :=
        .change hR fun st left s' h => hfailure st j.id reason.message left s' h
      exact hnote.map _

theorem runDueJobs_within (now : Int) : Within R (e.runDueJobs now) :=
  (Within.consult hR _).bind hR fun jobs => runJobs_within hR hjob hfailure _ jobs

end

theorem runDueJobs_keeps {P : Store → Prop} {e : Engine}
    (hjob : ∀ j : DeferredJob, Keeps P (j.perform e.equipment.handlers))
    (hfailure : ∀ s id reason left s', P s → s.recordFailure id reason = .ok (left, s') → P s')
    (now : Int) : Keeps P (e.runDueJobs now) :=
  runDueJobs_within (Keeps.frame P) (fun j => (hjob j).within)
    (fun st id reason left s' h hst => hfailure st.store id reason left s' hst h) now

end Workflow.Engine
