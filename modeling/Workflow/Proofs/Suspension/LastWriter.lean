import Workflow.Proofs.Suspension.Decision

/-!
# The last request decides

When states are changed again and again, each row has the state that the last accepted request
covering it asked for. Earlier requests leave no trace, refused ones do nothing, and a request that
is put on the schedule does nothing yet.

* `lastState` is the state that some requests leave a row in.
* `LastWriterWins s requests s'` says that they lead from one store to another in this way.
* `CoversAlike`: what a request covers follows from its kind of resource, the selector that counts
  and whether it takes dependent resources along, and from ids and keys of the rows.
* `last_accepted_request_decides`: asking an engine for any sequence of requests.
-/

namespace Workflow.Suspension

/-! ## What coverage depends on -/

namespace Request

/-- Two requests cover the same rows, each in a store of its own: rows with the same ids and keys
are covered by both or by neither. -/
structure CoversAlike (r r' : Request) (s s' : Store) : Prop where
  definition : ∀ d d' : ProcessDefinition, d.id = d'.id → d.key = d'.key →
    r.coversDefinition d = r'.coversDefinition d'
  jobDefinition : ∀ d d' : JobDefinition, d.id = d'.id → d.definitionId = d'.definitionId →
    d.definitionKey = d'.definitionKey → r.coversJobDefinition d = r'.coversJobDefinition d'
  execution : ∀ e e' : Execution, e.instanceId = e'.instanceId →
    r.coversExecution s e = r'.coversExecution s' e'
  task : ∀ t t' : Task, t.instanceId = t'.instanceId → r.coversTask s t = r'.coversTask s' t'
  job : ∀ j j' : Job, j.id = j'.id → j.jobDefinitionId = j'.jobDefinitionId →
    j.instanceId = j'.instanceId → j.definitionId = j'.definitionId →
    j.definitionKey = j'.definitionKey → r.coversJob j = r'.coversJob j'

theorem picksInstance_eq {r r' : Request} (htarget : r.target = r'.target)
    (hchosen : r.chosen? = r'.chosen?) (hdependents : r.dependents = r'.dependents)
    (state : Execution → SuspensionState) (e : Execution) :
    r.picksInstance e = r'.picksInstance { e with state := state e } := by
  unfold picksInstance
  rw [htarget, hchosen, hdependents]

/-- The instances that are covered do not depend on the states of executions. -/
theorem coversInstance_eq {r r' : Request} (htarget : r.target = r'.target)
    (hchosen : r.chosen? = r'.chosen?) (hdependents : r.dependents = r'.dependents) {s s' : Store}
    {state : Execution → SuspensionState}
    (hs : s'.executions = s.executions.map fun e => { e with state := state e }) (id : String) :
    r.coversInstance s id = r'.coversInstance s' id := by
  have heq := picksInstance_eq htarget hchosen hdependents state
  rw [Bool.eq_iff_iff, coversInstance_iff, coversInstance_iff, hs, Table.rows_map]
  constructor
  · rintro ⟨i, hi, hown, hpicks, hid⟩
    exact ⟨_, List.mem_map_of_mem hi, hown, heq i ▸ hpicks, hid⟩
  · rintro ⟨_, hmem, hown, hpicks, hid⟩
    obtain ⟨i, hi, rfl⟩ := List.mem_map.1 hmem
    exact ⟨i, hi, hown, heq i ▸ hpicks, hid⟩

/-- **What a request covers follows from the selector that counts and from ids and keys.** -/
theorem coversAlike {r r' : Request} (htarget : r.target = r'.target)
    (hchosen : r.chosen? = r'.chosen?) (hdependents : r.dependents = r'.dependents) {s s' : Store}
    {state : Execution → SuspensionState}
    (hs : s'.executions = s.executions.map fun e => { e with state := state e }) :
    r.CoversAlike r' s s' where
  definition d d' hid hkey := by
    unfold coversDefinition
    rw [htarget, hchosen, hid, hkey]
  jobDefinition d d' hid hdefinition hkey := by
    unfold coversJobDefinition
    rw [htarget, hchosen, hid, hdefinition, hkey]
  execution e e' h := by
    rw [coversExecution, coversExecution, coversInstance_eq htarget hchosen hdependents hs, h]
  task t t' h := by
    simp only [coversTask, coversInstance_eq htarget hchosen hdependents hs, h]
  job j j' hid hjobDefinition hinstance hdefinition hkey := by
    unfold coversJob
    simp only [htarget, hchosen, hdependents, hid, hjobDefinition, hinstance, hdefinition, hkey]

end Request

/-! ## The last request -/

/-- The state of a row after some requests: that of the last one that covers it, or the state that
it had. -/
def lastState (requests : List Request) (covers : Request → Bool) (initial : SuspensionState) :
    SuspensionState :=
  ((requests.filter covers).getLast?.map (·.state)).getD initial

theorem lastState_cons (r : Request) (rest : List Request) (covers : Request → Bool)
    (initial : SuspensionState) :
    lastState (r :: rest) covers initial =
      lastState rest covers (if covers r then r.state else initial) := by
  unfold lastState
  by_cases h : covers r
  · rw [List.filter_cons_of_pos h, List.getLast?_cons, if_pos h]
    cases (rest.filter covers).getLast? <;> rfl
  · rw [List.filter_cons_of_neg h, if_neg h]

/-- Some requests lead from one store to another: every row has the state that the last request
covering it asks for, and nothing else about the rows has changed. -/
structure LastWriterWins (s : Store) (requests : List Request) (s' : Store) : Prop where
  definitions : s'.definitions = s.definitions.map fun d =>
    { d with state := lastState requests (·.coversDefinition d) d.state }
  jobDefinitions : s'.jobDefinitions = s.jobDefinitions.map fun d =>
    { d with state := lastState requests (·.coversJobDefinition d) d.state }
  executions : s'.executions = s.executions.map fun e =>
    { e with state := lastState requests (·.coversExecution s e) e.state }
  tasks : s'.tasks = s.tasks.map fun t =>
    { t with state := lastState requests (·.coversTask s t) t.state }
  jobs : s'.jobs = s.jobs.map fun j =>
    { j with state := lastState requests (·.coversJob j) j.state }

namespace LastWriterWins

theorem nil (s : Store) : LastWriterWins s [] s where
  definitions := (Table.map_eq_self fun _ _ => rfl).symm
  jobDefinitions := (Table.map_eq_self fun _ _ => rfl).symm
  executions := (Table.map_eq_self fun _ _ => rfl).symm
  tasks := (Table.map_eq_self fun _ _ => rfl).symm
  jobs := (Table.map_eq_self fun _ _ => rfl).symm

/-- What the audit log says plays no part. -/
theorem of_record {s s' : Store} {requests : List Request} {entry : LogEntry}
    (h : LastWriterWins (s.record entry) requests s') : LastWriterWins s requests s' :=
  ⟨h.definitions, h.jobDefinitions, h.executions, h.tasks, h.jobs⟩

/-- What waits on the schedule plays no part. -/
theorem of_putDeferredJob {s s' : Store} {requests : List Request} {j : DeferredJob}
    (h : LastWriterWins (s.putDeferredJob j) requests s') : LastWriterWins s requests s' :=
  ⟨h.definitions, h.jobDefinitions, h.executions, h.tasks, h.jobs⟩

/-- One request before the others: it has the rows changed that it covers, and the others find the
rows that they cover where they were. -/
theorem cons {s s' : Store} {r : Request} {rest : List Request}
    (h : LastWriterWins (r.carriedOut s) rest s') : LastWriterWins s (r :: rest) s' := by
  have hcovers (next : Request) (id : String) :
      next.coversInstance (r.carriedOut s) id = next.coversInstance s id :=
    (Request.coversInstance_eq rfl rfl rfl (r.carriedOut_executions s) id).symm
  constructor
  · rw [h.definitions, Request.carriedOut_definitions, Table.map_map]
    simp only [lastState_cons]
    rfl
  · rw [h.jobDefinitions, Request.carriedOut_jobDefinitions, Table.map_map]
    simp only [lastState_cons]
    rfl
  · rw [h.executions, Request.carriedOut_executions, Table.map_map]
    simp only [lastState_cons, Request.coversExecution, hcovers]
    rfl
  · rw [h.tasks, Request.carriedOut_tasks, Table.map_map]
    simp only [lastState_cons, Request.coversTask, hcovers]
    rfl
  · have hcovers (next : Request) (j : Job) (state : SuspensionState) :
        next.coversJob { j with state := state } = next.coversJob j :=
      (Request.coversAlike rfl rfl rfl (r.carriedOut_executions s)).job _ _ rfl rfl rfl rfl rfl
    rw [h.jobs, Request.carriedOut_jobs, Table.map_map]
    simp only [lastState_cons, Function.comp_def, hcovers]

/-- The outcome of an admitted request before others: it counts unless it has a date. -/
theorem of_outcome {s' : Store} {r : Request} {rest : List Request} {c : Context}
    {before : Option SuspensionState} {st : State}
    (h : LastWriterWins (r.outcome c before st).store rest s') :
    LastWriterWins st.store (if r.date.isNone then r :: rest else rest) s' := by
  have heffect : LastWriterWins (r.effect st).store rest s' := by
    unfold Request.outcome at h
    split at h
    · exact h.of_record
    · exact h
  unfold Request.effect at heffect
  cases hdate : r.date with
  | none =>
    rw [hdate] at heffect
    exact heffect.cons
  | some date =>
    rw [hdate] at heffect
    exact heffect.of_putDeferredJob

end LastWriterWins

/-! ## Asking for changes -/

/-- The requests that were carried out when they were made: those that were accepted and have no
date. -/
def carriedOutNow (requests : List Request) (answers : List (Except Error Reply)) : List Request :=
  ((requests.zip answers).filter fun p => p.1.date.isNone && p.2.isOk).map (·.1)

/-- **The last accepted request decides.** Whoever asks for whatever changes of states, in the end
every row has the state asked for by the last request that was carried out and covers it, or the
state that it had, and is otherwise as it was. What a request covers was and is settled by its kind
of resource, the selector that counts and whether it takes dependent resources along, together with
the ids and keys of the rows. -/
theorem last_accepted_request_decides (e : Engine) (asks : List (Option Subject × Request))
    (st : State) :
    let run := e.askAll (asks.map fun a => (a.1, .setStates a.2)) st
    LastWriterWins st.store (carriedOutNow (asks.map (·.2)) run.1) run.2.store ∧
      ∀ r r' : Request, r.target = r'.target → r.chosen? = r'.chosen? →
        r.dependents = r'.dependents → r.CoversAlike r' st.store run.2.store := by
  intro run
  have hwins : LastWriterWins st.store (carriedOutNow (asks.map (·.2)) run.1) run.2.store := by
    subst run
    induction asks generalizing st with
    | nil => exact .nil _
    | cons ask rest ih =>
      obtain ⟨subject, r⟩ := ask
      have hfirst := e.ask_setStates subject r st
      simp only [List.map_cons, Engine.askAll]
      cases hadmission : r.admission (e.contextFor subject) st.store with
      | error reason =>
        rw [hadmission] at hfirst
        rw [hfirst]
        simpa [carriedOutNow, Except.isOk, Except.toBool] using ih st
      | ok before =>
        rw [hadmission] at hfirst
        rw [hfirst]
        have hrest := (ih (r.outcome (e.contextFor subject) before st)).of_outcome
        cases hdate : r.date <;>
          simpa [carriedOutNow, hdate, Except.isOk, Except.toBool] using hrest
  exact ⟨hwins, fun r r' htarget hchosen hdependents =>
    Request.coversAlike htarget hchosen hdependents hwins.executions⟩

end Workflow.Suspension
