import Workflow.Proofs.Runs
import Workflow.Proofs.Suspension.Coverage

/-!
# Requests are decided before anything is written

A request is admitted or refused by the store as it is found. What is admitted is then carried out
without fail: the requests of the cascade that follow are admitted as well, although the states
below them have been written already.

* `Request.admission` is the decision, `Request.outcome` what an admitted request does.
* `run_change`: carrying a request out is deciding it and, if it is admitted, its outcome.
* `run_perform_request`, `run_perform_schedule`: the same for a request that somebody makes and
  for one from the schedule; `Engine.ask_setStates`: for asking an engine.
-/

namespace Workflow.Suspension

namespace Request

/-! ## The decision and the outcome -/

/-- The decision on a request, by the subject of a context and a store. An admission comes with the
state that the resource had, if one is named and changes now. -/
def admission (r : Request) (c : Context) (s : Store) : Except Error (Option SuspensionState) := do
  let selector ← r.normalized.selector
  r.normalized.require selector c s
  match r.date with
  | none => r.normalized.before selector s
  | some _ => .ok none

/-- The job that carries a request out at a date. -/
def deferredJob (r : Request) (fresh : String) (date : Int) : DeferredJob :=
  .new fresh date (r.target.handlerType r.state) (Config.ofRequest r.normalized).text

/-- What a request does now: it changes states, or puts a job on the schedule. -/
def effect (r : Request) (st : State) : State :=
  match r.date with
  | none => { st with store := r.carriedOut st.store }
  | some date =>
    { store := st.store.putDeferredJob (r.deferredJob (State.mintedId (st.minted + 1)) date)
      minted := st.minted + 1 }

/-- What the audit log says of a request that somebody made. -/
def auditEntry (r : Request) (c : Context) (before : Option SuspensionState) : LogEntry :=
  { r.normalized.entry before with user := c.subject.map (·.user) }

/-- What an admitted request does: its effect, and the entry in the audit log. -/
def outcome (r : Request) (c : Context) (before : Option SuspensionState) (st : State) : State :=
  if r.audited then
    { r.effect st with store := (r.effect st).store.record (r.auditEntry c before) }
  else r.effect st

/-- The run of a request that is decided in this way. -/
def decidedRun (r : Request) (c : Context) (st : State) : Except Error Unit × State :=
  match r.admission c st.store with
  | .ok before => (.ok (), r.outcome c before st)
  | .error e => (.error e, st)

/-! ## Writing -/

section

variable {r : Request} {selector : RowSelector}

theorem picksDefinition?_eq (h : r.chosen? = some selector) (ht : r.target = .processDefinition) :
    selector.picksDefinition? = some r.coversDefinition ∧
      selector.jobDefinitions.picksJobDefinition? = some r.coversJobDefinition := by
  have hkind := kind_mem_order h
  unfold coversDefinition coversJobDefinition
  cases selector <;>
    simp_all [Target.order, RowSelector.kind, RowSelector.picksDefinition?,
      RowSelector.jobDefinitions, RowSelector.picksJobDefinition?]

theorem picksInstance?_eq (h : r.chosen? = some selector) (ht : r.target = .processInstance) :
    selector.picksInstance? = some r.picksInstance := by
  have hkind := kind_mem_order h
  unfold picksInstance
  cases selector <;> simp_all [Target.order, RowSelector.kind, RowSelector.picksInstance?]

theorem picksJobDefinition?_eq (h : r.chosen? = some selector) (ht : r.target = .jobDefinition) :
    selector.picksJobDefinition? = some r.coversJobDefinition := by
  have hkind := kind_mem_order h
  unfold coversJobDefinition
  cases selector <;> simp_all [Target.order, RowSelector.kind, RowSelector.picksJobDefinition?]

theorem picksJob_eq (h : r.chosen? = some selector) (ht : r.target = .job) :
    selector.picksJob = r.coversJob := by
  funext j
  unfold coversJob
  cases selector <;> simp [h, ht, RowSelector.picksJob]

end

theorem run_setState {r : Request} {target : Target} {selector : RowSelector} {s' : Store}
    {count : Nat} {c : Context} {st : State}
    (h : st.store.setState target selector r.state = .ok (count, s')) :
    (discard (Action.change (·.setState target selector r.state))).run c st =
      (.ok (), { st with store := s' }) := by
  change (Function.const Nat () <$> _ : Action Unit).run c st = _
  rw [Action.run_map, Action.run_change, h]
  rfl

/-- The resources themselves get their state, dependent ones do not. -/
theorem run_write {r : Request} {selector : RowSelector} (h : r.chosen? = some selector)
    (c : Context) (st : State) :
    (r.write selector).run c st = (.ok (), { st with store := r.own.carriedOut st.store }) := by
  cases ht : r.target with
  | processDefinition =>
    obtain ⟨hpicks, hpicks'⟩ := picksDefinition?_eq h ht
    simp only [write, ht]
    rw [Action.run_bind_ok (run_setState (by simp only [Store.setState, hpicks]; rfl)),
      run_setState (by simp only [Store.setState, hpicks']; rfl), carriedOut_own_definition ht]
  | processInstance =>
    simp only [write, ht]
    rw [Action.run_bind_ok
      (run_setState (by simp only [Store.setState, picksInstance?_eq h ht]; rfl)),
      carriedOut_own_instance ht]
    rfl
  | jobDefinition =>
    simp only [write, ht]
    rw [Action.run_bind_ok
      (run_setState (by simp only [Store.setState, picksJobDefinition?_eq h ht]; rfl)),
      carriedOut_own_jobDefinition ht]
    rfl
  | job =>
    have hall : r.normalized.cascade? = none := by
      simp [cascade?, ht]
    simp only [write, ht]
    rw [Action.run_bind_ok
      (run_setState (by simp only [Store.setState, picksJob_eq h ht]; rfl)),
      carriedOut_own hall, carriedOut_job ht]
    rfl

theorem own_normalized (r : Request) : r.normalized.own = r.own.normalized := by
  obtain ⟨target, _, _, _, _, _⟩ := r
  cases target <;> rfl

/-! ## The cascade is admitted -/

/-- A definition is still there under its id when states have changed, with the same key. -/
theorem row_definitions_carriedOut (r : Request) (s : Store) (id : String) :
    (Store.row (r.carriedOut s).definitions .processDefinition id).map (·.key) =
      (Store.row s.definitions .processDefinition id).map (·.key) := by
  have hrows : (r.carriedOut s).definitions = s.definitions.map fun d =>
      if r.coversDefinition d then { d with state := r.state } else d := rfl
  rw [hrows, Store.row, Store.row, Table.get?_map]
  cases s.definitions.get? id with
  | none => rfl
  | some d =>
    simp only [Option.map_some, Except.map]
    split <;> rfl

theorem authority_carriedOut (r : Request) (c : Context) (s : Store) :
    c.authority (r.carriedOut s) = c.authority s := rfl

/-- The selector of a cascade is never the id of a resource. -/
theorem before_below {r : Request} {target : Target} {selector : RowSelector} (s : Store)
    (h : target ≠ .job) : r.before (selector.below target) s = .ok none := by
  cases selector <;> cases target <;> simp_all [before, RowSelector.below]

/-- What is required for definitions includes what is required for their instances. -/
theorem require_below {r next : Request} {selector : RowSelector} {c : Context} {s s' : Store}
    (hrequired : r.require selector c s = .ok ()) (hkind : selector.kind ∈ r.target.order)
    (hr : r.target = .processDefinition) (hnext : next.target = .processInstance)
    (hdependents : r.dependents = true) (hgrants : c.authority s' = c.authority s)
    (hdefinitions : ∀ id, (Store.row s'.definitions .processDefinition id).map (·.key) =
      (Store.row s.definitions .processDefinition id).map (·.key)) :
    next.require (selector.below r.target) c s' = .ok () := by
  cases selector with
  | processDefinitionKey v =>
    simp only [require, hr, hdependents, if_true, bind_eq_ok] at hrequired
    obtain ⟨_, hkey, -, -, hinstances⟩ := hrequired
    obtain rfl := Except.ok.inj hkey
    simpa only [require, hnext, RowSelector.below, hgrants] using hinstances
  | id v =>
    simp only [require, hr, hdependents, if_true, bind_eq_ok, RowSelector.value] at hrequired
    obtain ⟨key, hkey, -, -, hinstances⟩ := hrequired
    simp only [require, hnext, hr, RowSelector.below, Context.requireUpdateInstances, hgrants]
    rw [← hdefinitions] at hkey
    cases hrow : Store.row s'.definitions .processDefinition v with
    | error e =>
      rw [hrow] at hkey
      cases hkey
    | ok d =>
      rw [hrow] at hkey
      obtain rfl := Except.ok.inj hkey
      exact hinstances
  | _ => simp [hr, Target.order, RowSelector.kind] at hkind

theorem admission_cascade {r next : Request} {selector : RowSelector} {c : Context} {s : Store}
    (hsel : r.normalized.selector = .ok selector)
    (hrequired : r.normalized.require selector c s = .ok ())
    (hnext : r.normalized.cascade? = some next) :
    next.admission c (r.own.carriedOut s) = .ok none := by
  have hkind := kind_mem_order (chosen?_of_selector hsel)
  obtain ⟨hdependents, -, hdate, hcase⟩ := cascade?_inv hnext
  simp only [target_normalized] at hcase
  have hne : r.target ≠ .job := by
    rcases hcase with ⟨ht, -⟩ | ⟨ht | ht, -⟩ <;> simp [ht]
  have hrequired' : next.normalized.require (selector.below r.target) c (r.own.carriedOut s) =
      .ok () := by
    rcases hcase with ⟨ht, ht', -⟩ | ⟨-, ht'⟩
    · rw [← target_normalized r]
      exact require_below hrequired (by simpa using hkind) (by simpa using ht) (by simpa using ht')
        hdependents (authority_carriedOut ..) (row_definitions_carriedOut r.own s)
    · simp only [require, target_normalized, ht']
  simp only [admission, selector_cascade hsel hnext, hrequired', hdate, before_below _ hne, bind,
    Except.bind]

/-- Whether the audit log gets an entry plays no part in the decision. -/
theorem admission_audited (r : Request) (audited : Bool) (c : Context) (s : Store) :
    admission { r with audited := audited } c s = r.admission c s := by
  obtain ⟨target, _, _, _, _, _⟩ := r
  cases target <;> rfl

/-- The next request of the cascade leaves the store as if the request had been carried out. -/
theorem decidedRun_cascade {r next : Request} {selector : RowSelector} {c : Context} {st : State}
    (hsel : r.normalized.selector = .ok selector)
    (hrequired : r.normalized.require selector c st.store = .ok ())
    (hnext : r.normalized.cascade? = some next) :
    decidedRun { next with audited := false } c { st with store := r.own.carriedOut st.store } =
      (.ok (), { st with store := r.carriedOut st.store }) := by
  obtain ⟨-, -, hdate, -⟩ := cascade?_inv hnext
  rw [decidedRun, admission_audited, admission_cascade hsel hrequired hnext]
  simp only [outcome, Bool.false_eq_true, if_false, effect, hdate]
  rw [← carriedOut_cascade hsel hnext]
  rfl

/-! ## Carrying out -/

/-- The last step, the entry in the audit log, makes an effect the outcome. -/
theorem run_auditEntry (r : Request) (before : Option SuspensionState) (c : Context) (st : State) :
    (if r.normalized.audited then Action.audit (r.normalized.entry before) else pure ()).run c
      (r.effect st) = (.ok (), r.outcome c before st) := by
  rw [audited_normalized]
  unfold outcome
  split <;> rfl

theorem run_changeWith {r : Request} {nested : Request → Action Unit} {c : Context} {st : State}
    (hnested : ∀ next selector, r.normalized.selector = .ok selector →
      r.normalized.require selector c st.store = .ok () →
      r.normalized.cascade? = some next →
      (nested { next with audited := false }).run c
          { st with store := r.own.carriedOut st.store } =
        (.ok (), { st with store := r.carriedOut st.store })) :
    (changeWith nested r).run c st = r.decidedRun c st := by
  unfold changeWith
  extract_lets r' jp
  have haudit (before : Option SuspensionState) :
      (jp before).run c (r.effect st) = (.ok (), r.outcome c before st) :=
    run_auditEntry r before c st
  rw [Action.run_decided_bind]
  cases hsel : r.normalized.selector with
  | error e => simp [decidedRun, admission, hsel, bind, Except.bind]
  | ok selector =>
  dsimp only
  rw [Action.run_consult_bind]
  cases hrequired : r.normalized.require selector c st.store with
  | error e => simp [decidedRun, admission, hsel, hrequired, bind, Except.bind]
  | ok _ =>
  dsimp only
  rw [show r'.date = r.date from date_normalized r]
  cases hdate : r.date with
  | some date =>
    have hadmission : r.admission c st.store = .ok none := by
      simp [admission, hsel, hrequired, hdate, bind, Except.bind]
    have hschedule : (r'.schedule date).run c st = (.ok (), r.effect st) := by
      simp only [effect, hdate, deferredJob]
      rw [← target_normalized, ← state_normalized]
      rfl
    rw [decidedRun, hadmission]
    dsimp only
    rw [Action.run_bind_ok hschedule]
    exact haudit none
  | none =>
    rw [effect, hdate] at haudit
    dsimp only at haudit ⊢
    have hwrite : (r'.write selector).run c st =
        (.ok (), { st with store := r.own.carriedOut st.store }) := by
      rw [run_write (by rw [chosen?_normalized, chosen?_of_selector hsel]), own_normalized,
        carriedOut_normalized]
    rw [Action.run_consult_bind]
    cases hbefore : r.normalized.before selector st.store with
    | error e => simp [decidedRun, admission, hsel, hrequired, hdate, hbefore, bind, Except.bind]
    | ok before =>
    have hadmission : r.admission c st.store = .ok before := by
      simp [admission, hsel, hrequired, hdate, hbefore, bind, Except.bind]
    rw [decidedRun, hadmission]
    dsimp only
    rw [Action.run_bind_ok hwrite]
    cases hnext : r.normalized.cascade? with
    | none =>
      rw [carriedOut_own hnext]
      exact haudit before
    | some next =>
      exact (Action.run_bind_ok (hnested next selector hsel hrequired hnext)).trans (haudit before)

theorem run_tolerate_ok {o : Origin} {work : Action Unit} {c : Context} {st st' : State}
    (h : work.run c st = (.ok (), st')) : (o.tolerate work).run c st = (.ok (), st') := by
  have hattempt : (Action.attempt work).run c st = (.ok (.ok ()), st') := by
    rw [Action.run_attempt, h]
  rw [Origin.tolerate, Action.run_bind_ok hattempt]
  rfl

theorem run_changeUpTo (o : Origin) {levels : Nat} {r : Request} (h : r.target.depth ≤ levels)
    (c : Context) (st : State) : (changeUpTo o levels r).run c st = r.decidedRun c st := by
  induction levels generalizing r st with
  | zero =>
    refine run_changeWith fun next selector _ _ hnext => ?_
    have hdepth := depth_cascade? hnext
    rw [target_normalized] at hdepth
    omega
  | succ levels ih =>
    refine run_changeWith fun next selector hsel hrequired hnext => run_tolerate_ok ?_
    have hdepth := depth_cascade? hnext
    rw [target_normalized] at hdepth
    rw [ih (by dsimp only; omega)]
    exact decidedRun_cascade hsel hrequired hnext

/-- **Carrying a request out is deciding it first.** -/
theorem run_change (r : Request) (o : Origin) (c : Context) (st : State) :
    (r.change o).run c st = r.decidedRun c st :=
  run_changeUpTo o (Nat.le_refl _) c st

/-- A request that is made is decided and, if admitted, carried out. -/
theorem run_perform_request (r : Request) (c : Context) (st : State) :
    (r.perform .request).run c st = r.decidedRun c st := by
  rw [perform, Origin.tolerate, Action.run_bind, Action.run_attempt, run_change]
  rcases r.decidedRun c st with ⟨_ | _, _⟩ <;> rfl

/-- A request from the schedule is skipped if something that it needs is gone. -/
theorem run_perform_schedule (r : Request) (c : Context) (st : State) :
    (r.perform .schedule).run c st =
      match r.admission c st.store with
      | .ok before => (.ok (), r.outcome c before st)
      | .error e => (if e.isMissing then .ok () else .error e, st) := by
  rw [perform, Origin.tolerate, Action.run_bind, Action.run_attempt, run_change, decidedRun]
  cases r.admission c st.store with
  | ok before => rfl
  | error e =>
    dsimp only
    cases e.isMissing <;> rfl

end Request

end Workflow.Suspension

namespace Workflow.Engine

/-- Asking for a change of states is deciding the request and, if it is admitted, its outcome. -/
theorem ask_setStates (e : Engine) (subject : Option Subject) (r : Suspension.Request)
    (st : State) :
    e.ask subject (.setStates r) st =
      match r.admission (e.contextFor subject) st.store with
      | .ok before => (.ok .done, r.outcome (e.contextFor subject) before st)
      | .error reason => (.error reason, st) := by
  rw [ask, execute, Action.run_atomically, Command.perform, Action.run_map,
    Suspension.Request.run_perform_request, Suspension.Request.decidedRun]
  cases r.admission (e.contextFor subject) st.store <;> rfl

end Workflow.Engine
