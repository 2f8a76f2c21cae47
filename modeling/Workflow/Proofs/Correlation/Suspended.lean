import Workflow.Proofs.Agreement
import Workflow.Proofs.Correlation.AllOrNothing

/-!
# Messages and suspended resources

Messages whose targets are looked up pass suspended resources over: they resume executions that are
active and start definitions that are active. A message that is addressed, to one execution or to
one start event, is delivered whatever the states of executions and definitions are: nobody looks at
them.

* `Store.Progressed`: which executions were resumed, and which definitions started, from one store
  to another.
* `Message.progressed_handedOut`: handing a message out resumes the executions among its targets and
  starts the definitions.
* `Store.SameButStates`: two stores differ in the states of executions and definitions at most.
* `agree_receive`, `agree_startInstance`: addressed messages do not look at these states.
* `only_addressed_messages_reach_suspended`: all of this of the commands.
* `suspended_resources_make_progress`: what comes of it.
-/

namespace Workflow

open Workflow.Action (Agree Alike Over)
open Correlation (Match Message Lookup)

/-! ## Progress -/

/-- What progress was made from one store to another. Every event was delivered to one of the
executions that were resumed, in turn, and every execution is one that was there before, perhaps with
more variables, or an instance of one of the definitions that were started. -/
structure Store.Progressed (s : Store) (resumed : List Execution)
    (started : List ProcessDefinition) (s' : Store) : Prop where
  resumed_stored : ∀ e ∈ resumed, s.executions.get? e.id = some e
  started_stored : ∀ d ∈ started, s.definitions.get? d.id = some d
  deliveries : ∃ new, s'.deliveries = s.deliveries ++ new ∧
    new.map (·.subscription.executionId) = resumed.map fun e => some e.id
  executions : ∀ id e', s'.executions.get? id = some e' →
    (∃ e payload, s.executions.get? id = some e ∧ e' = e.given payload) ∨
      ∃ d ∈ started, ∃ businessKey activityId vars,
        e' = .started id d businessKey activityId vars

namespace Correlation

/-- The execution that a target is, if it waits. -/
def Match.execution? : Match → Option Execution
  | .waiting execution _ => some execution
  | .start _ _ => none

/-- The definition that a target is, if it is started. -/
def Match.definition? : Match → Option ProcessDefinition
  | .waiting _ _ => none
  | .start definition _ => some definition

@[simp] theorem Match.execution?_waiting (e : Execution) (sub : Subscription) :
    (Match.waiting e sub).execution? = some e := rfl

/-- A target as the standard look-up finds it: an execution that is stored, is active and waits with
its own subscription, or a definition that is stored and active. -/
def Match.Active (s : Store) : Match → Prop
  | .waiting e sub =>
    s.executions.get? e.id = some e ∧ sub.executionId = some e.id ∧ e.state = .active
  | .start d _ => s.definitions.get? d.id = some d ∧ d.state = .active

theorem state_active {state : SuspensionState} (h : state.isSuspended = false) :
    state = .active := by
  cases state with
  | active => rfl
  | suspended => cases h

variable {s : Store} {m : Message} {targets : List Match} {fresh : String}

/-- **The standard look-up passes over what is suspended.** -/
theorem active_of_standard (hexecutions : s.executions.Filed (·.id))
    (hdefinitions : s.definitions.Filed (·.id))
    (h : Lookup.standard.candidates m s = .ok targets ∨ Lookup.standard.all m s = .ok targets) :
    ∀ target ∈ targets, target.Active s := by
  obtain ⟨waiting, start, rfl, hwaiting, hstart⟩ := targets_standard h
  intro target htarget
  rcases List.mem_append.1 htarget with htarget | htarget
  · obtain ⟨e, sub, rfl, hrow, hactive, -, hof⟩ :=
      waiting_of_mem_waitingMatches (hwaiting target htarget)
    exact ⟨hexecutions.get?_of_mem hrow, hof, state_active hactive⟩
  · obtain ⟨d, activityId, id, rfl, hget, hactive⟩ :=
      active_of_startMatch? (hstart target (Option.mem_toList.1 htarget))
    have hid : d.id = id := hdefinitions id d hget
    exact ⟨hid ▸ hget, state_active hactive⟩

/-! ## Handing a message out -/

/-- The executions among targets are those that wait. -/
theorem mem_executions {e : Execution} :
    e ∈ targets.filterMap (·.execution?) ↔ ∃ sub, Match.waiting e sub ∈ targets := by
  rw [List.mem_filterMap]
  constructor
  · rintro ⟨target, htarget, hexecution⟩
    cases target with
    | waiting e' sub => exact ⟨sub, Option.some.inj hexecution ▸ htarget⟩
    | start d activityId => cases hexecution
  · rintro ⟨sub, htarget⟩
    exact ⟨_, htarget, rfl⟩

/-- The definitions among targets are those that are started. -/
theorem mem_definitions {d : ProcessDefinition} :
    d ∈ targets.filterMap (·.definition?) ↔ ∃ activityId, Match.start d activityId ∈ targets := by
  rw [List.mem_filterMap]
  constructor
  · rintro ⟨target, htarget, hdefinition⟩
    cases target with
    | waiting e sub => cases hdefinition
    | start d' activityId => exact ⟨activityId, Option.some.inj hdefinition ▸ htarget⟩
  · rintro ⟨activityId, htarget⟩
    exact ⟨_, htarget, rfl⟩

/-- A row after a message was handed out is the instance that was started or was there when the
executions were resumed. -/
theorem get?_handedOut {id : String} {e : Execution}
    (h : (m.handedOut fresh targets s).executions.get? id = some e) :
    (id = fresh ∧ ∃ target ∈ targets, m.started? fresh target = some e) ∨
      (m.resumed targets s).executions.get? id = some e := by
  unfold Message.handedOut at h
  split at h
  · exact .inr h
  · rename_i started hstarted
    rw [Table.get?_insert] at h
    split at h
    · cases h
      exact .inl ⟨‹id = fresh›, List.exists_of_findSome?_eq_some hstarted⟩
    · exact .inr h

theorem deliveries_handedOut :
    (m.handedOut fresh targets s).deliveries = (m.resumed targets s).deliveries := by
  unfold Message.handedOut
  split <;> rfl

/-- The subscriptions of targets that wait are those of their executions, in turn. -/
theorem map_executionId_subscriptions (h : ∀ target ∈ targets, target.Active s) :
    (targets.filterMap (·.subscription?)).map (·.executionId) =
      (targets.filterMap (·.execution?)).map fun e => some e.id := by
  induction targets with
  | nil => rfl
  | cons target rest ih =>
    obtain ⟨hfirst, hrest⟩ := List.forall_mem_cons.1 h
    cases target with
    | waiting e sub => simp [ih hrest, hfirst.2.1]
    | start d activityId => exact ih hrest

/-- **Handing a message out** resumes the executions among its targets and starts the definitions
among them. -/
theorem Message.progressed_handedOut (h : ∀ target ∈ targets, target.Active s) :
    s.Progressed (targets.filterMap (·.execution?)) (targets.filterMap (·.definition?))
      (m.handedOut fresh targets s) where
  resumed_stored e he := by
    obtain ⟨sub, htarget⟩ := mem_executions.1 he
    exact (h _ htarget).1
  started_stored d hd := by
    obtain ⟨activityId, htarget⟩ := mem_definitions.1 hd
    exact (h _ htarget).1
  deliveries := by
    refine ⟨(targets.filterMap (·.subscription?)).map (⟨·, m.enclosed?⟩), ?_, ?_⟩
    · rw [deliveries_handedOut]
      rfl
    · rw [List.map_map, ← map_executionId_subscriptions h]
      rfl
  executions id e' he' := by
    rcases get?_handedOut he' with ⟨rfl, target, htarget, hstarted⟩ | hbefore
    · cases target with
      | waiting e sub => cases hstarted
      | start d activityId =>
        cases hstarted
        exact .inr ⟨d, mem_definitions.2 ⟨_, htarget⟩, _, _, _, rfl⟩
    · obtain ⟨e, he, rfl⟩ := Option.map_eq_some_iff.1 ((Table.get?_map _ _ _).symm.trans hbefore)
      left
      split
      · exact ⟨e, m.enclosed?, he, rfl⟩
      · exact ⟨e, none, he, rfl⟩

theorem state_of_mem_executions (h : ∀ target ∈ targets, target.Active s) :
    ∀ e ∈ targets.filterMap (·.execution?), e.state = .active := by
  intro e he
  obtain ⟨sub, htarget⟩ := mem_executions.1 he
  exact (h _ htarget).2.2

theorem state_of_mem_definitions (h : ∀ target ∈ targets, target.Active s) :
    ∀ d ∈ targets.filterMap (·.definition?), d.state = .active := by
  intro d hd
  obtain ⟨activityId, htarget⟩ := mem_definitions.1 hd
  exact (h _ htarget).2

/-! ## The commands -/

section

variable {c : Context} {st st' : State}

/-- Handing a message out to what the standard look-up finds. -/
theorem progressed_of_dispatchAll (hexecutions : st.store.executions.Filed (·.id))
    (hdefinitions : st.store.definitions.Filed (·.id))
    (hsubscriptions : st.store.subscriptions.Filed (·.id))
    (htargets : Lookup.standard.candidates m st.store = .ok targets ∨
      Lookup.standard.all m st.store = .ok targets)
    (hrun : (m.dispatchAll targets).run c st = (.ok (), st')) :
    ∃ resumed started, st.store.Progressed resumed started st'.store ∧
      (∀ e ∈ resumed, e.state = .active) ∧ ∀ d ∈ started, d.state = .active := by
  have hactive := active_of_standard hexecutions hdefinitions htargets
  have hstore := store_of_dispatchAll htargets hexecutions hsubscriptions hrun
  refine ⟨_, _, ?_, state_of_mem_executions hactive, state_of_mem_definitions hactive⟩
  rw [hstore]
  exact m.progressed_handedOut hactive

/-- The execution that an event is addressed to is resumed. -/
theorem progressed_of_receive {name executionId : Option String} {payload : Option Variables}
    {u : Unit} (hexecutions : st.store.executions.Filed (·.id))
    (h : (receive name executionId payload).run c st = (.ok u, st')) :
    ∃ e, executionId = some e.id ∧ st.store.Progressed [e] [] st'.store := by
  obtain ⟨id, sub, owner, rfl, hsub, -, -, hdeliver⟩ := receive_found h
  obtain ⟨s', hdelivered, rfl⟩ := Action.run_modify_eq_ok.1 hdeliver
  obtain ⟨id', e, hof, hget, rfl⟩ := Store.deliver_eq_ok.1 hdelivered
  obtain rfl : e.id = id' := hexecutions id' e hget
  rw [(awaits_of_subscriptionFor hsub).2] at hof
  refine ⟨e, hof, ?_, by simp, ⟨[⟨sub, payload⟩], rfl, ?_⟩, fun k e' he' => .inl ?_⟩
  · simpa using hget
  · simpa [(awaits_of_subscriptionFor hsub).2] using hof
  · simp only [Store.handedOver, Table.get?_modify] at he'
    split at he'
    · obtain ⟨old, hold, rfl⟩ := Option.map_eq_some_iff.1 he'
      exact ⟨old, payload, hold, rfl⟩
    · exact ⟨e', none, he', rfl⟩

/-- The definition of the start event that is addressed is started. -/
theorem progressed_of_startInstance {name businessKey : Option String} {vars : Variables}
    {e : Execution} (hdefinitions : st.store.definitions.Filed (·.id))
    (h : (startInstance name businessKey vars).run c st = (.ok e, st')) :
    ∃ d, st.store.Progressed [] [d] st'.store := by
  obtain ⟨id, d, activityId, hget, -, hstart⟩ := startInstance_found h
  obtain rfl : d.id = id := hdefinitions id d hget
  cases hstart
  refine ⟨d, by simp, by simpa using hget, ⟨[], (List.append_nil _).symm, rfl⟩, fun k e' he' => ?_⟩
  simp only [Store.putExecution, Table.get?_insert] at he'
  split at he'
  · cases he'
    rename_i hk
    exact .inr ⟨d, List.mem_singleton_self d, businessKey, activityId, vars, by rw [hk]; rfl⟩
  · exact .inl ⟨e', none, he', rfl⟩

end

end Correlation

/-! ## Stores that differ in states -/

/-- The same execution, perhaps in another state. -/
def Execution.SameButState (e e' : Execution) : Prop := e' = { e with state := e'.state }

/-- The same definition, perhaps in another state. -/
def ProcessDefinition.SameButState (d d' : ProcessDefinition) : Prop :=
  d' = { d with state := d'.state }

theorem Execution.SameButState.refl (e : Execution) : e.SameButState e := rfl

theorem ProcessDefinition.SameButState.refl (d : ProcessDefinition) : d.SameButState d := rfl

/-- The stores differ in the states of executions and definitions at most. -/
structure Store.SameButStates (s s' : Store) : Prop where
  executions : s.executions.Related Execution.SameButState s'.executions
  definitions : s.definitions.Related ProcessDefinition.SameButState s'.definitions
  others : s' = { s with executions := s'.executions, definitions := s'.definitions }

namespace Store

/-- Related tables have related rows under an id, or none. -/
theorem alike_row {α β : Type} {R : α → β → Prop} {t : Table α} {u : Table β}
    (h : t.Related R u) (kind : RowKind) (id : String) :
    Alike R (row t kind id) (row u kind id) := by
  have hid := h id
  unfold row
  revert hid
  generalize t.get? id = x, u.get? id = y
  rintro (hxy | _)
  · exact .ok ‹_›
  · exact .error _

section

variable {s : Store} {sub : Subscription} {payload : Option Variables}

theorem deliver_of_none (h : sub.executionId = none) :
    s.deliver sub payload = .error (.invalid .noExecution) := by
  rw [deliver, h]
  rfl

theorem deliver_of_some {id : String} (h : sub.executionId = some id) :
    s.deliver sub payload = (row s.executions .execution id).map fun e =>
      s.handedOver e.instanceId sub payload := by
  cases hrow : row s.executions .execution id with
  | error e => simp [deliver, h, hrow, bind, Except.bind, Except.map]
  | ok e => exact deliver_eq_ok.2 ⟨id, e, h, row_eq_ok.1 hrow, rfl⟩

end

namespace SameButStates

variable {s s' : Store} (h : s.SameButStates s')
include h

theorem grants : s.grants = s'.grants := by rw [h.others]

theorem subscriptions : s.subscriptions = s'.subscriptions := by rw [h.others]

theorem putExecution (e : Execution) : (s.putExecution e).SameButStates (s'.putExecution e) where
  executions := h.executions.insert_insert e.id (.refl e)
  definitions := h.definitions
  others := by
    rw [h.others]
    rfl

theorem handedOver (instanceId : String) (sub : Subscription) (payload : Option Variables) :
    (s.handedOver instanceId sub payload).SameButStates (s'.handedOver instanceId sub payload) where
  executions := by
    refine h.executions.modify_modify instanceId fun e e' he => ?_
    rw [Execution.SameButState] at he ⊢
    rw [he]
    rfl
  definitions := h.definitions
  others := by
    rw [h.others]
    rfl

/-- An event is handed to the same instance, or to none for the same reason. -/
theorem deliver (sub : Subscription) (payload : Option Variables) :
    Alike SameButStates (s.deliver sub payload) (s'.deliver sub payload) := by
  cases hof : sub.executionId with
  | none =>
    rw [deliver_of_none hof, deliver_of_none hof]
    exact .error _
  | some id =>
    have hrow := alike_row h.executions .execution id
    rw [deliver_of_some hof, deliver_of_some hof]
    revert hrow
    generalize row s.executions .execution id = r, row s'.executions .execution id = r'
    rintro (hsame | e)
    · rw [Execution.SameButState] at hsame
      rw [hsame]
      exact .ok (h.handedOver _ sub payload)
    · exact .error e

end SameButStates

end Store

namespace Correlation

/-! ## Addressed messages -/

section

variable {s s' : Store} (h : s.SameButStates s')
include h

theorem subscriptionFor_eq (executionId : String) (name : Option String) :
    subscriptionFor s executionId name = subscriptionFor s' executionId name := by
  rw [subscriptionFor, subscriptionFor, Store.subscriptionsOf, Store.subscriptionsOf,
    h.subscriptions]

theorem startEventFor_eq (name : String) : startEventFor s name = startEventFor s' name := by
  rw [startEventFor, startEventFor, Store.startSubscription?, Store.startSubscription?,
    h.subscriptions]

theorem alike_instanceOf (sub : Subscription) (executionId : String) :
    Alike Execution.SameButState (instanceOf s sub executionId) (instanceOf s' sub executionId) := by
  unfold instanceOf
  split
  · exact Store.alike_row h.executions _ _
  · exact .error _

theorem alike_startedDefinition (sub : Subscription) (name : String) :
    Alike ProcessDefinition.SameButState (startedDefinition s sub name)
      (startedDefinition s' sub name) := by
  unfold startedDefinition
  split
  · exact .error _
  · rename_i id _
    have hid := h.definitions id
    revert hid
    generalize s.definitions.get? id = x, s'.definitions.get? id = y
    rintro (hxy | _)
    · exact .ok ‹_›
    · exact .error _

end

theorem grants_of_sameButStates (s s' : Store) (h : s.SameButStates s') : s.grants = s'.grants :=
  h.grants

/-- **An event that is addressed to an execution** is delivered whatever the states are. -/
theorem agree_receive (name executionId : Option String) (payload : Option Variables) :
    Agree Store.SameButStates Eq (receive name executionId payload)
      (receive name executionId payload) := by
  unfold receive
  refine (Agree.decided _).bind fun id _ hid => ?_
  subst hid
  have hfound : Agree Store.SameButStates Eq (Action.consult fun _ s => subscriptionFor s id name)
      (Action.consult fun _ s => subscriptionFor s id name) :=
    .consult_eq fun _ _ _ h => subscriptionFor_eq h id name
  refine hfound.bind fun sub _ hsub => ?_
  subst hsub
  have howner : Agree Store.SameButStates Execution.SameButState
      (Action.consult fun _ s => instanceOf s sub id)
      (Action.consult fun _ s => instanceOf s sub id) :=
    .consult fun _ _ _ h => alike_instanceOf h sub id
  refine howner.bind fun owner owner' hsame => ?_
  rw [Execution.SameButState] at hsame
  rw [hsame]
  refine (Agree.authorize grants_of_sameButStates _).bind fun _ _ _ => ?_
  exact .modify fun s s' h => h.deliver sub payload

/-- **An instance that a start event is addressed for** is started whatever the states are. -/
theorem agree_startInstance (name businessKey : Option String) (vars : Variables) :
    Agree Store.SameButStates Eq (startInstance name businessKey vars)
      (startInstance name businessKey vars) := by
  unfold startInstance
  cases name with
  | none => exact fun _ _ _ hst => ⟨.error _, hst⟩
  | some name =>
    simp only [pure_bind]
    have hfound : Agree Store.SameButStates Eq (Action.consult fun _ s => startEventFor s name)
        (Action.consult fun _ s => startEventFor s name) :=
      .consult_eq fun _ _ _ h => startEventFor_eq h name
    refine hfound.bind fun sub _ hsub => ?_
    subst hsub
    have hdefinition : Agree Store.SameButStates ProcessDefinition.SameButState
        (Action.consult fun _ s => startedDefinition s sub name)
        (Action.consult fun _ s => startedDefinition s sub name) :=
      .consult fun _ _ _ h => alike_startedDefinition h sub name
    refine hdefinition.bind fun d d' hsame => ?_
    rw [ProcessDefinition.SameButState] at hsame
    rw [hsame]
    refine (Agree.authorize grants_of_sameButStates _).bind fun _ _ _ => ?_
    refine Agree.fresh.bind fun fresh _ hfresh => ?_
    subst hfresh
    refine (Agree.update fun s s' h => ?_).bind fun _ _ _ => ?_
    · exact h.putExecution _
    · exact .pure rfl

/-! ## What messages make of suspended resources -/

/-- What messages make of executions and definitions that are suspended. -/
structure Reach (e : Engine) (subject : Option Subject) (st : State) : Prop where
  /-- Messages whose targets are looked up make what is active progress. -/
  looked_up : ∀ m command, command = Command.correlate m ∨ command = .correlateAll m →
    ∀ reply st', e.ask subject command st = (.ok reply, st') →
      ∃ resumed started, st.store.Progressed resumed started st'.store ∧
        (∀ x ∈ resumed, x.state = .active) ∧ ∀ d ∈ started, d.state = .active
  /-- A message to one execution makes this one progress. -/
  received : ∀ name executionId payload reply st',
    e.ask subject (.receive name executionId payload) st = (.ok reply, st') →
      ∃ x, executionId = some x.id ∧ st.store.Progressed [x] [] st'.store
  /-- A message to a start event makes one definition progress. -/
  started : ∀ name businessKey vars reply st',
    e.ask subject (.startInstance name businessKey vars) st = (.ok reply, st') →
      ∃ d, st.store.Progressed [] [d] st'.store
  /-- Whether and how they do so does not depend on any state. -/
  blind : ∀ name executionId payload businessKey vars command,
    command = Command.receive name executionId payload ∨
      command = .startInstance name businessKey vars →
    ∀ other, Over Store.SameButStates st other →
      (e.ask subject command st).1 = (e.ask subject command other).1 ∧
        Over Store.SameButStates (e.ask subject command st).2 (e.ask subject command other).2

/-- **Only addressed messages reach what is suspended.** Messages whose targets are looked up make
active executions and active definitions progress and no others. Messages that are addressed to an
execution or to a start event make this one progress, and do so whatever the states are. The store
files executions, definitions and subscriptions by their ids. -/
theorem only_addressed_messages_reach_suspended (settings : Settings) (subject : Option Subject)
    (st : State) (hexecutions : st.store.executions.Filed (·.id))
    (hdefinitions : st.store.definitions.Filed (·.id))
    (hsubscriptions : st.store.subscriptions.Filed (·.id)) :
    Reach (.standard settings) subject st where
  looked_up m command hcommand reply st' hask := by
    have hperform := Engine.perform_of_ask hask
    rcases hcommand with rfl | rfl
    · obtain ⟨target, hrun, -⟩ := Action.run_map_eq_ok.1 hperform
      obtain ⟨htarget, -, hdispatch⟩ := correlate_inv hrun
      exact progressed_of_dispatchAll hexecutions hdefinitions hsubscriptions (.inl htarget)
        ((Action.run_bind_ok hdispatch).trans rfl)
    · obtain ⟨targets, hrun, -⟩ := Action.run_map_eq_ok.1 hperform
      obtain ⟨htargets, -, hdispatch⟩ := correlateAll_inv hrun
      exact progressed_of_dispatchAll hexecutions hdefinitions hsubscriptions (.inr htargets)
        hdispatch
  received name executionId payload reply st' hask := by
    obtain ⟨_, hrun, -⟩ := Action.run_map_eq_ok.1 (Engine.perform_of_ask hask)
    exact progressed_of_receive hexecutions hrun
  started name businessKey vars reply st' hask := by
    obtain ⟨x, hrun, -⟩ := Action.run_map_eq_ok.1 (Engine.perform_of_ask hask)
    exact progressed_of_startInstance hdefinitions hrun
  blind name executionId payload businessKey vars command hcommand other hother := by
    have hagree : Agree Store.SameButStates Eq (command.perform {}) (command.perform {}) := by
      rcases hcommand with rfl | rfl
      · exact (agree_receive name executionId payload).map fun _ _ _ => rfl
      · exact (agree_startInstance name businessKey vars).map fun _ _ h => congrArg _ h
    exact hagree.atomically.run_eq hother _

/-- An instance waits for its payment. Whether it is suspended or not, a payment that is addressed to
it is answered alike. -/
theorem payment_received_in_either_state :
    let definition := ProcessDefinition.new "p" "order" 1
    let order (state : SuspensionState) := { Execution.instanceOf "i" definition with state := state }
    let paid := Subscription.toMessage "s" "paid" "i" "i" "wait" 0
    let store (state : SuspensionState) :=
      (((∅ : Store).putDefinition definition).putExecution (order state)).putSubscription paid
    let e := Engine.standard {}
    let receive := Command.receive (some "paid") (some "i") none
    (store .suspended).executions.Filed (·.id) ∧ (store .suspended).definitions.Filed (·.id) ∧
    (store .suspended).subscriptions.Filed (·.id) ∧ Reach e none ⟨store .suspended, 0⟩ ∧
    (store .suspended).SameButStates (store .active) ∧
    (e.ask none receive ⟨store .suspended, 0⟩).1 = (e.ask none receive ⟨store .active, 0⟩).1 := by
  intro definition order paid store e receive
  have hexecutions : (store .suspended).executions.Filed (·.id) := Table.Filed.empty.insert _
  have hdefinitions : (store .suspended).definitions.Filed (·.id) :=
    Table.Filed.empty.insert definition
  have hsubscriptions : (store .suspended).subscriptions.Filed (·.id) :=
    Table.Filed.empty.insert paid
  have hsame : (store .suspended).SameButStates (store .active) := {
    executions := (Table.Related.refl Execution.SameButState.refl ∅).insert_insert "i" rfl
    definitions := .refl ProcessDefinition.SameButState.refl _
    others := rfl }
  have hreach := only_addressed_messages_reach_suspended {} none ⟨store .suspended, 0⟩ hexecutions
    hdefinitions hsubscriptions
  have halike := hreach.blind (some "paid") (some "i") none none ∅ receive (.inl rfl)
    ⟨store .active, 0⟩ ⟨hsame, rfl⟩
  exact ⟨hexecutions, hdefinitions, hsubscriptions, hreach, hsame, halike.1⟩

/-- A suspended instance waits for its payment, and orders may not be started. Looked up, neither
message has a target; addressed, the payment is handed over and an order is started. -/
theorem suspended_resources_make_progress :
    let definition : ProcessDefinition := ⟨"p", "order", 1, none, .suspended⟩
    let order := { Execution.instanceOf "i" definition with state := .suspended }
    let paid := Subscription.toMessage "s" "paid" "i" "i" "wait" 0
    let ordered := Subscription.toStartMessage "t" "ordered" "p" "begin" 0
    let store := ((((∅ : Store).putDefinition definition).putExecution order).putSubscription
      paid).putSubscription ordered
    let e := Engine.standard {}
    let first := Execution.started (State.mintedId 1) definition none (some "begin") ∅
    (e.ask none (.correlateAll ⟨some "paid", ⟨none, none, ∅⟩, ∅⟩) ⟨store, 0⟩).1 = .ok (.targets []) ∧
    (e.ask none (.correlateAll ⟨some "ordered", ⟨none, none, ∅⟩, ∅⟩) ⟨store, 0⟩).1 =
      .ok (.targets []) ∧
    e.ask none (.receive (some "paid") (some "i") none) ⟨store, 0⟩ =
      (.ok .done, ⟨store.handedOver "i" paid none, 0⟩) ∧
    e.ask none (.startInstance (some "ordered") none ∅) ⟨store, 0⟩ =
      (.ok (.started first), ⟨store.putExecution first, 1⟩) := by
  intro definition order paid ordered store e first
  have hsub : startEventFor store "ordered" = .ok ordered := by cbv
  have hdefinition : startedDefinition store ordered "ordered" = .ok definition := by cbv
  have hstarted : (startInstance (some "ordered") none ∅).run ⟨false, none⟩ ⟨store, 0⟩ =
      (.ok first, ⟨store.putExecution first, 1⟩) := by
    simp only [startInstance, pure_bind, Action.run_consult_bind, hsub, hdefinition]
    rfl
  exact ⟨by cbv, by cbv, by cbv,
    Action.run_atomically_eq_ok.2 (Action.run_map_eq_ok.2 ⟨_, hstarted, rfl⟩)⟩

end Correlation

end Workflow
