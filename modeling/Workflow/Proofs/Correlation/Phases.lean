import Workflow.Proofs.Outcomes
import Workflow.Proofs.Tables

/-!
# The three phases of a delivery

A message command that succeeds has looked its targets up, was permitted to act on all of them and
then handed the message out, all of this by the store as it was found. Each inversion lemma says so
for one command; `Store.deliver_eq_ok` says when an event can be handed to an execution and what is
different then.
-/

namespace Workflow

/-- Whether a command delivers messages. -/
def Command.isMessage : Command → Bool
  | .correlate _ | .correlateAll _ | .receive _ _ _ | .startInstance _ _ _ => true
  | _ => false

/-- The execution with the variables of an event put over its own. -/
def Execution.given (payload : Option Variables) (e : Execution) : Execution :=
  { e with vars := payload.elim e.vars e.vars.union }

/-- The store after an event came to a process instance: the instance has its variables, and the
subscription that it met is used up. -/
def Store.handedOver (s : Store) (instanceId : String) (sub : Subscription)
    (payload : Option Variables) : Store :=
  { s with
    executions := s.executions.modify instanceId (·.given payload)
    subscriptions := s.subscriptions.erase sub.id
    deliveries := s.deliveries ++ [⟨sub, payload⟩] }

/-- An event can be handed over exactly if the execution that waits is stored. -/
theorem Store.deliver_eq_ok {s s' : Store} {sub : Subscription} {payload : Option Variables} :
    s.deliver sub payload = .ok s' ↔
      ∃ id e, sub.executionId = some id ∧ s.executions.get? id = some e ∧
        s' = s.handedOver e.instanceId sub payload := by
  have hnone (instanceId : String) :
      s.executions.modify instanceId (·.given none) = s.executions :=
    Table.modify_eq_self fun _ => rfl
  cases hexecution : sub.executionId with
  | none => simp [deliver, hexecution, bind, Except.bind]
  | some id =>
    cases he : s.executions.get? id with
    | none => simp [deliver, hexecution, row, he, bind, Except.bind]
    | some e =>
      have hrow : row s.executions .execution id = .ok e := row_eq_ok.2 he
      have hok : s.deliver sub payload = .ok (s.handedOver e.instanceId sub payload) := by
        simp only [deliver, hexecution, bind, Except.bind, hrow]
        cases payload with
        | some vars => rfl
        | none => rw [handedOver, hnone]; rfl
      rw [hok]
      simp [he, eq_comm]

end Workflow

namespace Workflow.Correlation

variable {l : Lookup} {m : Message} {c : Context} {st st' : State}

theorem correlate_inv {target : Match} (h : (correlate l m).run c st = (.ok target, st')) :
    l.candidates m st.store = .ok [target] ∧ requireAll (c.authority st.store) [target] = .ok () ∧
      (m.dispatch target).run c st = (.ok (), st') := by
  simp only [correlate, Action.run_decided_bind_eq_ok, Action.run_consult_bind_eq_ok,
    Action.run_authorize_bind_eq_ok] at h
  obtain ⟨_, -, candidates, hcandidates, _, hrequired, single, hsingle, h⟩ := h
  obtain ⟨_, _, hdispatch, h⟩ := Action.run_bind_eq_ok.1 h
  cases h
  unfold Message.single at hsingle
  split at hsingle
  · cases hsingle
    exact ⟨hcandidates, hrequired, hdispatch⟩
  · cases hsingle

theorem correlateAll_inv {targets : List Match}
    (h : (correlateAll l m).run c st = (.ok targets, st')) :
    l.all m st.store = .ok targets ∧ requireAll (c.authority st.store) targets = .ok () ∧
      (m.dispatchAll targets).run c st = (.ok (), st') := by
  simp only [correlateAll, Action.run_decided_bind_eq_ok, Action.run_consult_bind_eq_ok,
    Action.run_authorize_bind_eq_ok] at h
  obtain ⟨_, -, found, hfound, _, hrequired, h⟩ := h
  obtain ⟨_, _, hdispatch, h⟩ := Action.run_bind_eq_ok.1 h
  cases h
  exact ⟨hfound, hrequired, hdispatch⟩

/-- The execution that is addressed is the one that the subscription is of. -/
theorem receive_found {name executionId : Option String} {payload : Option Variables} {u : Unit}
    (h : (receive name executionId payload).run c st = (.ok u, st')) :
    ∃ id subscription owner, executionId = some id ∧
      subscriptionFor st.store id name = .ok subscription ∧
      instanceOf st.store subscription id = .ok owner ∧
      (c.authority st.store).requireUpdateInstance owner.instanceId owner.definitionKey = .ok () ∧
      (deliver subscription payload).run c st = (.ok (), st') := by
  simp only [receive, Action.run_decided_bind_eq_ok, Action.run_consult_bind_eq_ok,
    Action.run_authorize_bind_eq_ok] at h
  obtain ⟨id, hgiven, subscription, hsubscription, owner, howner, _, hrequired, hdeliver⟩ := h
  cases executionId with
  | none => cases hgiven
  | some _ =>
    cases hgiven
    exact ⟨id, subscription, owner, rfl, hsubscription, howner, hrequired, hdeliver⟩

theorem receive_inv {name executionId : Option String} {payload : Option Variables} {u : Unit}
    (h : (receive name executionId payload).run c st = (.ok u, st')) :
    ∃ id subscription owner, subscriptionFor st.store id name = .ok subscription ∧
      instanceOf st.store subscription id = .ok owner ∧
      (c.authority st.store).requireUpdateInstance owner.instanceId owner.definitionKey = .ok () ∧
      (deliver subscription payload).run c st = (.ok (), st') := by
  obtain ⟨id, subscription, owner, -, h⟩ := receive_found h
  exact ⟨id, subscription, owner, h⟩

/-- The definition that is started is the one that the start event for the message names. -/
theorem startInstance_event {name businessKey : Option String} {vars : Variables} {e : Execution}
    (h : (startInstance name businessKey vars).run c st = (.ok e, st')) :
    ∃ message subscription definition, name = some message ∧
      startEventFor st.store message = .ok subscription ∧
      startedDefinition st.store subscription message = .ok definition ∧
      (c.authority st.store).requireStart definition.key = .ok () ∧
      (start definition businessKey subscription.activityId vars).run c st = (.ok e, st') := by
  cases name with
  | none => cases h
  | some message =>
    simp only [startInstance, Action.run_consult_bind_eq_ok, Action.run_authorize_bind_eq_ok,
      pure_bind] at h
    obtain ⟨subscription, hevent, definition, hfound, _, hrequired, hstart⟩ := h
    exact ⟨message, subscription, definition, rfl, hevent, hfound, hrequired, hstart⟩

/-- The definition that is started is stored. -/
theorem startInstance_found {name businessKey : Option String} {vars : Variables} {e : Execution}
    (h : (startInstance name businessKey vars).run c st = (.ok e, st')) :
    ∃ (id : String) (definition : ProcessDefinition) (activityId : Option String),
      st.store.definitions.get? id = some definition ∧
      (c.authority st.store).requireStart definition.key = .ok () ∧
      (start definition businessKey activityId vars).run c st = (.ok e, st') := by
  obtain ⟨_, subscription, definition, -, -, hfound, hrequired, hstart⟩ := startInstance_event h
  unfold startedDefinition at hfound
  split at hfound
  · cases hfound
  · rename_i id _
    split at hfound
    · rename_i hget
      cases hfound
      exact ⟨id, definition, subscription.activityId, hget, hrequired, hstart⟩
    · cases hfound

theorem startInstance_inv {name businessKey : Option String} {vars : Variables} {e : Execution}
    (h : (startInstance name businessKey vars).run c st = (.ok e, st')) :
    ∃ (definition : ProcessDefinition) (activityId : Option String),
      (c.authority st.store).requireStart definition.key = .ok () ∧
      (start definition businessKey activityId vars).run c st = (.ok e, st') := by
  obtain ⟨_, definition, activityId, -, hrequired, hstart⟩ := startInstance_found h
  exact ⟨definition, activityId, hrequired, hstart⟩

end Workflow.Correlation
