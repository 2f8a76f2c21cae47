import Workflow.Proofs.Outcomes
import Workflow.Proofs.Tables

/-!
# What the standard look-up finds

The targets of a message are executions that wait for it and a process definition that it starts.
Every execution that is found is a row that is not suspended; it waits with a subscription of its
own, which is a row too.

* `Lookup.FindsForOne`, `Lookup.FindsForAll`: the targets of a delivery to one and to all, as a
  look-up finds them; `candidates_eq_ok` and `all_eq_ok`: they are those that are computed.
* `candidates_standard`, `all_standard`: the same for the standard look-up; `targets_standard`: the
  targets of either delivery.
* `waiting_of_mem_waitingMatches`: what is known of a target that waits.
* `nodup_waitingMatches`: different targets wait with different subscriptions.
-/

namespace Workflow.Correlation

/-- The subscription that a target waits with, if it waits. -/
def Match.subscription? : Match → Option Subscription
  | .waiting _ subscription => some subscription
  | .start _ _ => none

@[simp] theorem Match.subscription?_waiting (e : Execution) (sub : Subscription) :
    (Match.waiting e sub).subscription? = some sub := rfl

@[simp] theorem Match.subscription?_start (d : ProcessDefinition) (activityId : Option String) :
    (Match.start d activityId).subscription? = none := rfl

/-- The subscription is a row that waits for a message. -/
def Awaits (s : Store) (sub : Subscription) : Prop := sub ∈ s.subscriptions.rows ∧ sub.isMessage

/-! ## Executions that wait -/

theorem awaits_of_mem_subscriptionsOf {s : Store} {executionId : String} {name : Option String}
    {sub : Subscription} (h : sub ∈ s.subscriptionsOf executionId .message name) :
    Awaits s sub ∧ sub.executionId = some executionId := by
  obtain ⟨hrow, hmeets⟩ := List.mem_filter.1 h
  simp only [Bool.and_eq_true] at hmeets
  exact ⟨⟨hrow, hmeets.1.1⟩, of_decide_eq_true hmeets.1.2⟩

/-- The only subscription of an execution is one of its own. -/
theorem awaits_of_subscriptionFor {s : Store} {executionId : String} {name : Option String}
    {sub : Subscription} (h : subscriptionFor s executionId name = .ok sub) :
    Awaits s sub ∧ sub.executionId = some executionId := by
  unfold subscriptionFor at h
  split at h
  · rename_i hlist
    cases h
    exact awaits_of_mem_subscriptionsOf (hlist ▸ List.mem_singleton_self _)
  · cases h
  · cases h

theorem filterMap_waitingMatches (s : Store) (name : Option String) (criteria : Criteria) :
    (waitingMatches s name criteria).filterMap (·.subscription?) =
      (s.selectExecutions (criteria.query name)).filterMap fun e =>
        (s.subscriptionsOf e.id .message name).head? := by
  rw [waitingMatches, List.filterMap_filterMap]
  congr 1
  funext e
  cases (s.subscriptionsOf e.id .message name).head? <;> rfl

theorem awaits_of_waitingMatches {s : Store} {name : Option String} {criteria : Criteria}
    {sub : Subscription}
    (h : sub ∈ (waitingMatches s name criteria).filterMap (·.subscription?)) : Awaits s sub := by
  rw [filterMap_waitingMatches] at h
  obtain ⟨e, -, hhead⟩ := List.mem_filterMap.1 h
  exact (awaits_of_mem_subscriptionsOf (List.mem_of_mem_head? hhead)).1

/-- Different executions wait with different subscriptions. -/
theorem nodup_waitingMatches {s : Store} (h : s.executions.Filed (·.id)) (name : Option String)
    (criteria : Criteria) :
    ((waitingMatches s name criteria).filterMap (·.subscription?)).Nodup := by
  rw [filterMap_waitingMatches]
  have hids : (s.selectExecutions (criteria.query name)).Pairwise fun e e' => e.id ≠ e'.id :=
    (List.pairwise_map.1 h.nodup_ids).filter _
  refine hids.filterMap _ fun e e' hne sub hsub sub' hsub' heq => hne ?_
  have hof := (awaits_of_mem_subscriptionsOf (List.mem_of_mem_head? hsub)).2
  have hof' := (awaits_of_mem_subscriptionsOf (List.mem_of_mem_head? hsub')).2
  rw [heq, hof'] at hof
  exact (Option.some.inj hof).symm

/-- An execution is selected if its process instance is stored and the two meet the query. -/
theorem mem_selectExecutions {s : Store} {q : ExecutionQuery} {e : Execution} :
    e ∈ s.selectExecutions q ↔ e ∈ s.executions.rows ∧
      ∃ owner, s.executions.get? e.instanceId = some owner ∧
        q.accepts e owner s.subscriptions.rows = true := by
  rw [Store.selectExecutions, List.mem_filter]
  refine and_congr_right fun _ => ?_
  cases s.executions.get? e.instanceId <;> simp

/-- **Targets that wait.** The execution is a row that is not suspended, and it waits with a
subscription of its own. -/
theorem waiting_of_mem_waitingMatches {s : Store} {name : Option String} {criteria : Criteria}
    {target : Match} (h : target ∈ waitingMatches s name criteria) :
    ∃ e sub, target = .waiting e sub ∧ e ∈ s.executions.rows ∧ e.isSuspended = false ∧
      Awaits s sub ∧ sub.executionId = some e.id := by
  obtain ⟨e, he, hmatch⟩ := List.mem_filterMap.1 h
  obtain ⟨sub, hhead, rfl⟩ := Option.map_eq_some_iff.1 hmatch
  obtain ⟨hrow, owner, -, haccepts⟩ := mem_selectExecutions.1 he
  obtain ⟨hawaits, hof⟩ := awaits_of_mem_subscriptionsOf (List.mem_of_mem_head? hhead)
  refine ⟨e, sub, rfl, hrow, ?_, hawaits, hof⟩
  simp only [ExecutionQuery.accepts, Bool.and_eq_true] at haccepts
  simpa [Criteria.query] using haccepts.1.1.2

theorem isWaiting_of_mem_waitingMatches {s : Store} {name : Option String} {criteria : Criteria}
    {target : Match} (h : target ∈ waitingMatches s name criteria) : target.isWaiting = true := by
  obtain ⟨e, sub, rfl, -⟩ := waiting_of_mem_waitingMatches h
  rfl

/-! ## Definitions that are started -/

/-- **A definition that is started** is stored and not suspended. -/
theorem active_of_startMatch? {s : Store} {name : Option String} {criteria : Criteria}
    {target : Match} (h : startMatch? s name criteria = some target) :
    ∃ definition activityId id, target = .start definition activityId ∧
      s.definitions.get? id = some definition ∧ definition.isSuspended = false := by
  unfold startMatch? at h
  split at h
  · simp only [Option.bind_eq_bind, Option.bind_eq_some_iff] at h
    obtain ⟨_, -, id, -, definition, hget, h⟩ := h
    split at h <;> cases h
    rename_i hactive
    exact ⟨_, _, id, rfl, hget, by simpa using hactive⟩
  · cases h

theorem start_of_startMatch? {s : Store} {name : Option String} {criteria : Criteria}
    {target : Match} (h : startMatch? s name criteria = some target) :
    ∃ definition activityId, target = .start definition activityId := by
  obtain ⟨definition, activityId, -, htarget, -⟩ := active_of_startMatch? h
  exact ⟨definition, activityId, htarget⟩

theorem isWaiting_of_startMatch? {s : Store} {name : Option String} {criteria : Criteria}
    {target : Match} (h : startMatch? s name criteria = some target) :
    target.isWaiting = false := by
  obtain ⟨definition, activityId, rfl⟩ := start_of_startMatch? h
  rfl

theorem filterMap_startMatch? (s : Store) (name : Option String) (criteria : Criteria) :
    (startMatch? s name criteria).toList.filterMap (·.subscription?) = [] := by
  refine List.filterMap_eq_nil_iff.2 fun target htarget => ?_
  obtain ⟨definition, activityId, rfl⟩ := start_of_startMatch? (Option.mem_toList.1 htarget)
  rfl

/-! ## The targets of a delivery -/

section

variable {l : Lookup} {s : Store} {m : Message} {targets : List Match}

/-- What a look-up finds for a delivery to one: the executions that wait or, if none does, what is
started. -/
def Lookup.FindsForOne (l : Lookup) (m : Message) (s : Store) (targets : List Match) : Prop :=
  (l.waiting s m.name m.criteria = .ok targets ∧ targets ≠ []) ∨
    l.waiting s m.name m.criteria = .ok [] ∧
      ∃ start, l.start s m.name m.criteria = .ok start ∧ targets = start.toList

/-- What a look-up finds for a delivery to all: the executions that wait, then what is started. -/
def Lookup.FindsForAll (l : Lookup) (m : Message) (s : Store) (targets : List Match) : Prop :=
  ∃ waiting start, l.waiting s m.name m.criteria = .ok waiting ∧
    l.start s m.name m.criteria = .ok start ∧ targets = waiting ++ start.toList

/-- What is computed for a delivery to one is what is found. -/
theorem Lookup.candidates_eq_ok : l.candidates m s = .ok targets ↔ l.FindsForOne m s targets := by
  unfold Lookup.candidates Lookup.FindsForOne
  rw [bind_eq_ok]
  constructor
  · rintro ⟨waiting, hwaiting, h⟩
    split at h
    · obtain ⟨start, hstart, h⟩ := bind_eq_ok.1 h
      exact .inr ⟨hwaiting, start, hstart, (Except.ok.inj h).symm⟩
    · rename_i hne
      cases h
      exact .inl ⟨hwaiting, hne⟩
  · rintro (⟨hwaiting, hne⟩ | ⟨hwaiting, start, hstart, rfl⟩)
    · refine ⟨targets, hwaiting, ?_⟩
      cases targets with
      | nil => exact absurd rfl hne
      | cons target rest => rfl
    · exact ⟨[], hwaiting, bind_eq_ok.2 ⟨start, hstart, rfl⟩⟩

/-- What is computed for a delivery to all is what is found. -/
theorem Lookup.all_eq_ok : l.all m s = .ok targets ↔ l.FindsForAll m s targets := by
  simp only [Lookup.all, Lookup.FindsForAll, bind_eq_ok]
  constructor
  · rintro ⟨waiting, hwaiting, start, hstart, h⟩
    exact ⟨waiting, start, hwaiting, hstart, (Except.ok.inj h).symm⟩
  · rintro ⟨waiting, start, hwaiting, hstart, rfl⟩
    exact ⟨waiting, hwaiting, start, hstart, rfl⟩

theorem all_standard (h : Lookup.standard.all m s = .ok targets) :
    targets = waitingMatches s m.name m.criteria ++ (startMatch? s m.name m.criteria).toList :=
  (Except.ok.inj h).symm

theorem candidates_standard (h : Lookup.standard.candidates m s = .ok targets) :
    targets = waitingMatches s m.name m.criteria ∨
      waitingMatches s m.name m.criteria = [] ∧
        targets = (startMatch? s m.name m.criteria).toList := by
  rcases Lookup.candidates_eq_ok.1 h with ⟨hwaiting, -⟩ | ⟨hwaiting, start, hstart, rfl⟩
  · exact .inl (Except.ok.inj hwaiting).symm
  · obtain rfl : startMatch? s m.name m.criteria = start := Except.ok.inj hstart
    exact .inr ⟨Except.ok.inj hwaiting, rfl⟩

/-- Whichever delivery they are for, the targets are executions that wait and then at most one
definition. -/
theorem targets_standard
    (h : Lookup.standard.candidates m s = .ok targets ∨ Lookup.standard.all m s = .ok targets) :
    ∃ (waiting : List Match) (start : Option Match), targets = waiting ++ start.toList ∧
      (∀ target ∈ waiting, target ∈ waitingMatches s m.name m.criteria) ∧
      ∀ target ∈ start, startMatch? s m.name m.criteria = some target := by
  rcases h with h | h
  · rcases candidates_standard h with rfl | ⟨-, rfl⟩
    · exact ⟨_, none, (List.append_nil _).symm, fun _ htarget => htarget, by simp⟩
    · exact ⟨[], _, rfl, by simp, fun _ htarget => htarget⟩
  · exact ⟨_, _, all_standard h, fun _ htarget => htarget, fun _ htarget => htarget⟩

/-- What the targets for a delivery to all wait with. -/
theorem subscriptions_all (h : Lookup.standard.all m s = .ok targets) :
    targets.filterMap (·.subscription?) =
      (waitingMatches s m.name m.criteria).filterMap (·.subscription?) := by
  obtain rfl := all_standard h
  rw [List.filterMap_append, filterMap_startMatch?, List.append_nil]

/-- What the targets for a delivery to one wait with. -/
theorem subscriptions_candidates (h : Lookup.standard.candidates m s = .ok targets) :
    targets.filterMap (·.subscription?) =
      (waitingMatches s m.name m.criteria).filterMap (·.subscription?) := by
  rcases candidates_standard h with rfl | ⟨hnone, rfl⟩
  · rfl
  · rw [hnone, filterMap_startMatch?, List.filterMap_nil]

end

end Workflow.Correlation
