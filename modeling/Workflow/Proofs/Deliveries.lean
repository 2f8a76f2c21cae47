import Workflow.Proofs.Correlation.Phases
import Workflow.Proofs.Correlation.Targets
import Workflow.Proofs.Suspension.Handlers
import Workflow.Proofs.Tables
import Workflow.Proofs.TaskWork

/-!
# Every subscription is delivered at most once

Delivering a message uses up the subscription that it meets, and nothing else takes a subscription
away or adds a delivery. So in every run the subscriptions that wait in the beginning are those that
still wait and those that were delivered, none of them twice.

* `Store.Delivered s new s'` says this of two stores and the deliveries in between.
* `DeliveredOnce.deliver` is the step: delivering to a row that still waits.
* `dispatchAll_once`: a message for many targets, whose subscriptions were looked up before.
* `subscriptions_delivered_once`: every run of an engine.
-/

namespace Workflow

open Workflow.Action (Keeps)
open Correlation (Match Message Lookup Criteria)

/-! ## What was delivered -/

/-- Some deliveries lead from one store to another: their subscriptions are different rows of the
first store, messages that an execution waits for, and exactly these wait no longer. -/
structure Store.Delivered (s : Store) (new : List Delivery) (s' : Store) : Prop where
  deliveries : s'.deliveries = s.deliveries ++ new
  nodup : (new.map (·.subscription)).Nodup
  waited : ∀ d ∈ new, d.subscription ∈ s.subscriptions.rows ∧ d.subscription.isMessage ∧
    d.subscription.executionId.isSome
  remaining : s'.subscriptions =
    s.subscriptions.filter fun sub => sub ∉ new.map (·.subscription)

/-- What runs keep: what was delivered since the first store was delivered once, and executions are
filed under their ids. -/
structure Store.DeliveredOnce (s s' : Store) : Prop where
  delivered : ∃ new, s.Delivered new s'
  executions : s'.executions.Filed (·.id)

theorem Store.Delivered.refl (s : Store) : s.Delivered [] s where
  deliveries := (List.append_nil _).symm
  nodup := .nil
  waited _ h := absurd h List.not_mem_nil
  remaining := (Table.filter_eq_self (by simp)).symm

/-- The rows of the first store are those that remain and those that were delivered. -/
theorem Store.Delivered.perm {s s' : Store} {new : List Delivery} (h : s.Delivered new s')
    (hfiled : s.subscriptions.Filed (·.id)) :
    s.subscriptions.rows.Perm (s'.subscriptions.rows ++ new.map (·.subscription)) := by
  have hrows := hfiled.nodup_rows
  rw [h.remaining, Table.rows_filter]
  refine (List.perm_ext_iff_of_nodup hrows (List.nodup_append.2
    ⟨hrows.filter _, h.nodup, fun a ha b hb hab => ?_⟩)).2 fun sub => ?_
  · simpa [hab ▸ hb] using (List.mem_filter.1 ha).2
  · rw [List.mem_append, List.mem_filter]
    refine ⟨fun hmem => ?_, fun hmem => ?_⟩
    · by_cases hsub : sub ∈ new.map (·.subscription)
      · exact .inr hsub
      · exact .inl ⟨hmem, decide_eq_true hsub⟩
    · rcases hmem with hmem | hmem
      · exact hmem.1
      · obtain ⟨d, hd, rfl⟩ := List.mem_map.1 hmem
        exact (h.waited d hd).1

/-- What is no message, or waits for none, stays where it is. -/
theorem Store.Delivered.stays {s s' : Store} {new : List Delivery} (h : s.Delivered new s')
    {k : String} {sub : Subscription} (hsub : s.subscriptions.get? k = some sub)
    (hother : sub.isMessage = false ∨ sub.executionId = none) :
    s'.subscriptions.get? k = some sub := by
  have hnew : sub ∉ new.map (·.subscription) := by
    intro hmem
    obtain ⟨d, hd, rfl⟩ := List.mem_map.1 hmem
    obtain ⟨-, hmessage, hexecution⟩ := h.waited d hd
    rcases hother with hother | hother
    · rw [hother] at hmessage
      cases hmessage
    · rw [hother] at hexecution
      cases hexecution
  rw [h.remaining, Table.get?_filter, hsub]
  exact Option.filter_eq_some_iff.2 ⟨rfl, decide_eq_true hnew⟩

theorem Store.deliver_inv {s s' : Store} {sub : Subscription} {payload : Option Variables}
    (h : s.deliver sub payload = .ok s') :
    sub.executionId.isSome ∧ s'.subscriptions = s.subscriptions.erase sub.id ∧
      s'.deliveries = s.deliveries ++ [⟨sub, payload⟩] ∧
      (s.executions.Filed (·.id) → s'.executions.Filed (·.id)) := by
  obtain ⟨id, e, hid, -, rfl⟩ := deliver_eq_ok.1 h
  exact ⟨by rw [hid]; rfl, rfl, rfl, fun hs => hs.modify (f := (·.given payload)) (fun _ => rfl) _⟩

namespace Store.DeliveredOnce

variable {s s' s'' : Store}

theorem refl (h : s.executions.Filed (·.id)) : s.DeliveredOnce s := ⟨⟨[], .refl s⟩, h⟩

/-- Work that delivers nothing and takes no subscription away. -/
theorem of_eq (h : s.DeliveredOnce s') (hsubscriptions : s''.subscriptions = s'.subscriptions)
    (hdeliveries : s''.deliveries = s'.deliveries) (hexecutions : s''.executions.Filed (·.id)) :
    s.DeliveredOnce s'' := by
  obtain ⟨new, hnew⟩ := h.delivered
  exact ⟨⟨new, hdeliveries.trans hnew.deliveries, hnew.nodup, hnew.waited,
    hsubscriptions.trans hnew.remaining⟩, hexecutions⟩

/-- **Delivering to a subscription that still waits.** -/
theorem deliver (hfiled : s.subscriptions.Filed (·.id)) (h : s.DeliveredOnce s')
    {sub : Subscription} {payload : Option Variables} (hsub : sub ∈ s'.subscriptions.rows)
    (hmessage : sub.isMessage) (hok : s'.deliver sub payload = .ok s'') : s.DeliveredOnce s'' := by
  obtain ⟨new, hnew⟩ := h.delivered
  obtain ⟨hexecution, hsubscriptions, hdeliveries, hexecutions⟩ := deliver_inv hok
  have hwaits : sub ∈ s.subscriptions.rows ∧ sub ∉ new.map (·.subscription) := by
    rw [hnew.remaining, Table.rows_filter, List.mem_filter] at hsub
    exact ⟨hsub.1, of_decide_eq_true hsub.2⟩
  refine ⟨⟨new ++ [⟨sub, payload⟩], ?_, ?_, ?_, ?_⟩, hexecutions h.executions⟩
  · rw [hdeliveries, hnew.deliveries, List.append_assoc]
  · rw [List.map_append]
    refine List.nodup_append.2 ⟨hnew.nodup, by simp, fun a ha b hb hab => ?_⟩
    rw [List.map_singleton, List.mem_singleton] at hb
    rw [hab, hb] at ha
    exact hwaits.2 ha
  · intro d hd
    rcases List.mem_append.1 hd with hd | hd
    · exact hnew.waited d hd
    · obtain rfl := List.mem_singleton.1 hd
      exact ⟨hwaits.1, hmessage, hexecution⟩
  · rw [hsubscriptions, hnew.remaining, hfiled.erase_filter _ hwaits.1]
    congr 1
    funext w
    simp

theorem filed_subscriptions (h : s.DeliveredOnce s') (hs : s.subscriptions.Filed (·.id)) :
    s'.subscriptions.Filed (·.id) := by
  obtain ⟨new, hnew⟩ := h.delivered
  rw [hnew.remaining]
  exact hs.filter _

end Store.DeliveredOnce

/-! ## Handing a message out -/

namespace Correlation

variable {s : Store} {m : Message} {c : Context} {st st' : State}

/-- A start event leaves every subscription where it is. -/
theorem start_inv {definition : ProcessDefinition} {businessKey activityId : Option String}
    {vars : Variables} {e : Execution}
    (h : (start definition businessKey activityId vars).run c st = (.ok e, st')) :
    st'.store = st.store.putExecution e := by
  cases h
  rfl

theorem deliver_once {sub : Subscription} {payload : Option Variables}
    (hfiled : s.subscriptions.Filed (·.id)) (h : s.DeliveredOnce st.store)
    (hsub : Awaits st.store sub) (hrun : (deliver sub payload).run c st = (.ok (), st')) :
    s.DeliveredOnce st'.store ∧
      ∀ other, Awaits st.store other → other ≠ sub → Awaits st'.store other := by
  obtain ⟨s', hdeliver, rfl⟩ := Action.run_modify_eq_ok.1 hrun
  refine ⟨h.deliver hfiled hsub.1 hsub.2 hdeliver, fun other hother hne => ⟨?_, hother.2⟩⟩
  obtain ⟨-, hsubscriptions, -, -⟩ := Store.deliver_inv hdeliver
  have hfiled' := h.filed_subscriptions hfiled
  have hid : other.id ≠ sub.id := fun e => hne (hfiled'.eq_of_id_eq hother.1 hsub.1 e)
  refine Table.mem_rows_iff.2 ⟨other.id, ?_⟩
  rw [hsubscriptions, Table.get?_erase, if_neg hid, hfiled'.get?_of_mem hother.1]

/-- Handing a message to one target leaves alone what other targets wait with. -/
theorem dispatch_once {target : Match} (hfiled : s.subscriptions.Filed (·.id))
    (h : s.DeliveredOnce st.store) (htarget : ∀ sub ∈ target.subscription?, Awaits st.store sub)
    (hrun : (m.dispatch target).run c st = (.ok (), st')) :
    s.DeliveredOnce st'.store ∧ ∀ other, Awaits st.store other →
      target.subscription? ≠ some other → Awaits st'.store other := by
  cases target with
  | waiting execution sub =>
    obtain ⟨honce, hothers⟩ := deliver_once hfiled h (htarget sub rfl) hrun
    exact ⟨honce, fun other hother hne => hothers other hother fun e => hne (e ▸ rfl)⟩
  | start definition activityId =>
    obtain ⟨e, hstart⟩ := Action.run_discard_eq_ok.1 hrun
    have hstore := start_inv hstart
    rw [hstore]
    exact ⟨h.of_eq rfl rfl (h.executions.insert e), fun other hother _ => hother⟩

/-- **Handing a message to many targets.** Their subscriptions were looked up before the first of
them was delivered; each still waits when its turn comes, for they are different. -/
theorem dispatchAll_once {targets : List Match} (hfiled : s.subscriptions.Filed (·.id))
    (h : s.DeliveredOnce st.store)
    (htargets : ∀ sub ∈ targets.filterMap (·.subscription?), Awaits st.store sub)
    (hnodup : (targets.filterMap (·.subscription?)).Nodup)
    (hrun : (m.dispatchAll targets).run c st = (.ok (), st')) : s.DeliveredOnce st'.store := by
  induction targets generalizing st with
  | nil =>
    cases hrun
    exact h
  | cons target rest ih =>
    obtain ⟨_, st₁, hfirst, hrest⟩ := Action.run_bind_eq_ok.1 hrun
    have hfirst' : ∀ sub ∈ target.subscription?, Awaits st.store sub := fun sub hsub =>
      htargets sub (List.mem_filterMap.2 ⟨target, List.mem_cons_self, hsub⟩)
    obtain ⟨honce, hothers⟩ := dispatch_once hfiled h hfirst' hfirst
    cases hwaits : target.subscription? with
    | none =>
      rw [List.filterMap_cons_none hwaits] at htargets hnodup
      refine ih honce (fun sub hsub => ?_) hnodup hrest
      exact hothers sub (htargets sub hsub) (by simp [hwaits])
    | some first =>
      rw [List.filterMap_cons_some hwaits] at htargets hnodup
      obtain ⟨hnew, hnodup⟩ := List.nodup_cons.1 hnodup
      refine ih honce (fun sub hsub => ?_) hnodup hrest
      refine hothers sub (htargets sub (List.mem_cons_of_mem _ hsub)) fun e => hnew ?_
      rw [hwaits] at e
      exact Option.some.inj e ▸ hsub

/-! ## Message commands -/

section

variable {s : Store} {c : Context} {st st' : State}

/-- A message handed to targets whose subscriptions are those that were looked up. -/
theorem dispatchAll_lookup_once {m : Message} {targets : List Match}
    (hfiled : s.subscriptions.Filed (·.id)) (h : s.DeliveredOnce st.store)
    (htargets : targets.filterMap (·.subscription?) =
      (waitingMatches st.store m.name m.criteria).filterMap (·.subscription?))
    (hrun : (m.dispatchAll targets).run c st = (.ok (), st')) : s.DeliveredOnce st'.store := by
  refine dispatchAll_once hfiled h (fun sub hsub => ?_) ?_ hrun
  · rw [htargets] at hsub
    exact awaits_of_waitingMatches hsub
  · rw [htargets]
    exact nodup_waitingMatches h.executions _ _

theorem correlate_once {m : Message} {target : Match} (hfiled : s.subscriptions.Filed (·.id))
    (h : s.DeliveredOnce st.store) (hrun : (correlate .standard m).run c st = (.ok target, st')) :
    s.DeliveredOnce st'.store := by
  obtain ⟨hcandidates, -, hdispatch⟩ := correlate_inv hrun
  have hall : (m.dispatchAll [target]).run c st = (.ok (), st') :=
    (Action.run_bind_ok hdispatch).trans rfl
  exact dispatchAll_lookup_once hfiled h (subscriptions_candidates hcandidates) hall

theorem correlateAll_once {m : Message} {targets : List Match}
    (hfiled : s.subscriptions.Filed (·.id)) (h : s.DeliveredOnce st.store)
    (hrun : (correlateAll .standard m).run c st = (.ok targets, st')) :
    s.DeliveredOnce st'.store := by
  obtain ⟨hall, -, hdispatch⟩ := correlateAll_inv hrun
  exact dispatchAll_lookup_once hfiled h (subscriptions_all hall) hdispatch

theorem receive_once {name executionId : Option String} {payload : Option Variables}
    (hfiled : s.subscriptions.Filed (·.id)) (h : s.DeliveredOnce st.store)
    (hrun : (receive name executionId payload).run c st = (.ok (), st')) :
    s.DeliveredOnce st'.store := by
  obtain ⟨id, sub, _, hfound, -, -, hdeliver⟩ := receive_inv hrun
  exact (deliver_once hfiled h (awaits_of_subscriptionFor hfound).1 hdeliver).1

end

end Correlation

/-! ## Events -/

namespace Store.DeliveredOnce

variable {s : Store}

/-- Changing states delivers nothing. -/
theorem outcome (r : Suspension.Request) (c : Context) (before : Option SuspensionState)
    (st : State) (h : s.DeliveredOnce st.store) :
    s.DeliveredOnce (r.outcome c before st).store := by
  have heffect : s.DeliveredOnce (r.effect st).store := by
    unfold Suspension.Request.effect
    split
    · refine h.of_eq rfl rfl ?_
      rw [Suspension.Request.carriedOut_executions]
      exact h.executions.map fun _ => rfl
    · exact h.of_eq rfl rfl h.executions
  unfold Suspension.Request.outcome
  split
  · exact heffect.of_eq rfl rfl heffect.executions
  · exact heffect

theorem unschedule (t : Store) (id : String) (h : s.DeliveredOnce t) :
    s.DeliveredOnce (t.unschedule id) := h.of_eq rfl rfl h.executions

theorem recordFailure (t : Store) (id reason : String) (left : Nat) (t' : Store)
    (h : s.DeliveredOnce t) (hok : t.recordFailure id reason = .ok (left, t')) :
    s.DeliveredOnce t' := by
  obtain ⟨job, -, hok⟩ := bind_eq_ok.1 hok
  cases hok
  exact h.of_eq rfl rfl h.executions

theorem perform_deferred (j : DeferredJob) :
    Keeps s.DeliveredOnce (j.perform Suspension.handlers) :=
  j.perform_keeps (fun r c before st h => outcome r c before st h) unschedule

/-- Changing grants delivers nothing. -/
theorem of_grants {t : Store} (h : s.DeliveredOnce t) (grants : Table Grant) :
    s.DeliveredOnce { t with grants := grants } := h.of_eq rfl rfl h.executions

theorem saveGrant (g : Grant) : Keeps s.DeliveredOnce (Administration.saveGrant g) := by
  refine .bind (.decided _) fun _ => .bind (.consult _) fun known => ?_
  dsimp only
  split
  · refine .bind (.authorize _) fun _ => .bind (.modify fun t t' h hok => ?_) fun _ => .pure _
    unfold replaceGrant at hok
    split at hok <;> cases hok
    exact h.of_grants _
  · refine .bind (.authorize _) fun _ => .bind (.modify fun t t' h hok => ?_) fun _ => .pure _
    unfold addGrant at hok
    split at hok <;> cases hok
    exact h.of_grants _

theorem deleteGrant (id : String) : Keeps s.DeliveredOnce (Administration.deleteGrant id) := by
  refine .bind (.consult _) fun g => .bind (.authorize _) fun _ =>
    .bind (.update fun t h => h.of_grants _) fun _ => .discard ?_
  refine .bind (.pure _) fun id => .bind .context fun c => ?_
  split
  · refine .change fun t count t' h hok => ?_
    cases hok
    exact h.of_grants _
  · exact .pure _

/-- **A command that succeeds.** -/
theorem run_perform {command : Command} {c : Context} {st st' : State} {reply : Reply}
    (hfiled : s.subscriptions.Filed (·.id)) (h : s.DeliveredOnce st.store)
    (hrun : (command.perform {}).run c st = (.ok reply, st')) : s.DeliveredOnce st'.store := by
  cases command with
  | correlate m =>
    obtain ⟨_, hrun, -⟩ := Action.run_map_eq_ok.1 hrun
    exact Correlation.correlate_once hfiled h hrun
  | correlateAll m =>
    obtain ⟨_, hrun, -⟩ := Action.run_map_eq_ok.1 hrun
    exact Correlation.correlateAll_once hfiled h hrun
  | receive message executionId payload =>
    obtain ⟨_, hrun, -⟩ := Action.run_map_eq_ok.1 hrun
    exact Correlation.receive_once hfiled h hrun
  | startInstance message businessKey vars =>
    obtain ⟨e, hrun, -⟩ := Action.run_map_eq_ok.1 hrun
    obtain ⟨_, _, -, hstart⟩ := Correlation.startInstance_inv hrun
    rw [Correlation.start_inv hstart]
    exact h.of_eq rfl rfl (h.executions.insert e)
  | setStates r =>
    exact ((r.perform_keeps (fun r c before st h => outcome r c before st h) _).map _).of_run h hrun
  | delegate taskId user =>
    obtain ⟨_, hrun, -⟩ := Action.run_map_eq_ok.1 hrun
    obtain ⟨_, _, _, _, -, -, hstore⟩ := TaskWork.delegate_inv hrun
    rw [hstore]
    exact h.of_eq rfl rfl h.executions
  | setPriority taskId priority =>
    obtain ⟨_, hrun, -⟩ := Action.run_map_eq_ok.1 hrun
    obtain ⟨_, _, _, -, -, hstore⟩ := TaskWork.setPriority_inv hrun
    rw [hstore]
    exact h.of_eq rfl rfl h.executions
  | newGrant kind resource =>
    have hkeeps : Keeps s.DeliveredOnce (Administration.newGrant kind resource) :=
      .bind (.authorize _) fun _ => .bind .fresh fun _ => .pure _
    exact (hkeeps.map _).of_run h hrun
  | saveGrant g => exact ((saveGrant g).map _).of_run h hrun
  | deleteGrant id =>
    refine Keeps.of_run ?_ h hrun
    exact .bind (.decided _) fun id => .bind (deleteGrant id) fun _ => .pure _
  | grants q => exact (Keeps.map _ (.consult _)).of_run h hrun
  | isPermitted s permission resource resourceId =>
    refine Keeps.of_run ?_ h hrun
    exact .authorize _
  | instances q => exact (Keeps.map _ (.consult _)).of_run h hrun
  | jobs q => exact (Keeps.map _ (.consult _)).of_run h hrun
  | tasks q => exact (Keeps.map _ (.consult _)).of_run h hrun
  | runDeferred j => exact ((perform_deferred j).map _).of_run h hrun

theorem happen {settings : Settings} (hfiled : s.subscriptions.Filed (·.id)) (event : Engine.Event)
    (st : State) (h : s.DeliveredOnce st.store) :
    s.DeliveredOnce ((Engine.standard settings).happen st event).store := by
  cases event with
  | ask subject command =>
    change s.DeliveredOnce ((Engine.standard settings).ask subject command st).2.store
    rcases hask : (Engine.standard settings).ask subject command st with ⟨reason | reply, st'⟩
    · rw [Engine.store_ask_of_error hask]
      exact h
    · exact run_perform hfiled h (Engine.perform_of_ask hask)
  | look now => exact Engine.runDueJobs_keeps perform_deferred recordFailure now _ st h

end Store.DeliveredOnce

/-- **Every subscription is delivered at most once and none is lost.** Whatever happens to an
engine, the events delivered meanwhile met different subscriptions, rows of the table in the
beginning that an execution waited for a message with; and that table has these rows and those that
still wait, none of them twice. Start events and what waits for anything but a message stay. The
store files subscriptions and executions by their ids; if an execution stood in it twice, a message
for all would come to it twice. -/
theorem subscriptions_delivered_once (settings : Settings) (events : List Engine.Event) (st : State)
    (hsubscriptions : st.store.subscriptions.Filed (·.id))
    (hexecutions : st.store.executions.Filed (·.id)) :
    let final := ((Engine.standard settings).run events st).store
    ∃ new, st.store.Delivered new final ∧
      st.store.subscriptions.rows.Perm (final.subscriptions.rows ++ new.map (·.subscription)) ∧
      ∀ k sub, st.store.subscriptions.get? k = some sub →
        sub.isMessage = false ∨ sub.executionId = none → final.subscriptions.get? k = some sub := by
  intro final
  have honce : st.store.DeliveredOnce final :=
    Engine.run_keeps (Store.DeliveredOnce.happen hsubscriptions) events (.refl hexecutions)
  obtain ⟨new, hnew⟩ := honce.delivered
  exact ⟨new, hnew, hnew.perm hsubscriptions, fun _ _ => hnew.stays⟩

/-- An instance waits for a payment; the message comes twice, and then deferred jobs are looked
for. -/
theorem payment_delivered_once :
    let e := Execution.instanceOf "e" (ProcessDefinition.new "p" "order" 1)
    let sub := Subscription.toMessage "s" "paid" "e" "e" "wait" 0
    let paid : Message := ⟨some "paid", ⟨none, none, ∅⟩, ∅⟩
    let store := (Store.putExecution ∅ e).putSubscription sub
    let final := ((Engine.standard {}).run
      [.ask none (.correlateAll paid), .ask none (.correlate paid), .look 0] ⟨store, 0⟩).store
    store.subscriptions.Filed (·.id) ∧ store.executions.Filed (·.id) ∧
      final.deliveries = [⟨sub, none⟩] ∧
      ∃ new, store.Delivered new final ∧
        store.subscriptions.rows.Perm (final.subscriptions.rows ++ new.map (·.subscription)) ∧
        ∀ k sub, store.subscriptions.get? k = some sub →
          sub.isMessage = false ∨ sub.executionId = none →
            final.subscriptions.get? k = some sub := by
  intro e sub paid store final
  have hsubscriptions : store.subscriptions.Filed (·.id) := Table.Filed.empty.insert sub
  have hexecutions : store.executions.Filed (·.id) := Table.Filed.empty.insert e
  exact ⟨hsubscriptions, hexecutions, by decide +kernel,
    subscriptions_delivered_once {} _ ⟨store, 0⟩ hsubscriptions hexecutions⟩

end Workflow
