import Workflow.Proofs.Correlation.AllOrNothing

/-!
# Delivering to one and delivering to all

A delivery to one takes the execution that waits for the message or, if none does, the definition
that it starts; a delivery to all takes both. They look for the same executions and the same start
event, so what the one comes to says what the other would have come to. Only a start event that
the delivery to one need not look at makes a difference, by the permissions that it takes.

* `Store.SameUpTo`: stores that differ in the id of one process instance.
* `candidates_of_all`, `all_of_candidates`: from the targets for all to those for one, and back.
* `correlate_ambiguous`: what becomes of a delivery to one with none or several candidates.
* `dispatch_sameUpTo`: handing a message out does not depend on the ids that come next.
* `one_agrees_with_all`: what the two deliveries say of one another, put together from
  `correlate_of_only`, `correlate_of_none`, `correlate_of_several` and `correlateAll_of_first`.
-/

namespace Workflow

/-- The stores are the same up to the id of one process instance, which is `id` in the first store
and `id'` in the second. -/
def Store.SameUpTo (id id' : String) (s s' : Store) : Prop :=
  s = s' ∨ ∃ (rest : Store) (e : Execution), e.isInstance = true ∧
    s = rest.putExecution (e.withId id) ∧ s' = rest.putExecution (e.withId id')

/-- Up to an id that is no other, stores are the same only if they are equal. -/
@[simp] theorem Store.sameUpTo_self {id : String} {s s' : Store} :
    Store.SameUpTo id id s s' ↔ s = s' := by
  refine ⟨?_, .inl⟩
  rintro (rfl | ⟨rest, e, -, rfl, rfl⟩) <;> rfl

namespace Correlation

variable {l : Lookup} {m : Message} {c : Context} {s : Store} {st st' : State}
  {target : Match} {targets : List Match}

/-! ## Candidates -/

/-- Executions that wait are the only candidates of a delivery to one. -/
theorem candidates_of_waiting (h : waitingMatches s m.name m.criteria ≠ []) :
    Lookup.standard.candidates m s = .ok (waitingMatches s m.name m.criteria) :=
  Lookup.candidates_eq_ok.2 (.inl ⟨rfl, h⟩)

/-- If nobody waits, the candidate of a delivery to one is the definition that is started. -/
theorem candidates_of_nobody_waiting (h : waitingMatches s m.name m.criteria = []) :
    Lookup.standard.candidates m s = .ok (startMatch? s m.name m.criteria).toList :=
  Lookup.candidates_eq_ok.2 (.inr ⟨congrArg Except.ok h, _, rfl, rfl⟩)

/-- The only target for all is the only candidate for one. -/
theorem candidates_of_all (h : Lookup.standard.all m s = .ok [target]) :
    Lookup.standard.candidates m s = .ok [target] := by
  have htargets := all_standard h
  by_cases hwaiting : waitingMatches s m.name m.criteria = []
  · rw [candidates_of_nobody_waiting hwaiting, htargets, hwaiting, List.nil_append]
  · have hsingle : waitingMatches s m.name m.criteria = [target] := by
      rcases List.append_eq_singleton_iff.1 htargets.symm with ⟨hnone, -⟩ | ⟨hsingle, -⟩
      · exact absurd hnone hwaiting
      · exact hsingle
    rw [candidates_of_waiting hwaiting, hsingle]

/-- If the only candidate for one waits, it is the first target for all, and only a definition can
come after it. -/
theorem all_of_candidates {e : Execution} {sub : Subscription}
    (h : Lookup.standard.candidates m s = .ok [.waiting e sub]) :
    Lookup.standard.all m s =
      .ok (.waiting e sub :: (startMatch? s m.name m.criteria).toList) := by
  have hwaiting : waitingMatches s m.name m.criteria = [.waiting e sub] := by
    rcases candidates_standard h with hwaiting | ⟨-, hstart⟩
    · exact hwaiting.symm
    · have hmem : Match.waiting e sub ∈ (startMatch? s m.name m.criteria).toList :=
        hstart ▸ List.mem_singleton_self _
      obtain ⟨definition, activityId, heq⟩ := start_of_startMatch? (Option.mem_toList.1 hmem)
      cases heq
  simp only [Lookup.all, Lookup.standard, hwaiting]
  rfl

/-- As many targets wait as executions are found. -/
theorem countP_isWaiting (s : Store) (m : Message) :
    (waitingMatches s m.name m.criteria ++ (startMatch? s m.name m.criteria).toList).countP
      (·.isWaiting) = (waitingMatches s m.name m.criteria).length := by
  have hwaiting : (waitingMatches s m.name m.criteria).countP (·.isWaiting) =
      (waitingMatches s m.name m.criteria).length :=
    List.countP_eq_length.2 fun _ => isWaiting_of_mem_waitingMatches
  have hstart : (startMatch? s m.name m.criteria).toList.countP (·.isWaiting) = 0 := by
    refine List.countP_eq_zero.2 fun target htarget => ?_
    simp [isWaiting_of_startMatch? (Option.mem_toList.1 htarget)]
  rw [List.countP_append, hwaiting, hstart, Nat.add_zero]

/-! ## Deliveries to one -/

/-- A delivery to one fails unless there is exactly one candidate, and says how many there are. -/
theorem correlate_ambiguous (st : State) (hcriteria : m.requireCriteria = .ok ())
    (htargets : l.candidates m st.store = .ok targets)
    (hpermitted : ∀ target ∈ targets, target.require (c.authority st.store) = .ok ())
    (hcount : targets.length ≠ 1) : (correlate l m).run c st =
      (.error (.ambiguous (.targets m.name targets.length m.criteria)), st) := by
  have hsingle : m.single targets =
      .error (.ambiguous (.targets m.name targets.length m.criteria)) := by
    unfold Message.single
    split
    · simp at hcount
    · rfl
  have hall : requireAll (c.authority st.store) targets = .ok () := requireAll_eq_ok.2 hpermitted
  rw [correlate, Action.run_decided_bind, hcriteria]
  simp only [Action.run_consult_bind, htargets, Action.authorize, hall, Action.run_decided_bind,
    hsingle]

/-- Handing a message out does not depend on the ids that come next. -/
theorem dispatch_sameUpTo {n : Nat} (h : (m.dispatch target).run c ⟨s, n⟩ = (.ok (), st'))
    (n' : Nat) : ∃ st'', (m.dispatch target).run c ⟨s, n'⟩ = (.ok (), st'') ∧
      Store.SameUpTo (State.mintedId (n + 1)) (State.mintedId (n' + 1)) st'.store st''.store := by
  cases target with
  | waiting e sub =>
    rw [Message.dispatch, deliver] at h ⊢
    obtain ⟨delivered, hdelivered, rfl⟩ := Action.run_modify_eq_ok.1 h
    exact ⟨⟨delivered, n'⟩, Action.run_modify_eq_ok.2 ⟨delivered, hdelivered, rfl⟩, .inl rfl⟩
  | start definition activityId =>
    cases h
    let e := Execution.started "" definition m.criteria.businessKey activityId m.vars
    exact ⟨_, rfl, .inr ⟨s, e, rfl, rfl, rfl⟩⟩

/-- A definition is started without fail. -/
theorem dispatchAll_startMatch? (m : Message) (c : Context) (st : State) (s : Store) :
    ∃ st', (m.dispatchAll (startMatch? s m.name m.criteria).toList).run c st = (.ok (), st') := by
  cases hstart : startMatch? s m.name m.criteria with
  | none => exact ⟨st, rfl⟩
  | some target =>
    obtain ⟨definition, activityId, rfl⟩ := start_of_startMatch? hstart
    exact ⟨_, rfl⟩

/-! ## The two deliveries -/

/-- A message is delivered only if it has a name or criteria. -/
theorem requireCriteria_of_correlate (h : (correlate l m).run c st = (.ok target, st')) :
    m.requireCriteria = .ok () := by
  obtain ⟨_, hcriteria, -⟩ := Action.run_decided_bind_eq_ok.1 h
  exact hcriteria

theorem requireCriteria_of_correlateAll (h : (correlateAll l m).run c st = (.ok targets, st')) :
    m.requireCriteria = .ok () := by
  obtain ⟨_, hcriteria, -⟩ := Action.run_decided_bind_eq_ok.1 h
  exact hcriteria

/-- What a delivery of a message to one and a delivery to all say of one another, from the same store
but each with its own next id. -/
structure Message.OneAgreesWithAll (m : Message) (c : Context) (s : Store) (n n' : Nat) : Prop where
  /-- If there is one target for all, it is the one target, and what is written is the same. -/
  only : ∀ target st', (correlateAll .standard m).run c ⟨s, n⟩ = (.ok [target], st') →
    ∃ st'', (correlate .standard m).run c ⟨s, n'⟩ = (.ok target, st'') ∧
      Store.SameUpTo (State.mintedId (n + 1)) (State.mintedId (n' + 1)) st'.store st''.store
  /-- If there is no target for all, there is none for one, which is not enough. -/
  none : ∀ st', (correlateAll .standard m).run c ⟨s, n⟩ = (.ok [], st') →
    (correlate .standard m).run c ⟨s, n'⟩ =
      (.error (.ambiguous (.targets m.name 0 m.criteria)), ⟨s, n'⟩)
  /-- If several executions are targets for all, so they are for one, which is too many. -/
  several : ∀ targets st', (correlateAll .standard m).run c ⟨s, n⟩ = (.ok targets, st') →
    2 ≤ targets.countP (·.isWaiting) → (correlate .standard m).run c ⟨s, n'⟩ =
      (.error (.ambiguous (.targets m.name (targets.countP (·.isWaiting)) m.criteria)), ⟨s, n'⟩)
  /-- If an execution is the one target, it is the first one for all. After it there is at most a
  definition, and if there is, the delivery to all may be denied for it. -/
  first : ∀ e sub st', (correlate .standard m).run c ⟨s, n'⟩ = (.ok (.waiting e sub), st') →
    (∃ (start : Option Match) (st'' : State), (∀ target ∈ start, target.isWaiting = false) ∧
      (correlateAll .standard m).run c ⟨s, n⟩ = (.ok (.waiting e sub :: start.toList), st'')) ∨
    ∃ definition activityId d,
      Lookup.standard.all m s = .ok [.waiting e sub, .start definition activityId] ∧
      (Match.start definition activityId).require (c.authority s) = .error (.denied d) ∧
      (correlateAll .standard m).run c ⟨s, n⟩ = (.error (.denied d), ⟨s, n⟩)

section

variable {n n' : Nat}

theorem correlate_of_only (h : (correlateAll .standard m).run c ⟨s, n⟩ = (.ok [target], st')) :
    ∃ st'', (correlate .standard m).run c ⟨s, n'⟩ = (.ok target, st'') ∧
      Store.SameUpTo (State.mintedId (n + 1)) (State.mintedId (n' + 1)) st'.store st''.store := by
  obtain ⟨htargets, hpermitted, hdispatch⟩ := correlateAll_inv h
  obtain ⟨_, _, hfirst, hrest⟩ := Action.run_bind_eq_ok.1 hdispatch
  cases hrest
  obtain ⟨st'', hagain, hsame⟩ := dispatch_sameUpTo hfirst n'
  have hall : (m.dispatchAll [target]).run c ⟨s, n'⟩ = (.ok (), st'') :=
    (Action.run_bind_ok hagain).trans rfl
  have htarget : target.require (c.authority s) = .ok () :=
    requireAll_eq_ok.1 hpermitted target (List.mem_singleton_self _)
  exact ⟨st'', correlate_eq_ok (requireCriteria_of_correlateAll h) (candidates_of_all htargets)
    htarget hall, hsame⟩

theorem correlate_of_none (h : (correlateAll .standard m).run c ⟨s, n⟩ = (.ok [], st')) :
    (correlate .standard m).run c ⟨s, n'⟩ =
      (.error (.ambiguous (.targets m.name 0 m.criteria)), ⟨s, n'⟩) := by
  obtain ⟨htargets, -, -⟩ := correlateAll_inv h
  obtain ⟨hwaiting, hstart⟩ := List.append_eq_nil_iff.1 (all_standard htargets).symm
  have hcandidates : Lookup.standard.candidates m s = .ok [] := by
    rw [candidates_of_nobody_waiting hwaiting, hstart]
  exact correlate_ambiguous ⟨s, n'⟩ (requireCriteria_of_correlateAll h) hcandidates
    (List.forall_mem_nil _) (by simp)

theorem correlate_of_several (h : (correlateAll .standard m).run c ⟨s, n⟩ = (.ok targets, st'))
    (hseveral : 2 ≤ targets.countP (·.isWaiting)) : (correlate .standard m).run c ⟨s, n'⟩ =
      (.error (.ambiguous (.targets m.name (targets.countP (·.isWaiting)) m.criteria)),
        ⟨s, n'⟩) := by
  obtain ⟨htargets, hpermitted, -⟩ := correlateAll_inv h
  obtain rfl : targets = waitingMatches s m.name m.criteria ++
      (startMatch? s m.name m.criteria).toList := all_standard htargets
  rw [countP_isWaiting] at hseveral ⊢
  have hwaiting : waitingMatches s m.name m.criteria ≠ [] :=
    List.ne_nil_of_length_pos (by omega)
  refine correlate_ambiguous ⟨s, n'⟩ (requireCriteria_of_correlateAll h)
    (candidates_of_waiting hwaiting) (fun target htarget => ?_) (by omega)
  exact requireAll_eq_ok.1 hpermitted target (List.mem_append_left _ htarget)

theorem correlateAll_of_first {e : Execution} {sub : Subscription}
    (h : (correlate .standard m).run c ⟨s, n'⟩ = (.ok (.waiting e sub), st')) :
    (∃ (start : Option Match) (st'' : State), (∀ target ∈ start, target.isWaiting = false) ∧
      (correlateAll .standard m).run c ⟨s, n⟩ = (.ok (.waiting e sub :: start.toList), st'')) ∨
    ∃ definition activityId d,
      Lookup.standard.all m s = .ok [.waiting e sub, .start definition activityId] ∧
      (Match.start definition activityId).require (c.authority s) = .error (.denied d) ∧
      (correlateAll .standard m).run c ⟨s, n⟩ = (.error (.denied d), ⟨s, n⟩) := by
  obtain ⟨hcandidates, hpermitted, hdispatch⟩ := correlate_inv h
  have hcriteria := requireCriteria_of_correlate h
  have hall := all_of_candidates hcandidates
  have hexecution : (Match.waiting e sub).require (c.authority s) = .ok () :=
    requireAll_eq_ok.1 hpermitted _ (List.mem_singleton_self _)
  -- the subject is permitted to act on the execution, so what is left to decide is the definition
  by_cases hallowed : ∀ target, startMatch? s m.name m.criteria = some target →
      target.require (c.authority s) = .ok ()
  · left
    obtain ⟨st₁, hfirst, -⟩ := dispatch_sameUpTo hdispatch n
    obtain ⟨st₂, hrest⟩ := dispatchAll_startMatch? m c st₁ s
    refine ⟨startMatch? s m.name m.criteria, st₂, fun _ => isWaiting_of_startMatch?,
      correlateAll_eq_ok hcriteria hall ?_ ((Action.run_bind_ok hfirst).trans hrest)⟩
    simpa [hexecution] using hallowed
  · right
    push Not at hallowed
    obtain ⟨target, hfound, hforbidden⟩ := hallowed
    obtain ⟨definition, activityId, rfl⟩ := start_of_startMatch? hfound
    obtain ⟨d, hdenied⟩ := Match.denied_of_require hforbidden
    rw [hfound, Option.toList_some] at hall
    have hfirst : FirstDenied (c.authority s) [.waiting e sub, .start definition activityId] d :=
      ⟨[.waiting e sub], _, [], rfl, by simpa using hexecution, hdenied⟩
    exact ⟨definition, activityId, d, hall, hdenied, correlateAll_denied hcriteria hall hfirst⟩

end

/-- **A delivery to one and a delivery to all agree**, on whatever store and whoever asks. -/
theorem one_agrees_with_all (m : Message) (c : Context) (s : Store) (n n' : Nat) :
    m.OneAgreesWithAll c s n n' where
  only _ _ := correlate_of_only
  none _ := correlate_of_none
  several _ _ := correlate_of_several
  first _ _ _ := correlateAll_of_first

/-- An order waits for its payment, and a payment starts another order. Somebody who may update
orders but not create any can deliver the payment to the one that waits, and is denied a delivery to
all for the one that would be started. -/
example :
    let definition := ProcessDefinition.new "p" "order" 1
    let order := Execution.instanceOf "i" definition
    let wait := Subscription.toMessage "s" "paid" "i" "i" "wait" 0
    let begin := Subscription.toStartMessage "t" "paid" definition.id "begin" 0
    let grant : Grant := { Grant.new "a" .give .processInstance with
      user := some "john", permissions := .ofList [.update] }
    let store := (((((∅ : Store).putDefinition definition).putExecution order).putSubscription
      wait).putSubscription begin).putGrant grant
    let paid : Message := ⟨some "paid", ⟨none, none, ∅⟩, ∅⟩
    let john : Context := ⟨true, some ⟨"john", []⟩⟩
    ((correlate .standard paid).run john ⟨store, 0⟩).1 = .ok (.waiting order wait) ∧
    ((correlateAll .standard paid).run john ⟨store, 0⟩).1 =
      .error (.denied ⟨"john", .create, .processInstance, none⟩) := by
  decide +kernel

end Correlation

end Workflow
