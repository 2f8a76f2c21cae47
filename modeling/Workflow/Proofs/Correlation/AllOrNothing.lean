import Mathlib
import Workflow.Proofs.Correlation.Phases
import Workflow.Proofs.Correlation.Targets
import Workflow.Proofs.Runs

/-!
# Correlation is all or nothing

A message is handed out to all of its targets or to none. If the subject is not permitted to act on
one of them, the delivery is denied before anything is written; and what the standard look-up finds
can be handed the message without fail, for a delivery takes nothing from the targets after it.

* `Message.Addressed`: a message says what its targets are.
* `FirstDenied`: the first target that is not permitted, and the denial. `requireAll_of_firstDenied`
  and `exists_firstDenied` say that the subject is denied for this target and no other.
* `Message.handedOut`: the store after a message was handed out, row by row in terms of the store
  before; `run_dispatchAll_standard` says that handing it out leads there.
* `Message.RefusesWhole`, `Message.DeliversWhole`: what this means for the commands that deliver to
  one and to all. `correlation_all_or_nothing` is both.
-/

namespace Workflow

/-- What is required and lacking is denied. -/
theorem Authority.denied_of_requireAny {a : Authority} {checks : List Check} {e : Error}
    (h : a.requireAny checks = .error e) : ∃ d, e = .denied d := by
  unfold requireAny at h
  split at h
  · cases h
  · split at h
    · cases h
    · split at h
      · exact ⟨_, (Except.error.inj h).symm⟩
      · cases h

namespace Correlation

variable {a : Authority} {targets : List Match}

/-- A message says what its targets are: it has a name or criteria. -/
def Message.Addressed (m : Message) : Prop :=
  m.name.isSome ∨ m.criteria.businessKey.isSome ∨ m.criteria.instanceId.isSome ∨
    m.criteria.keys ≠ ∅

theorem Message.requireCriteria_eq_ok {m : Message} :
    m.requireCriteria = .ok () ↔ m.Addressed := by
  unfold Message.requireCriteria Message.Addressed Criteria.isEmpty
  cases m.name <;> cases m.criteria.businessKey <;> cases m.criteria.instanceId <;>
    simp [← Table.isEmpty_entries_iff]

/-! ## The first target that is denied -/

/-- The first target that the subject is not permitted to act on is denied. -/
def FirstDenied (a : Authority) (targets : List Match) (d : Denial) : Prop :=
  ∃ before target after, targets = before ++ target :: after ∧
    (∀ other ∈ before, other.require a = .ok ()) ∧ target.require a = .error (.denied d)

theorem Match.denied_of_require {target : Match} (h : target.require a ≠ .ok ()) :
    ∃ d, target.require a = .error (.denied d) := by
  cases hrequire : target.require a with
  | ok u => exact absurd hrequire h
  | error e =>
    obtain ⟨d, rfl⟩ : ∃ d, e = .denied d := by
      cases target with
      | waiting execution subscription => exact Authority.denied_of_requireAny hrequire
      | start definition activityId =>
        simp only [Match.require, Authority.requireStart] at hrequire
        cases hcreate : a.require .create .processInstance none with
        | error e' =>
          rw [hcreate] at hrequire
          obtain ⟨d, rfl⟩ := Authority.denied_of_requireAny hcreate
          exact ⟨d, (Except.error.inj hrequire).symm⟩
        | ok u =>
          rw [hcreate] at hrequire
          exact Authority.denied_of_requireAny hrequire
    exact ⟨d, rfl⟩

theorem requireAll_eq_ok : requireAll a targets = .ok () ↔ ∀ target ∈ targets,
    target.require a = .ok () := by
  induction targets with
  | nil => simp [requireAll]
  | cons target rest ih =>
    rw [requireAll, List.forall_mem_cons, ← ih]
    cases target.require a with
    | error e => simp [bind, Except.bind]
    | ok u => simp [bind, Except.bind]

theorem requireAll_of_firstDenied {d : Denial} (h : FirstDenied a targets d) :
    requireAll a targets = .error (.denied d) := by
  obtain ⟨before, target, after, rfl, hbefore, htarget⟩ := h
  induction before with
  | nil =>
    rw [List.nil_append, requireAll, htarget]
    rfl
  | cons first rest ih =>
    obtain ⟨hfirst, hrest⟩ := List.forall_mem_cons.1 hbefore
    rw [List.cons_append, requireAll, hfirst]
    exact ih hrest

/-- If a target is not permitted, there is a first one. -/
theorem exists_firstDenied (h : ∃ target ∈ targets, target.require a ≠ .ok ()) :
    ∃ d, FirstDenied a targets d := by
  induction targets with
  | nil => simp at h
  | cons first rest ih =>
    by_cases hfirst : first.require a = .ok ()
    · have hrest : ∃ target ∈ rest, target.require a ≠ .ok () := by simpa [hfirst] using h
      obtain ⟨d, before, target, after, rfl, hbefore, htarget⟩ := ih hrest
      exact ⟨d, first :: before, target, after, rfl,
        List.forall_mem_cons.2 ⟨hfirst, hbefore⟩, htarget⟩
    · obtain ⟨d, hd⟩ := Match.denied_of_require hfirst
      exact ⟨d, [], first, rest, rfl, by simp, hd⟩

section

variable {l : Lookup} {m : Message} {c : Context} {st : State} {d : Denial}

theorem correlate_denied (hcriteria : m.requireCriteria = .ok ())
    (htargets : l.candidates m st.store = .ok targets)
    (hdenied : FirstDenied (c.authority st.store) targets d) :
    (correlate l m).run c st = (.error (.denied d), st) := by
  rw [correlate, Action.run_decided_bind, hcriteria]
  simp only [Action.run_consult_bind, htargets]
  exact Action.run_authorize_bind_error (requireAll_of_firstDenied hdenied)

theorem correlateAll_denied (hcriteria : m.requireCriteria = .ok ())
    (htargets : l.all m st.store = .ok targets)
    (hdenied : FirstDenied (c.authority st.store) targets d) :
    (correlateAll l m).run c st = (.error (.denied d), st) := by
  rw [correlateAll, Action.run_decided_bind, hcriteria]
  simp only [Action.run_consult_bind, htargets]
  exact Action.run_authorize_bind_error (requireAll_of_firstDenied hdenied)

end

/-! ## The store after a message was handed out -/

/-- The process instance that a target belongs to, if it waits. -/
def Match.instanceId? : Match → Option String
  | .waiting execution _ => some execution.instanceId
  | .start _ _ => none

@[simp] theorem Match.instanceId?_waiting (e : Execution) (sub : Subscription) :
    (Match.waiting e sub).instanceId? = some e.instanceId := rfl

@[simp] theorem Match.instanceId?_start (d : ProcessDefinition) (activityId : Option String) :
    (Match.start d activityId).instanceId? = none := rfl

/-- What goes along with a message: nothing if no variable was set. -/
def Message.enclosed? (m : Message) : Option Variables :=
  if m.vars = ∅ then none else some m.vars

theorem Message.payload_eq_enclosed? (m : Message) : m.payload = m.enclosed? := by
  simp only [Message.payload, Message.enclosed?, Table.isEmpty_entries_iff]

/-- The process instance that comes of a target, if it is started: an active one of the definition,
at the activity of the target, with the business key and the variables of the message. -/
def Message.started? (m : Message) (fresh : String) : Match → Option Execution
  | .waiting _ _ => none
  | .start definition activityId =>
    some
      { id := fresh
        instanceId := fresh
        parentId := none
        definitionId := definition.id
        definitionKey := definition.key
        activityId := activityId
        businessKey := m.criteria.businessKey
        isActive := true
        state := .active
        vars := m.vars }

/-- The store after executions that wait were handed a message. Their instances have its variables,
and for each of them in turn its subscription is gone and the delivery is noted. -/
def Message.resumed (m : Message) (targets : List Match) (s : Store) : Store :=
  { s with
    executions := s.executions.map fun e =>
      if e.id ∈ targets.filterMap (·.instanceId?) then e.given m.enclosed? else e
    subscriptions := s.subscriptions.filter fun sub =>
      sub.id ∉ (targets.filterMap (·.subscription?)).map (·.id)
    deliveries := s.deliveries ++ (targets.filterMap (·.subscription?)).map (⟨·, m.enclosed?⟩) }

/-- The store after a message was handed out to targets: the executions among them are resumed, and
there is an instance of the definition among them, filed under a fresh id. -/
def Message.handedOut (m : Message) (fresh : String) (targets : List Match) (s : Store) : Store :=
  match targets.findSome? (m.started? fresh) with
  | none => m.resumed targets s
  | some e =>
    { m.resumed targets s with executions := (m.resumed targets s).executions.insert fresh e }

/-- The execution of a target is stored, in the instance that it was found in, and waits with the
subscription of the target. -/
def Match.Stands (s : Store) (target : Match) : Prop :=
  ∃ e sub e', target = .waiting e sub ∧ sub.executionId = some e.id ∧
    s.executions.get? e.id = some e' ∧ e'.instanceId = e.instanceId

theorem given_given (payload : Option Variables) (e : Execution) :
    (e.given payload).given payload = e.given payload := by
  cases payload with
  | none => rfl
  | some vars => simp [Execution.given, Table.union_union_self]

/-- An event leaves other targets standing. -/
theorem Match.Stands.handedOver {s : Store} {target : Match} (h : target.Stands s)
    (instanceId : String) (sub : Subscription) (payload : Option Variables) :
    target.Stands (s.handedOver instanceId sub payload) := by
  obtain ⟨e, own, e', htarget, hof, hrow, hinstance⟩ := h
  by_cases he : e.id = instanceId
  · refine ⟨e, own, e'.given payload, htarget, hof, ?_, hinstance⟩
    simp [Store.handedOver, he, he ▸ hrow]
  · refine ⟨e, own, e', htarget, hof, ?_, hinstance⟩
    simp [Store.handedOver, he, hrow]

/-- **One delivery after the other.** Resuming the executions after the first was handed its event is
resuming all of them. -/
theorem resumed_cons {m : Message} {e : Execution} {sub : Subscription} {s : Store}
    (hexecutions : s.executions.Filed (·.id)) (hsubscriptions : s.subscriptions.Filed (·.id)) :
    m.resumed targets (s.handedOver e.instanceId sub m.enclosed?) =
      m.resumed (.waiting e sub :: targets) s := by
  have htable : (s.executions.modify e.instanceId (·.given m.enclosed?)).map (fun e' =>
        if e'.id ∈ targets.filterMap (·.instanceId?) then e'.given m.enclosed? else e') =
      s.executions.map fun e' =>
        if e'.id ∈ (Match.waiting e sub :: targets).filterMap (·.instanceId?) then
          e'.given m.enclosed?
        else e' := by
    apply Table.ext
    intro k
    rw [Table.get?_map, Table.get?_modify, Table.get?_map]
    cases hrow : s.executions.get? k with
    | none => simp
    | some e' =>
      obtain rfl := hexecutions k e' hrow
      by_cases hown : e'.id = e.instanceId
      · have hid : (e'.given m.enclosed?).id = e.instanceId := hown
        simp [hown, hid, given_given]
      · simp [hown]
  have hremoved : (s.subscriptions.erase sub.id).filter (fun w =>
        w.id ∉ (targets.filterMap (·.subscription?)).map (·.id)) =
      s.subscriptions.filter fun w =>
        w.id ∉ ((Match.waiting e sub :: targets).filterMap (·.subscription?)).map (·.id) := by
    have hids : ((Match.waiting e sub :: targets).filterMap (·.subscription?)).map (·.id) =
        sub.id :: (targets.filterMap (·.subscription?)).map (·.id) := rfl
    rw [hsubscriptions.erase_eq_filter, Table.filter_filter, hids]
    congr 1
    funext w
    rw [Bool.eq_iff_iff]
    simp
  simp only [Message.resumed, Store.handedOver, htable, hremoved]
  simp

/-- A definition that is started resumes nothing. -/
theorem resumed_append_start (m : Message) (before : List Match) (d : ProcessDefinition)
    (activityId : Option String) (s : Store) :
    m.resumed (before ++ [.start d activityId]) s = m.resumed before s := by
  have hinstances : (before ++ [Match.start d activityId]).filterMap (·.instanceId?) =
      before.filterMap (·.instanceId?) := by simp
  have hsubs : (before ++ [Match.start d activityId]).filterMap (·.subscription?) =
      before.filterMap (·.subscription?) := by simp
  simp only [Message.resumed, hinstances, hsubs]

/-! ## Handing a message out -/

section

variable {m : Message} {c : Context} {st st' : State}

theorem run_dispatchAll_append (before after : List Match) :
    (m.dispatchAll (before ++ after)).run c st =
      (m.dispatchAll before >>= fun _ => m.dispatchAll after).run c st := by
  induction before generalizing st with
  | nil => rfl
  | cons target rest ih =>
    rw [List.cons_append, Message.dispatchAll, Message.dispatchAll, bind_assoc, Action.run_bind,
      Action.run_bind]
    rcases (m.dispatch target).run c st with ⟨_ | _, st₁⟩
    · rfl
    · exact ih

/-- An execution that stands is handed its event. -/
theorem run_dispatch_waiting {e : Execution} {sub : Subscription}
    (h : (Match.waiting e sub).Stands st.store) :
    (m.dispatch (.waiting e sub)).run c st =
      (.ok (), { st with store := st.store.handedOver e.instanceId sub m.enclosed? }) := by
  obtain ⟨_, _, e', heq, hof, hrow, hinstance⟩ := h
  obtain ⟨rfl, rfl⟩ := Match.waiting.inj heq
  have hdeliver : st.store.deliver sub m.payload =
      .ok (st.store.handedOver e.instanceId sub m.enclosed?) :=
    Store.deliver_eq_ok.2 ⟨e.id, e', hof, hrow, by rw [hinstance, m.payload_eq_enclosed?]⟩
  rw [Message.dispatch, deliver, Action.run_modify, hdeliver]

/-- **Executions that stand are all resumed**, however many share an instance. -/
theorem run_dispatchAll_waiting (htargets : ∀ target ∈ targets, target.Stands st.store)
    (hexecutions : st.store.executions.Filed (·.id))
    (hsubscriptions : st.store.subscriptions.Filed (·.id)) :
    (m.dispatchAll targets).run c st = (.ok (), { st with store := m.resumed targets st.store }) := by
  induction targets generalizing st with
  | nil =>
    have hnone : m.resumed [] st.store = st.store := by
      simp [Message.resumed, Table.map_eq_self, Table.filter_eq_self]
    rw [hnone]
    rfl
  | cons target rest ih =>
    obtain ⟨hfirst, hrest⟩ := List.forall_mem_cons.1 htargets
    obtain ⟨e, sub, -, rfl, -⟩ := id hfirst
    have hlater := @ih { st with store := st.store.handedOver e.instanceId sub m.enclosed? }
      (fun other hother => (hrest other hother).handedOver _ _ _)
      (hexecutions.modify (f := (·.given m.enclosed?)) (fun _ => rfl) _)
      (hsubscriptions.erase sub.id)
    rw [Message.dispatchAll, Action.run_bind, run_dispatch_waiting hfirst]
    dsimp only
    rw [hlater, resumed_cons hexecutions hsubscriptions]

/-- Targets that wait are found standing. -/
theorem stands_of_mem_waitingMatches {s : Store} (hexecutions : s.executions.Filed (·.id))
    {target : Match} {name : Option String} {criteria : Criteria}
    (h : target ∈ waitingMatches s name criteria) : target.Stands s := by
  obtain ⟨e, sub, rfl, hrow, -, -, hof⟩ := waiting_of_mem_waitingMatches h
  exact ⟨e, sub, e, rfl, hof, hexecutions.get?_of_mem hrow, rfl⟩

theorem started?_of_stands {s : Store} {fresh : String} {target : Match} (h : target.Stands s) :
    m.started? fresh target = none := by
  obtain ⟨e, sub, -, rfl, -⟩ := h
  rfl

/-- **What the standard look-up finds can be handed the message.** -/
theorem run_dispatchAll_standard
    (htargets : Lookup.standard.candidates m st.store = .ok targets ∨
      Lookup.standard.all m st.store = .ok targets)
    (hexecutions : st.store.executions.Filed (·.id))
    (hsubscriptions : st.store.subscriptions.Filed (·.id)) :
    ∃ minted, (m.dispatchAll targets).run c st =
      (.ok (), ⟨m.handedOut (State.mintedId (st.minted + 1)) targets st.store, minted⟩) := by
  obtain ⟨waiting, start, rfl, hwaiting, hstart⟩ := targets_standard htargets
  have hstands : ∀ target ∈ waiting, target.Stands st.store := fun target htarget =>
    stands_of_mem_waitingMatches hexecutions (hwaiting target htarget)
  have hnone (fresh : String) : waiting.findSome? (m.started? fresh) = none :=
    List.findSome?_eq_none_iff.2 fun target htarget => started?_of_stands (hstands target htarget)
  have hrun := run_dispatchAll_waiting (m := m) (c := c) hstands hexecutions hsubscriptions
  rw [run_dispatchAll_append, Action.run_bind_ok hrun]
  cases start with
  | none =>
    refine ⟨st.minted, ?_⟩
    simp [Message.handedOut, Message.dispatchAll, hnone]
  | some target =>
    obtain ⟨definition, activityId, rfl⟩ := start_of_startMatch? (hstart target rfl)
    refine ⟨st.minted + 1, ?_⟩
    rw [Option.toList_some, Message.handedOut, resumed_append_start, List.findSome?_append, hnone]
    rfl

theorem correlate_eq_ok {l : Lookup} {target : Match} (hcriteria : m.requireCriteria = .ok ())
    (htarget : l.candidates m st.store = .ok [target])
    (hpermitted : target.require (c.authority st.store) = .ok ())
    (hdispatch : (m.dispatchAll [target]).run c st = (.ok (), st')) :
    (correlate l m).run c st = (.ok target, st') := by
  have hall : requireAll (c.authority st.store) [target] = .ok () :=
    requireAll_eq_ok.2 (by simpa using hpermitted)
  obtain ⟨_, _, hfirst, hrest⟩ := Action.run_bind_eq_ok.1 hdispatch
  cases hrest
  simp only [correlate, Action.run_decided_bind_eq_ok, Action.run_consult_bind_eq_ok,
    Action.run_authorize_bind_eq_ok]
  exact ⟨(), hcriteria, [target], htarget, (), hall, target, rfl, Action.run_bind_ok hfirst⟩

theorem correlateAll_eq_ok {l : Lookup} (hcriteria : m.requireCriteria = .ok ())
    (htargets : l.all m st.store = .ok targets)
    (hpermitted : ∀ target ∈ targets, target.require (c.authority st.store) = .ok ())
    (hdispatch : (m.dispatchAll targets).run c st = (.ok (), st')) :
    (correlateAll l m).run c st = (.ok targets, st') := by
  simp only [correlateAll, Action.run_decided_bind_eq_ok, Action.run_consult_bind_eq_ok,
    Action.run_authorize_bind_eq_ok]
  exact ⟨(), hcriteria, targets, htargets, (), requireAll_eq_ok.2 hpermitted,
    Action.run_bind_ok hdispatch⟩

end

/-! ## Whole deliveries -/

/-- A message that is refused is refused as a whole, whatever finds its targets: it is denied for
the first target that is not permitted, and nothing has happened by then. -/
structure Message.RefusesWhole (m : Message) (l : Lookup) (c : Context) (st : State) : Prop where
  /-- A delivery to one, if a candidate is not permitted. -/
  one : ∀ targets, m.Addressed → l.FindsForOne m st.store targets →
    (∃ target ∈ targets, target.require (c.authority st.store) ≠ .ok ()) →
    ∃ d, FirstDenied (c.authority st.store) targets d ∧
      (correlate l m).run c st = (.error (.denied d), st)
  /-- A delivery to all, if a target is not permitted. -/
  all : ∀ targets, m.Addressed → l.FindsForAll m st.store targets →
    (∃ target ∈ targets, target.require (c.authority st.store) ≠ .ok ()) →
    ∃ d, FirstDenied (c.authority st.store) targets d ∧
      (correlateAll l m).run c st = (.error (.denied d), st)

/-- A message that is not refused is delivered as a whole to what the standard look-up finds. -/
structure Message.DeliversWhole (m : Message) (c : Context) (st : State) : Prop where
  /-- A delivery to one succeeds once its target is permitted. -/
  one : ∀ target, m.Addressed → Lookup.standard.FindsForOne m st.store [target] →
    target.require (c.authority st.store) = .ok () →
    ∃ st', (correlate .standard m).run c st = (.ok target, st')
  /-- A delivery to all succeeds once its targets are permitted. -/
  all : ∀ targets, m.Addressed → Lookup.standard.FindsForAll m st.store targets →
    (∀ target ∈ targets, target.require (c.authority st.store) = .ok ()) →
    ∃ st', (correlateAll .standard m).run c st = (.ok targets, st')
  /-- A delivery to one that succeeds has handed the message to the one target that is found and
  done nothing else. -/
  one_store : ∀ target st', (correlate .standard m).run c st = (.ok target, st') →
    Lookup.standard.FindsForOne m st.store [target] ∧
      st'.store = m.handedOut (State.mintedId (st.minted + 1)) [target] st.store
  /-- A delivery to all that succeeds has handed the message to the targets that are found, of which
  at most one is started, and done nothing else. -/
  all_store : ∀ targets st', (correlateAll .standard m).run c st = (.ok targets, st') →
    Lookup.standard.FindsForAll m st.store targets ∧
      (targets.filterMap (m.started? (State.mintedId (st.minted + 1)))).length ≤ 1 ∧
      st'.store = m.handedOut (State.mintedId (st.minted + 1)) targets st.store

section

variable {m : Message} {c : Context} {st st' : State}

theorem refusesWhole (m : Message) (l : Lookup) (c : Context) (st : State) :
    m.RefusesWhole l c st where
  one targets hcriteria htargets hforbidden := by
    obtain ⟨d, hd⟩ := exists_firstDenied hforbidden
    exact ⟨d, hd, correlate_denied (Message.requireCriteria_eq_ok.2 hcriteria)
      (Lookup.candidates_eq_ok.2 htargets) hd⟩
  all targets hcriteria htargets hforbidden := by
    obtain ⟨d, hd⟩ := exists_firstDenied hforbidden
    exact ⟨d, hd, correlateAll_denied (Message.requireCriteria_eq_ok.2 hcriteria)
      (Lookup.all_eq_ok.2 htargets) hd⟩

/-- Of the targets at most one is started. -/
theorem length_started_standard {s : Store} (h : Lookup.standard.all m s = .ok targets)
    (fresh : String) : (targets.filterMap (m.started? fresh)).length ≤ 1 := by
  obtain ⟨waiting, start, rfl, hwaiting, -⟩ := targets_standard (.inr h)
  have hnone : waiting.filterMap (m.started? fresh) = [] := by
    refine List.filterMap_eq_nil_iff.2 fun target htarget => ?_
    obtain ⟨e, sub, rfl, -⟩ := waiting_of_mem_waitingMatches (hwaiting target htarget)
    rfl
  have hstart := start.toList.length_filterMap_le (m.started? fresh)
  rw [List.filterMap_append, hnone, List.nil_append]
  exact Nat.le_trans hstart (by cases start <;> simp)

/-- A message that was handed out has led to the one store that it can lead to. -/
theorem store_of_dispatchAll
    (htargets : Lookup.standard.candidates m st.store = .ok targets ∨
      Lookup.standard.all m st.store = .ok targets)
    (hexecutions : st.store.executions.Filed (·.id))
    (hsubscriptions : st.store.subscriptions.Filed (·.id))
    (hrun : (m.dispatchAll targets).run c st = (.ok (), st')) :
    st'.store = m.handedOut (State.mintedId (st.minted + 1)) targets st.store := by
  obtain ⟨minted, hdispatch⟩ :=
    run_dispatchAll_standard (c := c) htargets hexecutions hsubscriptions
  rw [hdispatch] at hrun
  cases hrun
  rfl

theorem deliversWhole (m : Message) (c : Context) (st : State)
    (hexecutions : st.store.executions.Filed (·.id))
    (hsubscriptions : st.store.subscriptions.Filed (·.id)) : m.DeliversWhole c st where
  one target haddressed hfound hpermitted := by
    have hcriteria := Message.requireCriteria_eq_ok.2 haddressed
    have htarget := Lookup.candidates_eq_ok.2 hfound
    obtain ⟨minted, hdispatch⟩ :=
      run_dispatchAll_standard (c := c) (.inl htarget) hexecutions hsubscriptions
    exact ⟨_, correlate_eq_ok hcriteria htarget hpermitted hdispatch⟩
  all targets haddressed hfound hpermitted := by
    have hcriteria := Message.requireCriteria_eq_ok.2 haddressed
    have htargets := Lookup.all_eq_ok.2 hfound
    obtain ⟨minted, hdispatch⟩ :=
      run_dispatchAll_standard (c := c) (.inr htargets) hexecutions hsubscriptions
    exact ⟨_, correlateAll_eq_ok hcriteria htargets hpermitted hdispatch⟩
  one_store target st' hrun := by
    obtain ⟨htarget, -, hdispatch⟩ := correlate_inv hrun
    have hall : (m.dispatchAll [target]).run c st = (.ok (), st') :=
      (Action.run_bind_ok hdispatch).trans rfl
    exact ⟨Lookup.candidates_eq_ok.1 htarget,
      store_of_dispatchAll (.inl htarget) hexecutions hsubscriptions hall⟩
  all_store targets st' hrun := by
    obtain ⟨htargets, -, hdispatch⟩ := correlateAll_inv hrun
    exact ⟨Lookup.all_eq_ok.1 htargets, length_started_standard htargets _,
      store_of_dispatchAll (.inr htargets) hexecutions hsubscriptions hdispatch⟩

/-- **A message is handed out to all of its targets or to none.** Whatever finds the targets, a
delivery is denied for the first one that is not permitted, with nothing done by then, and a
delivery that is asked for and fails leaves the store as it was. What the standard look-up finds is
handed the message without fail, and nothing else is done. The store files executions and
subscriptions by their ids. -/
theorem correlation_all_or_nothing (m : Message) (c : Context) (st : State)
    (hexecutions : st.store.executions.Filed (·.id))
    (hsubscriptions : st.store.subscriptions.Filed (·.id)) :
    (∀ l : Lookup, m.RefusesWhole l c st) ∧
    (∀ (e : Engine) (subject : Option Subject) (command : Command),
      command = .correlate m ∨ command = .correlateAll m → ∀ reason st',
        e.ask subject command st = (.error reason, st') → st'.store = st.store) ∧
    m.DeliversWhole c st :=
  ⟨fun l => refusesWhole m l c st, fun _ _ _ _ _ _ hask => Engine.store_ask_of_error hask,
    deliversWhole m c st hexecutions hsubscriptions⟩

/-- Two branches of an order wait for its payment, which also starts a process of its own. Nobody in
particular may pay: both branches go on, and there is a new instance with the business key and the
variables of the payment. Of somebody without any grant, the payment is refused for the first
branch. -/
theorem payment_handed_to_both_branches :
    let definition := ProcessDefinition.new "p" "order" 1
    let order := { Execution.instanceOf "i" definition with businessKey := some "42" }
    let left := Execution.childOf "l" order
    let right := Execution.childOf "r" order
    let first := Subscription.toMessage "s" "paid" "l" "i" "wait" 0
    let second := Subscription.toMessage "t" "paid" "r" "i" "wait" 0
    let event := Subscription.toStartMessage "u" "paid" "order:1:p" "book" 0
    let store := (((((((∅ : Store).putDefinition definition).putExecution order).putExecution
      left).putExecution right).putSubscription first).putSubscription second).putSubscription event
    let vars : Variables := .ofList [("amount", .integer 7)]
    let paid : Message := ⟨some "paid", ⟨some "42", none, ∅⟩, vars⟩
    let targets :=
      [Match.waiting left first, Match.waiting right second, Match.start definition (some "book")]
    let booking : Execution :=
      { id := State.mintedId 1
        instanceId := State.mintedId 1
        parentId := none
        definitionId := "order:1:p"
        definitionKey := "order"
        activityId := some "book"
        businessKey := some "42"
        isActive := true
        state := .active
        vars := vars }
    let denial : Denial := ⟨"john", .updateInstances, .processDefinition, some "order"⟩
    store.executions.Filed (·.id) ∧ store.subscriptions.Filed (·.id) ∧
    (∃ st', (correlateAll .standard paid).run ⟨true, none⟩ ⟨store, 0⟩ = (.ok targets, st') ∧
      st'.store = { store with
        executions := (store.executions.insert "i" { order with vars := vars }).insert
          (State.mintedId 1) booking
        subscriptions := .ofList [("u", event)]
        deliveries := [⟨first, some vars⟩, ⟨second, some vars⟩] }) ∧
    (correlateAll .standard paid).run ⟨true, some ⟨"john", []⟩⟩ ⟨store, 0⟩ =
      (.error (.denied denial), ⟨store, 0⟩) := by
  intro definition order left right first second event store vars paid targets booking denial
  have hexecutions : store.executions.Filed (·.id) :=
    ((Table.Filed.empty.insert order).insert left).insert right
  have hsubscriptions : store.subscriptions.Filed (·.id) :=
    ((Table.Filed.empty.insert first).insert second).insert event
  have hwhole (c : Context) :=
    correlation_all_or_nothing paid c ⟨store, 0⟩ hexecutions hsubscriptions
  have haddressed : paid.Addressed := .inl rfl
  have hfound : Lookup.standard.FindsForAll paid store targets := by
    refine ⟨[Match.waiting left first, Match.waiting right second],
      some (Match.start definition (some "book")), ?_, ?_, rfl⟩ <;> cbv
  refine ⟨hexecutions, hsubscriptions, ?_, ?_⟩
  · obtain ⟨-, -, hdelivers⟩ := hwhole ⟨true, none⟩
    obtain ⟨st', hrun⟩ := hdelivers.all targets haddressed hfound fun target _ => by
      cases target <;> rfl
    obtain ⟨-, -, hstore⟩ := hdelivers.all_store targets st' hrun
    refine ⟨st', hrun, ?_⟩
    rw [hstore]
    decide +kernel
  · obtain ⟨hrefuses, -, -⟩ := hwhole ⟨true, some ⟨"john", []⟩⟩
    have hfirst : FirstDenied (Context.authority ⟨true, some ⟨"john", []⟩⟩ store) targets denial :=
      ⟨[], _, _, rfl, by simp, by cbv⟩
    have hforbidden : ∃ target ∈ targets,
        target.require (Context.authority ⟨true, some ⟨"john", []⟩⟩ store) ≠ .ok () :=
      ⟨_, List.mem_cons_self, fun h => by cbv at h; cases h⟩
    obtain ⟨d, hd, hrun⟩ := (hrefuses .standard).all targets haddressed hfound hforbidden
    have heq := (requireAll_of_firstDenied hd).symm.trans (requireAll_of_firstDenied hfirst)
    obtain rfl : d = denial := by injection heq with heq; injection heq
    exact hrun

end

end Correlation

end Workflow
