import Workflow.Proofs.Agreement
import Workflow.Proofs.Correlation.Suspended
import Workflow.Proofs.Runs
import Workflow.Proofs.Suspension.Free
import Workflow.Proofs.Suspension.Handlers

/-!
# The two ways past permissions

Permissions are bypassed where they are not enforced, whoever asks, and where they are enforced but
nobody asks. Both come to the same: what commands look up for the sake of permissions is looked up in
either case, what they require is granted, and their queries show every row. The audit log names the
one who asked in the first case and nobody in the second.

* `Undenied`: a decision is not refused for want of a permission.
* `Latitude` is what two runs may differ in, `Store.Mirrors` that two stores differ in nothing else.
* `Action.Blind`: run in two free contexts and in stores that mirror each other, an action ends
  alike, undenied and in stores that mirror each other. The combinators make blind actions from
  blind actions.
* `Command.blind`: commands are blind; those that do not use grants are so whatever the grants are.
* `bypasses_are_the_same`: the two ways of asking an engine.
-/

namespace Workflow

open Workflow.Action (Over)

/-! ## Decisions without denials -/

/-- What is decided is not refused for want of a permission. -/
def Undenied {α : Type} (x : Except Error α) : Prop := FailsOnly (·.isDenied = false) x

namespace Undenied

variable {α : Type}

theorem of_onlyMissing {x : Except Error α} (h : OnlyMissing x) : Undenied x := by
  intro e he
  have hmissing := h e he
  cases e <;> first | rfl | cases hmissing

theorem ensureGiven (what : String) (value : Option String) :
    Undenied (ensureGiven what value) := by
  cases value with
  | none => exact .error rfl
  | some v => exact .ok v

end Undenied

/-! ## Stores that mirror each other -/

/-- The entry with the user under another name. -/
def LogEntry.renamed (f : Option String → Option String) (entry : LogEntry) : LogEntry :=
  { entry with user := f entry.user }

/-- What two runs may differ in: how the audit log names users, and the grants. -/
structure Latitude where
  /-- The audit log in the beginning. -/
  log : List LogEntry
  /-- What the second run calls the users of the first. -/
  rename : Option String → Option String
  /-- Nobody is nobody in both. -/
  rename_none : rename none = none
  /-- How the grants of the two runs are related. -/
  grants : Table Grant → Table Grant → Prop

/-- The second store is the first one up to what there is latitude for. -/
structure Store.Mirrors (l : Latitude) (s s' : Store) : Prop where
  log : ∃ written, s.log = l.log ++ written ∧ s'.log = l.log ++ written.map (·.renamed l.rename)
  grants : l.grants s.grants s'.grants
  others : s' = { s with grants := s'.grants, log := s'.log }

/-- Two free contexts, with the user of the one and of the other. -/
structure Latitude.Pairs (l : Latitude) (c c' : Context) : Prop where
  free : c.IsFree
  free' : c'.IsFree
  user : l.rename (c.subject.map (·.user)) = c'.subject.map (·.user)

theorem Latitude.Pairs.unauthenticated {l : Latitude} (c c' : Context) :
    l.Pairs c.unauthenticated c'.unauthenticated :=
  ⟨.unauthenticated c, .unauthenticated c', l.rename_none⟩

namespace Store.Mirrors

variable {l : Latitude} {s s' : Store}

/-- What neither reads nor writes grants and log does the same to both stores. -/
theorem write {f : Store → Store} (h : s.Mirrors l s')
    (hf : ∀ s grants log, f { s with grants := grants, log := log } =
      { f s with grants := grants, log := log }) : (f s).Mirrors l (f s') := by
  have hs : f s = { f s with grants := s.grants, log := s.log } := hf s s.grants s.log
  have hs' : f s' = { f s with grants := s'.grants, log := s'.log } := by
    rw [h.others]
    exact hf s s'.grants s'.log
  rw [hs, hs']
  exact ⟨h.log, h.grants, rfl⟩

theorem record (h : s.Mirrors l s') {c c' : Context} (hc : l.Pairs c c') (entry : LogEntry) :
    (s.record { entry with user := c.subject.map (·.user) }).Mirrors l
      (s'.record { entry with user := c'.subject.map (·.user) }) where
  log := by
    obtain ⟨written, hlog, hlog'⟩ := h.log
    refine ⟨written ++ [{ entry with user := c.subject.map (·.user) }], ?_, ?_⟩
    · rw [Store.record, hlog, List.append_assoc]
    · rw [Store.record, hlog', List.map_append, List.append_assoc, ← hc.user]
      rfl
  grants := h.grants
  others := by
    rw [h.others]
    rfl

/-- Where the grants are the same, only the log may differ. -/
theorem eq_of_grants (hl : l.grants = Eq) (h : s.Mirrors l s') :
    s' = { s with log := s'.log } := by
  have hgrants : s.grants = s'.grants := by
    have hrelated := h.grants
    rwa [hl] at hrelated
  have hothers := h.others
  rwa [← hgrants] at hothers

end Store.Mirrors

/-! ## Blind actions -/

namespace Action

variable {α β : Type} {l : Latitude}

/-- Two runs end alike and undenied, in stores that mirror each other. -/
structure EndAlike (l : Latitude) (r r' : Except Error α × State) : Prop where
  answer : r.1 = r'.1
  undenied : Undenied r.1
  state : Over (Store.Mirrors l) r.2 r'.2

/-- The action does not see which free context it runs in, nor what there is latitude for. -/
def Blind (l : Latitude) (a : Action α) : Prop :=
  ∀ c c', l.Pairs c c' → ∀ st st', Over (Store.Mirrors l) st st' →
    EndAlike l (a.run c st) (a.run c' st')

namespace Blind

theorem pure (x : α) : Blind l (Pure.pure x : Action α) := fun _ _ _ _ _ hst => ⟨rfl, .ok x, hst⟩

theorem decided {r : Except Error α} (h : Undenied r) : Blind l (decided r) :=
  fun _ _ _ _ _ hst => ⟨rfl, h, hst⟩

theorem fail {e : Error} (h : e.isDenied = false) : Blind l (fail e : Action α) :=
  decided (.error h)

theorem consult {f : Context → Store → Except Error α}
    (hf : ∀ c c' s s', l.Pairs c c' → s.Mirrors l s' → f c s = f c' s')
    (hundenied : ∀ c s, c.IsFree → Undenied (f c s)) : Blind l (consult f) :=
  fun c c' hc st _ hst => ⟨hf c c' _ _ hc hst.store, hundenied c st.store hc.free, hst⟩

/-- What is read does not depend on grants and log. -/
theorem read {f : Store → Except Error α}
    (hf : ∀ s grants log, f { s with grants := grants, log := log } = f s)
    (hundenied : ∀ s, Undenied (f s)) : Blind l (Action.consult fun _ s => f s) := by
  refine consult (fun _ _ s s' _ hs => ?_) fun _ s _ => hundenied s
  rw [hs.others]
  exact (hf s s'.grants s'.log).symm

/-- What is required is granted. -/
theorem authorize {f : Authority → Except Error Unit} (hf : ∀ a, a.bound? = none → f a = .ok ()) :
    Blind l (authorize f) := by
  refine consult (fun c c' s s' hc _ => ?_) fun c s hc => ?_
  · rw [hf _ (hc.free.bound? s), hf _ (hc.free'.bound? s')]
  · rw [hf _ (hc.bound? s)]
    exact .ok ()

theorem fresh : Blind l fresh := by
  intro c c' _ st st' hst
  refine ⟨?_, .ok _, hst.store, congrArg (· + 1) hst.minted⟩
  simp only [run_fresh, hst.minted]

theorem update {f : Store → Store} (hf : ∀ s grants log, f { s with grants := grants, log := log } =
    { f s with grants := grants, log := log }) : Blind l (update f) :=
  fun _ _ _ _ _ hst => ⟨rfl, .ok (), hst.store.write hf, hst.minted⟩

theorem modify {f : Store → Except Error Store}
    (hf : ∀ s s', s.Mirrors l s' →
      (∃ e, e.isDenied = false ∧ f s = .error e ∧ f s' = .error e) ∨
        ∃ t t', f s = .ok t ∧ f s' = .ok t' ∧ t.Mirrors l t') : Blind l (modify f) := by
  intro c c' _ st st' hst
  rw [run_modify, run_modify]
  obtain ⟨e, he, hs, hs'⟩ | ⟨t, t', hs, hs', ht⟩ := hf _ _ hst.store
  · rw [hs, hs']
    exact ⟨rfl, .error he, hst⟩
  · rw [hs, hs']
    exact ⟨rfl, .ok (), ht, hst.minted⟩

theorem audit (entry : LogEntry) : Blind l (audit entry) :=
  fun _ _ hc _ _ hst => ⟨rfl, .ok (), hst.store.record hc entry, hst.minted⟩

theorem bind {a : Action α} {f : α → Action β} (ha : Blind l a) (hf : ∀ x, Blind l (f x)) :
    Blind l (a >>= f) := by
  intro c c' hc st st' hst
  have hfirst := ha c c' hc st st' hst
  rw [run_bind, run_bind]
  revert hfirst
  generalize a.run c st = r, a.run c' st' = r'
  obtain ⟨x, st₁⟩ := r
  obtain ⟨x', st₁'⟩ := r'
  rintro ⟨hanswer, hundenied, hstate⟩
  obtain rfl : x = x' := hanswer
  cases x with
  | ok x => exact hf x c c' hc st₁ st₁' hstate
  | error e => exact ⟨rfl, .error (hundenied e rfl), hstate⟩

theorem map {a : Action α} (ha : Blind l a) (f : α → β) : Blind l (f <$> a) := by
  rw [map_eq_pure_bind]
  exact ha.bind fun x => .pure (f x)

theorem unauthenticated {a : Action α} (ha : Blind l a) : Blind l (unauthenticated a) :=
  fun c c' _ st st' hst => ha _ _ (.unauthenticated c c') st st' hst

theorem atomically {a : Action α} (ha : Blind l a) : Blind l (atomically a) := by
  intro c c' hc st st' hst
  have hrun := ha c c' hc st st' hst
  rw [run_atomically, run_atomically]
  revert hrun
  generalize a.run c st = r, a.run c' st' = r'
  obtain ⟨x, st₁⟩ := r
  obtain ⟨x', st₁'⟩ := r'
  rintro ⟨hanswer, hundenied, hstate⟩
  obtain rfl : x = x' := hanswer
  cases x with
  | ok x => exact ⟨rfl, .ok x, hstate⟩
  | error e => exact ⟨rfl, hundenied, hst.store, hstate.minted⟩

end Blind

end Action

open Workflow.Action (Blind)

variable {l : Latitude}

/-! ## Messages -/

namespace Correlation

theorem undenied_requireCriteria (m : Message) : Undenied m.requireCriteria := by
  unfold Message.requireCriteria
  split
  · exact .error rfl
  · exact .ok ()

theorem undenied_single (m : Message) (targets : List Match) : Undenied (m.single targets) := by
  unfold Message.single
  split
  · exact .ok _
  · exact .error rfl

theorem undenied_candidates (m : Message) (s : Store) :
    Undenied (Lookup.standard.candidates m s) := by
  refine .bind (.ok _) fun waiting => ?_
  split <;> exact .ok _

theorem undenied_subscriptionFor (s : Store) (executionId : String) (name : Option String) :
    Undenied (subscriptionFor s executionId name) := by
  unfold subscriptionFor
  split
  · exact .ok _
  · exact .error rfl
  · exact .error rfl

theorem undenied_instanceOf (s : Store) (subscription : Subscription) (executionId : String) :
    Undenied (instanceOf s subscription executionId) := by
  unfold instanceOf
  split
  · exact .of_onlyMissing (.row _ _ _)
  · exact .error rfl

theorem undenied_startEventFor (s : Store) (name : String) : Undenied (startEventFor s name) := by
  unfold startEventFor
  split
  · exact .ok _
  · exact .error rfl

theorem undenied_startedDefinition (s : Store) (subscription : Subscription) (name : String) :
    Undenied (startedDefinition s subscription name) := by
  unfold startedDefinition
  split
  · exact .error rfl
  · split
    · exact .ok _
    · exact .error rfl

theorem blind_deliver (subscription : Subscription) (payload : Option Variables) :
    Blind l (deliver subscription payload) := by
  refine .modify fun s s' hs => ?_
  cases hof : subscription.executionId with
  | none =>
    rw [Store.deliver_of_none hof, Store.deliver_of_none hof]
    exact .inl ⟨_, rfl, rfl, rfl⟩
  | some id =>
    have hexecutions : s'.executions = s.executions := by rw [hs.others]
    rw [Store.deliver_of_some hof, Store.deliver_of_some hof, hexecutions]
    unfold Store.row
    cases s.executions.get? id with
    | none => exact .inl ⟨_, rfl, rfl, rfl⟩
    | some e =>
      exact .inr ⟨_, _, rfl, rfl,
        hs.write (f := (·.handedOver e.instanceId subscription payload)) fun _ _ _ => rfl⟩

theorem blind_start (definition : ProcessDefinition) (businessKey activityId : Option String)
    (vars : Variables) : Blind l (start definition businessKey activityId vars) :=
  .bind .fresh fun _ => .bind (.update fun _ _ _ => rfl) fun _ => .pure _

theorem blind_dispatch (m : Message) (target : Match) : Blind l (m.dispatch target) := by
  cases target with
  | waiting execution subscription => exact blind_deliver subscription m.payload
  | start definition activityId => exact Blind.map (blind_start _ _ _ _) _

theorem blind_dispatchAll (m : Message) (targets : List Match) : Blind l (m.dispatchAll targets) := by
  induction targets with
  | nil => exact .pure ()
  | cons target rest ih => exact (blind_dispatch m target).bind fun _ => ih

theorem blind_correlate (m : Message) : Blind l (correlate .standard m) := by
  refine .bind (.decided (undenied_requireCriteria m)) fun _ => ?_
  refine .bind (.read (fun _ _ _ => rfl) (undenied_candidates m)) fun candidates => ?_
  refine .bind (.authorize fun a ha => Authority.requireAll_of_free ha candidates) fun _ => ?_
  refine .bind (.decided (undenied_single m candidates)) fun target => ?_
  exact .bind (blind_dispatch m target) fun _ => .pure target

theorem blind_correlateAll (m : Message) : Blind l (correlateAll .standard m) := by
  refine .bind (.decided (undenied_requireCriteria m)) fun _ => ?_
  refine .bind (.read (fun _ _ _ => rfl) fun _ => .ok _) fun targets => ?_
  refine .bind (.authorize fun a ha => Authority.requireAll_of_free ha targets) fun _ => ?_
  exact .bind (blind_dispatchAll m targets) fun _ => .pure targets

theorem blind_receive (name executionId : Option String) (payload : Option Variables) :
    Blind l (receive name executionId payload) := by
  refine .bind (.decided (.ensureGiven _ _)) fun id => ?_
  refine .bind (.read (fun _ _ _ => rfl) fun s => undenied_subscriptionFor s id name) fun sub => ?_
  refine .bind (.read (fun _ _ _ => rfl) fun s => undenied_instanceOf s sub id) fun owner => ?_
  refine .bind (.authorize fun a ha => Authority.requireUpdateInstance_of_free ha ..) fun _ => ?_
  exact blind_deliver sub payload

theorem blind_startInstance (name businessKey : Option String) (vars : Variables) :
    Blind l (startInstance name businessKey vars) := by
  have hnamed (name : String) : Blind l (do
      let subscription ← Action.consult fun _ s => startEventFor s name
      let definition ← Action.consult fun _ s => startedDefinition s subscription name
      Action.authorize (·.requireStart definition.key)
      start definition businessKey subscription.activityId vars) := by
    refine .bind (.read (fun _ _ _ => rfl) fun s => undenied_startEventFor s name) fun sub => ?_
    refine .bind (.read (fun _ _ _ => rfl) fun s => undenied_startedDefinition s sub name)
      fun definition => ?_
    refine .bind (.authorize fun a ha => Authority.requireStart_of_free ha _) fun _ => ?_
    exact blind_start _ _ _ _
  unfold startInstance
  cases name with
  | none => exact .bind (.fail rfl) hnamed
  | some name => exact .bind (.pure name) hnamed

end Correlation

/-! ## Changes of states -/

namespace Suspension

variable {r : Request}

theorem Request.undenied_admission {c : Context} (hc : c.IsFree) (s : Store) :
    Undenied (r.admission c s) := by
  cases hselector : r.normalized.selector with
  | ok selector => exact .of_onlyMissing (onlyMissing_admission hc hselector s)
  | error e =>
    have he : e.isDenied = false := by
      unfold Request.selector at hselector
      split at hselector
      · cases hselector
        rfl
      · split at hselector <;> cases hselector
        rfl
    simp only [admission, hselector]
    exact .error he

theorem Request.over_outcome {c c' : Context} (hc : l.Pairs c c') (before : Option SuspensionState)
    {st st' : State} (hst : Over (Store.Mirrors l) st st') :
    Over (Store.Mirrors l) (r.outcome c before st) (r.outcome c' before st') := by
  have heffect : Over (Store.Mirrors l) (r.effect st) (r.effect st') := by
    unfold Request.effect
    cases r.date with
    | none => exact ⟨hst.store.write (f := r.carriedOut) fun _ _ _ => rfl, hst.minted⟩
    | some date =>
      rw [hst.minted]
      exact ⟨hst.store.write (f := (·.putDeferredJob (r.deferredJob _ date))) fun _ _ _ => rfl, rfl⟩
  unfold Request.outcome
  split
  · exact ⟨heffect.store.record hc _, heffect.minted⟩
  · exact heffect

theorem Request.blind_perform (r : Request) (o : Origin) : Blind l (r.perform o) := by
  intro c c' hc st st' hst
  have hadmission : r.admission c' st'.store = r.admission c st.store := by
    rw [hst.store.others]
    exact admission_eq_of_free hc.free hc.free' ..
  have hundenied := undenied_admission (r := r) hc.free st.store
  cases o with
  | request =>
    rw [run_perform_request, run_perform_request, decidedRun, decidedRun, hadmission]
    cases hdecided : r.admission c st.store with
    | ok before => exact ⟨rfl, .ok (), over_outcome hc before hst⟩
    | error e => exact ⟨rfl, .error (hundenied e hdecided), hst⟩
  | schedule =>
    rw [run_perform_schedule, run_perform_schedule, hadmission]
    cases hdecided : r.admission c st.store with
    | ok before => exact ⟨rfl, .ok (), over_outcome hc before hst⟩
    | error e =>
      refine ⟨rfl, ?_, hst⟩
      dsimp only
      split
      · exact .ok ()
      · exact .error (hundenied e hdecided)

theorem blind_handler (target : Target) (state : SuspensionState) (text : String) :
    Blind l (handler target state text) := by
  have hchange (config : Config) : Blind l
      (if config.target = target && config.state = state then config.toRequest.perform .schedule
        else Action.fail
          (.invalid (.handler (target.handlerType state) config.state config.target))) := by
    split
    · exact config.toRequest.blind_perform _
    · exact .fail rfl
  unfold handler
  cases Config.ofText? text with
  | none => exact .bind (.fail rfl) hchange
  | some config => exact .bind (.pure config) hchange

end Suspension

theorem DeferredJob.blind_perform (j : DeferredJob) : Blind l (j.perform Suspension.handlers) := by
  unfold perform
  split
  · exact .fail rfl
  · rename_i handler hfind
    obtain ⟨target, state, rfl⟩ := Suspension.handler_of_find? hfind
    have hhandler := Suspension.blind_handler (l := l) target state j.configuration
    exact hhandler.unauthenticated.bind fun _ => .update fun _ _ _ => rfl

/-! ## Tasks -/

namespace TaskWork

theorem blind_find (taskId : Option String) : Blind l (find taskId) := by
  refine .bind (.decided (.ensureGiven _ _)) fun id => ?_
  refine .read (fun _ _ _ => rfl) fun s => ?_
  split
  · exact .ok _
  · exact .error rfl

theorem blind_replaceTask (t : Task) : Blind l (Action.modify (·.replaceTask t)) := by
  refine .modify fun s s' hs => ?_
  have htasks : s'.tasks = s.tasks := by rw [hs.others]
  unfold Store.replaceTask
  rw [htasks]
  split
  · exact .inr ⟨_, _, rfl, rfl, hs.write (f := (·.putTask t)) fun _ _ _ => rfl⟩
  · exact .inl ⟨_, rfl, rfl, rfl⟩

theorem blind_delegate (taskId user : Option String) : Blind l (delegate taskId user) := by
  refine .bind (blind_find taskId) fun t => ?_
  refine .bind (.decided (.ensureGiven _ _)) fun user => ?_
  refine .bind (.authorize fun a ha => Authority.requireUpdateTask_of_free ha t) fun _ => ?_
  exact .bind (blind_replaceTask _) fun _ => .audit _

theorem blind_setPriority (taskId : Option String) (priority : Int) :
    Blind l (setPriority taskId priority) := by
  refine .bind (blind_find taskId) fun t => ?_
  refine .bind (.authorize fun a ha => Authority.requireUpdateTask_of_free ha t) fun _ => ?_
  exact .bind (blind_replaceTask _) fun _ => .audit _

end TaskWork

/-! ## Searches -/

namespace Search

theorem blind_instances (q : InstanceQuery) : Blind l (instances q) := by
  refine .consult (fun c c' s s' hc hs => ?_) fun _ _ _ => .ok _
  rw [selectInstances_of_free hc.free, selectInstances_of_free hc.free', hs.others]

theorem blind_jobs (q : JobQuery) : Blind l (jobs q) := by
  refine .consult (fun c c' s s' hc hs => ?_) fun _ _ _ => .ok _
  rw [selectJobs_of_free hc.free, selectJobs_of_free hc.free', hs.others]

theorem blind_tasks (q : TaskQuery) : Blind l (tasks q) := by
  refine .consult (fun c c' s s' hc hs => ?_) fun _ _ _ => .ok _
  rw [selectTasks_of_free hc.free, selectTasks_of_free hc.free', hs.others]

end Search

/-! ## Grants -/

namespace Administration

theorem blind_newGrant (kind : GrantKind) (resource : Resource) :
    Blind l (newGrant kind resource) := by
  refine .bind (.authorize fun a ha => Authority.require_of_free ha ..) fun _ => ?_
  exact .bind .fresh fun _ => .pure _

section

variable (hl : l.grants = Eq)
include hl

theorem mirrors_putGrant {s s' : Store} (hs : s.Mirrors l s') (g : Grant) :
    (s.putGrant g).Mirrors l (s'.putGrant g) where
  log := hs.log
  grants := by
    rw [hl, hs.eq_of_grants hl]
    rfl
  others := by
    rw [hs.eq_of_grants hl]
    rfl

theorem blind_replaceGrant (g : Grant) : Blind l (Action.modify (·.replaceGrant g)) := by
  refine .modify fun s s' hs => ?_
  have hgrants : s'.grants = s.grants := by rw [hs.eq_of_grants hl]
  unfold Store.replaceGrant
  rw [hgrants]
  split
  · exact .inr ⟨_, _, rfl, rfl, mirrors_putGrant hl hs g⟩
  · exact .inl ⟨_, rfl, rfl, rfl⟩

theorem blind_addGrant (g : Grant) : Blind l (Action.modify (·.addGrant g)) := by
  refine .modify fun s s' hs => ?_
  have hgrants : s'.grants = s.grants := by rw [hs.eq_of_grants hl]
  unfold Store.addGrant
  rw [hgrants]
  split
  · exact .inl ⟨_, rfl, rfl, rfl⟩
  · exact .inr ⟨_, _, rfl, rfl, mirrors_putGrant hl hs g⟩

theorem blind_saveGrant (g : Grant) : Blind l (saveGrant g) := by
  have hsound : Undenied (requireSound g) := by
    unfold requireSound
    split
    · exact .error rfl
    · exact .ok ()
  have hknown : Blind l (Action.consult fun _ s => .ok (s.grants.contains g.id)) := by
    refine .consult (fun _ _ s s' _ hs => ?_) fun _ _ _ => .ok _
    rw [hs.eq_of_grants hl]
  refine .bind (.decided hsound) fun _ => .bind hknown fun known => ?_
  cases known with
  | true =>
    refine .bind (.authorize fun a ha => Authority.require_of_free ha ..) fun _ => ?_
    exact .bind (blind_replaceGrant hl g) fun _ => .pure g
  | false =>
    refine .bind (.authorize fun a ha => Authority.require_of_free ha ..) fun _ => ?_
    exact .bind (blind_addGrant hl g) fun _ => .pure g

theorem blind_selectGrants (q : GrantQuery) : Blind l (selectGrants q) := by
  refine .consult (fun c c' s s' hc hs => ?_) fun _ _ _ => .ok _
  rw [Search.selectGrants_of_free hc.free, Search.selectGrants_of_free hc.free', hs.eq_of_grants hl]

end

end Administration

/-! ## Commands -/

namespace Command

/-- Whether a command itself asks whether permissions are enforced, rather than what is permitted. -/
def asksEnforcement : Command → Bool
  | isPermitted .. | deleteGrant _ => true
  | _ => false

/-- Whether a command is about the grants of the store. -/
def usesGrants : Command → Bool
  | saveGrant _ | deleteGrant _ | grants _ | isPermitted .. => true
  | _ => false

/-- **Commands are blind**, for whatever grants if they do not use them. -/
theorem blind {command : Command} (h : command.asksEnforcement = false)
    (hl : command.usesGrants = true → l.grants = Eq) : Blind l (command.perform {}) := by
  cases command with
  | correlate m => exact (Correlation.blind_correlate m).map _
  | correlateAll m => exact (Correlation.blind_correlateAll m).map _
  | receive message executionId payload =>
    exact (Correlation.blind_receive message executionId payload).map _
  | startInstance message businessKey vars =>
    exact (Correlation.blind_startInstance message businessKey vars).map _
  | setStates r => exact (r.blind_perform .request).map _
  | delegate taskId user => exact (TaskWork.blind_delegate taskId user).map _
  | setPriority taskId priority => exact (TaskWork.blind_setPriority taskId priority).map _
  | newGrant kind resource => exact (Administration.blind_newGrant kind resource).map _
  | saveGrant g => exact (Administration.blind_saveGrant (hl rfl) g).map _
  | grants q => exact (Administration.blind_selectGrants (hl rfl) q).map _
  | instances q => exact (Search.blind_instances q).map _
  | jobs q => exact (Search.blind_jobs q).map _
  | tasks q => exact (Search.blind_tasks q).map _
  | runDeferred j => exact j.blind_perform.map _
  | deleteGrant id => cases h
  | isPermitted s permission resource resourceId => cases h

end Command

/-! ## Asking -/

theorem State.eq_of_store_eq {st st' : State} (hstore : st.store = st'.store)
    (hminted : st.minted = st'.minted) : st = st' := congrArg₂ State.mk hstore hminted

namespace Latitude

/-- The second run is nobody's. -/
def nobody (log : List LogEntry) : Latitude := ⟨log, fun _ => none, rfl, Eq⟩

/-- The second run has other grants. -/
def regranted (log : List LogEntry) (grants grants' : Table Grant) : Latitude :=
  ⟨log, id, rfl, fun g g' => g = grants ∧ g' = grants'⟩

end Latitude

namespace Engine

/-- The engine that enforces no permissions. -/
def lenient (settings : Settings) : Engine := .standard { settings with enforced := false }

/-- The engine that enforces permissions. -/
def strict (settings : Settings) : Engine := .standard { settings with enforced := true }

variable {settings settings' : Settings} {subject subject' : Option Subject} {command : Command}
  {st st' : State}

theorem endAlike_ask (h : command.asksEnforcement = false)
    (hl : command.usesGrants = true → l.grants = Eq)
    (hc : l.Pairs ((standard settings).contextFor subject) ((standard settings').contextFor subject'))
    (hst : Over (Store.Mirrors l) st st') :
    Action.EndAlike l ((standard settings).ask subject command st)
      ((standard settings').ask subject' command st') :=
  (Command.blind h hl).atomically _ _ hc _ _ hst

/-- Where permissions are bypassed, a command that does not use the grants leaves them as they are,
and does whatever it does in the same way with other grants. -/
theorem ask_withGrants (h : command.asksEnforcement = false) (hgrants : command.usesGrants = false)
    (hfree : ((standard settings).contextFor subject).IsFree) (st : State) (grants : Table Grant) :
    (standard settings).ask subject command (st.withGrants grants) =
      (((standard settings).ask subject command st).1,
        ((standard settings).ask subject command st).2.withGrants grants) := by
  let l := Latitude.regranted st.store.log st.store.grants grants
  have hstart : Over (Store.Mirrors l) st (st.withGrants grants) :=
    ⟨⟨⟨[], by simp [l, Latitude.regranted], by simp [l, Latitude.regranted, State.withGrants]⟩,
      ⟨rfl, rfl⟩, rfl⟩, rfl⟩
  have halike : Action.EndAlike l ((standard settings).ask subject command st)
      ((standard settings).ask subject command (st.withGrants grants)) :=
    endAlike_ask h (by simp [hgrants]) ⟨hfree, hfree, rfl⟩ hstart
  obtain ⟨hanswer, -, ⟨⟨⟨written, hlog, hlog'⟩, ⟨-, hafter⟩, hothers⟩, hminted⟩⟩ := halike
  have hsame : written.map (·.renamed l.rename) = written := List.map_id _
  rw [hsame, ← hlog] at hlog'
  refine Prod.ext hanswer.symm (State.eq_of_store_eq ?_ hminted.symm)
  rw [hothers, hafter, hlog']
  rfl

end Engine

/-- The two ways past permissions come to the same for a command: the same answer, which is no
denial, and the same state, except that the audit log names nobody where nobody asked. A command that
does not use the grants does the same with any others. -/
structure SameBypass (settings : Settings) (subject : Option Subject) (command : Command)
    (st : State) : Prop where
  answer : ((Engine.lenient settings).ask subject command st).1 =
    ((Engine.strict settings).ask none command st).1
  undenied : ∀ denial,
    ((Engine.lenient settings).ask subject command st).1 ≠ .error (.denied denial)
  state : ∃ written,
    ((Engine.lenient settings).ask subject command st).2.store.log = st.store.log ++ written ∧
      ((Engine.strict settings).ask none command st).2 =
        ((Engine.lenient settings).ask subject command st).2.withLog
          (st.store.log ++ written.map fun entry => { entry with user := none })
  grants : command.usesGrants = false → ∀ grants,
    (Engine.lenient settings).ask subject command (st.withGrants grants) =
        (((Engine.lenient settings).ask subject command st).1,
          ((Engine.lenient settings).ask subject command st).2.withGrants grants) ∧
      (Engine.strict settings).ask none command (st.withGrants grants) =
        (((Engine.strict settings).ask none command st).1,
          ((Engine.strict settings).ask none command st).2.withGrants grants)

/-- **The two ways past permissions are the same**, for every command but those that ask themselves
whether permissions are enforced. -/
theorem bypasses_are_the_same (settings : Settings) (subject : Option Subject) (command : Command)
    (h : command.asksEnforcement = false) (st : State) :
    SameBypass settings subject command st := by
  have hlenient : ((Engine.lenient settings).contextFor subject).IsFree := .inl rfl
  have hstrict : ((Engine.strict settings).contextFor none).IsFree := .inr rfl
  let l := Latitude.nobody st.store.log
  have hstart : Over (Store.Mirrors l) st st :=
    ⟨⟨⟨[], by simp [l, Latitude.nobody], by simp [l, Latitude.nobody]⟩, rfl, rfl⟩, rfl⟩
  have halike : Action.EndAlike l ((Engine.lenient settings).ask subject command st)
      ((Engine.strict settings).ask none command st) :=
    Engine.endAlike_ask h (fun _ => rfl) ⟨hlenient, hstrict, rfl⟩ hstart
  obtain ⟨hanswer, hundenied, ⟨hstore, hminted⟩⟩ := halike
  obtain ⟨written, hlog, hlog'⟩ := hstore.log
  refine ⟨hanswer, fun denial hdenied => ?_, ⟨written, hlog, ?_⟩, fun hgrants grants =>
    ⟨Engine.ask_withGrants h hgrants hlenient st grants,
      Engine.ask_withGrants h hgrants hstrict st grants⟩⟩
  · cases hundenied _ hdenied
  · refine State.eq_of_store_eq ?_ hminted.symm
    rw [hstore.eq_of_grants rfl, hlog']
    rfl

/-- John sets the priority of a task that only Mary may work on. Where permissions are not enforced he
does so in his own name; where they are, nobody does so in nobody's name, to the same effect. -/
theorem priority_set_past_permissions :
    let task := Task.standalone "t"
    let grant : Grant :=
      { Grant.new "g" .give .task with user := some "mary", permissions := .ofList [.update] }
    let store := ((∅ : Store).putTask task).putGrant grant
    let john : Option Subject := some ⟨"john", []⟩
    let command := Command.setPriority (some "t") 70
    let changed := store.putTask { task with priority := 70 }
    let entry (user : Option String) : LogEntry :=
      { TaskWork.entry "SetPriority" task ⟨"priority", some "50", some "70"⟩ with user := user }
    command.asksEnforcement = false ∧ SameBypass {} john command ⟨store, 0⟩ ∧
      ((Engine.strict {}).ask john command ⟨store, 0⟩).1 =
        .error (.denied ⟨"john", .update, .task, some "t"⟩) ∧
      ((Engine.lenient {}).ask john command ⟨store, 0⟩).2 =
        ⟨changed.record (entry (some "john")), 0⟩ ∧
      ((Engine.strict {}).ask none command ⟨store, 0⟩).2 = ⟨changed.record (entry none), 0⟩ := by
  intro task grant store john command changed entry
  exact ⟨rfl, bypasses_are_the_same {} john command rfl ⟨store, 0⟩, by cbv, by cbv, by cbv⟩

end Workflow
