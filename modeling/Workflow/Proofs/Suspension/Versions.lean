import Mathlib
import Workflow.Proofs.Suspension.Free
import Workflow.Proofs.Suspension.LastWriter

/-!
# All versions of a process

A process definition is asked for by its id, all versions of a process by their key. What depends on
a definition names it twice, by id and by key, and a request follows the one or the other. Where
every row names a stored definition together with the key of that definition, the request for the
key covers exactly what the requests for the versions cover between them; and since these ask for
the same state, it does not matter in which order they are made.

* `Store.NamesDefinitions`: rows name stored definitions by id and key.
* `Request.ofKey`, `Request.ofVersion`: the request for all versions and the one for a single one.
* `Request.CoversTogether`: a request covers what some others cover between them;
  `carriedOutAll_of_coversTogether` says that it does what these do, one after the other.
* `coversTogether_versions`: the request for the key and those for the versions.
* `suspending_by_key_suspends_every_version`: asking an engine.
-/

namespace Workflow

/-! ## Rows that name definitions -/

/-- The definition of this id is stored and has this key. -/
def Store.Deploys (s : Store) (id key : String) : Prop :=
  ∃ d, s.definitions.get? id = some d ∧ d.key = key

/-- The ids of the stored definitions of a key. -/
def Store.versions (s : Store) (key : String) : List String :=
  (s.definitions.rows.filter (·.key = key)).map (·.id)

/-- What depends on definitions names stored ones by their ids and keys. A job may name none, by
neither; the store files definitions by their ids. -/
structure Store.NamesDefinitions (s : Store) : Prop where
  filed : s.definitions.Filed (·.id)
  instances : ∀ e ∈ s.executions.rows, e.isInstance → s.Deploys e.definitionId e.definitionKey
  jobDefinitions : ∀ d ∈ s.jobDefinitions.rows, s.Deploys d.definitionId d.definitionKey
  jobs : ∀ j ∈ s.jobs.rows,
    (∃ id key, j.definitionId = some id ∧ j.definitionKey = some key ∧ s.Deploys id key) ∨
      j.definitionId = none ∧ j.definitionKey = none

namespace Store

variable {s : Store} {id key k : String}

theorem mem_versions (h : s.definitions.Filed (·.id)) :
    id ∈ s.versions k ↔ ∃ d, s.definitions.get? id = some d ∧ d.key = k := by
  simp only [versions, List.mem_map, List.mem_filter, decide_eq_true_eq]
  constructor
  · rintro ⟨d, ⟨hd, hkey⟩, rfl⟩
    exact ⟨d, h.get?_of_mem hd, hkey⟩
  · rintro ⟨d, hd, hkey⟩
    exact ⟨d, ⟨Table.mem_rows_iff.2 ⟨id, hd⟩, hkey⟩, h id d hd⟩

/-- A definition that is named by id and key is a version of a key if that is the key named. -/
theorem Deploys.mem_versions_iff (hfiled : s.definitions.Filed (·.id)) (h : s.Deploys id key) :
    id ∈ s.versions k ↔ key = k := by
  obtain ⟨d, hd, rfl⟩ := h
  rw [mem_versions hfiled]
  constructor
  · rintro ⟨d', hd', rfl⟩
    rw [Option.some.inj (hd.symm.trans hd')]
  · exact fun hkey => ⟨d, hd, hkey⟩

end Store

namespace Suspension

/-! ## Several requests for one state -/

/-- Where all requests ask for the same state, a row has it if one of them covers the row. -/
theorem lastState_of_state_eq {requests : List Request} {state : SuspensionState}
    (h : ∀ r ∈ requests, r.state = state) (covers : Request → Bool) (initial : SuspensionState) :
    lastState requests covers initial = if requests.any covers then state else initial := by
  induction requests generalizing initial with
  | nil => rfl
  | cons r rest ih =>
    obtain ⟨hfirst, hrest⟩ := List.forall_mem_cons.1 h
    rw [lastState_cons, ih hrest, List.any_cons, hfirst]
    cases covers r <;> cases rest.any covers <;> rfl

/-- Rows after such requests, given what these cover between them. -/
theorem map_lastState {α : Type} {t : Table α} {requests : List Request} {state : SuspensionState}
    (h : ∀ r ∈ requests, r.state = state) (put : α → SuspensionState → α)
    (old : α → SuspensionState) {covers : α → Request → Bool} {covered : α → Bool}
    (hcovered : ∀ v ∈ t.rows, covered v = requests.any (covers v)) :
    t.map (fun v => put v (lastState requests (covers v) (old v))) =
      t.map fun v => put v (if covered v then state else old v) :=
  Table.map_congr fun v hv => by rw [lastState_of_state_eq h, hcovered v hv]

namespace Request

/-- The store after requests that were carried out one after the other. -/
def carriedOutAll (requests : List Request) (s : Store) : Store :=
  requests.foldl (fun s r => r.carriedOut s) s

theorem lastWriterWins_carriedOutAll (requests : List Request) (s : Store) :
    LastWriterWins s requests (carriedOutAll requests s) := by
  induction requests generalizing s with
  | nil => exact .nil s
  | cons r rest ih => exact .cons (ih (r.carriedOut s))

/-- Only the tables of rows with states have changed. -/
theorem carriedOutAll_eq (requests : List Request) (s : Store) :
    carriedOutAll requests s =
      { s with
        definitions := (carriedOutAll requests s).definitions
        jobDefinitions := (carriedOutAll requests s).jobDefinitions
        executions := (carriedOutAll requests s).executions
        tasks := (carriedOutAll requests s).tasks
        jobs := (carriedOutAll requests s).jobs } := by
  induction requests generalizing s with
  | nil => rfl
  | cons r rest ih => exact ih (r.carriedOut s)

theorem carriedOutAll_record (requests : List Request) (s : Store) (entry : LogEntry) :
    carriedOutAll requests (s.record entry) = (carriedOutAll requests s).record entry := by
  induction requests generalizing s with
  | nil => rfl
  | cons r rest ih => exact ih (r.carriedOut s)

/-- A request covers exactly those rows of a store that some others cover between them. -/
structure CoversTogether (r : Request) (parts : List Request) (s : Store) : Prop where
  definition : ∀ d ∈ s.definitions.rows, r.coversDefinition d = parts.any (·.coversDefinition d)
  jobDefinition : ∀ d ∈ s.jobDefinitions.rows,
    r.coversJobDefinition d = parts.any (·.coversJobDefinition d)
  execution : ∀ e, r.coversExecution s e = parts.any (·.coversExecution s e)
  task : ∀ t, r.coversTask s t = parts.any (·.coversTask s t)
  job : ∀ j ∈ s.jobs.rows, r.coversJob j = parts.any (·.coversJob j)

/-- **A request that covers what others cover between them does what they do**, if all ask for the
same state. -/
theorem carriedOutAll_of_coversTogether {r : Request} {parts : List Request} {s : Store}
    (hstate : ∀ part ∈ parts, part.state = r.state) (h : r.CoversTogether parts s) :
    carriedOutAll parts s = r.carriedOut s := by
  have hwins := lastWriterWins_carriedOutAll parts s
  have hmap {α : Type} {t : Table α} := map_lastState (t := t) hstate
  rw [carriedOutAll_eq, hwins.definitions, hwins.jobDefinitions, hwins.executions, hwins.tasks,
    hwins.jobs,
    hmap (fun d state => { d with state := state }) (·.state) h.definition,
    hmap (fun d state => { d with state := state }) (·.state) h.jobDefinition,
    hmap (fun e state => { e with state := state }) (·.state) fun e _ => h.execution e,
    hmap (fun t state => { t with state := state }) (·.state) fun t _ => h.task t,
    hmap (fun j state => { j with state := state }) (·.state) h.job,
    ← carriedOut_definitions, ← carriedOut_jobDefinitions, ← carriedOut_executions,
    ← carriedOut_tasks, ← carriedOut_jobs]
  rfl

/-! ## A key and its versions -/

/-- The request for all versions of a process. -/
def ofKey (key : String) (state : SuspensionState) (dependents : Bool) : Request :=
  { new .processDefinition state with
    selectors := { processDefinitionKey := some key }
    dependents := dependents }

/-- The request for one version. -/
def ofVersion (id : String) (state : SuspensionState) (dependents : Bool) : Request :=
  { new .processDefinition state with
    selectors := { resourceId := some id }
    dependents := dependents }

section

variable {s : Store} {key : String} {ids : List String} {state : SuspensionState}
  {dependents : Bool}

theorem any_ofVersion (covers : Request → Bool) :
    (ids.map (ofVersion · state dependents)).any covers =
      ids.any fun id => covers (ofVersion id state dependents) := by
  rw [List.any_map]
  rfl

/-- What is named by id and key is covered by the request for the key if it is by one for a
version. -/
theorem decide_key_eq_any (hs : s.NamesDefinitions) (hids : ∀ id, id ∈ ids ↔ id ∈ s.versions key)
    {id k : String} (h : s.Deploys id k) : decide (k = key) = ids.any fun v => id = v := by
  rw [Bool.eq_iff_iff, List.any_eq_true, decide_eq_true_eq, ← h.mem_versions_iff hs.filed, ← hids]
  simp

theorem coversInstance_ofKey (hs : s.NamesDefinitions)
    (hids : ∀ id, id ∈ ids ↔ id ∈ s.versions key) (i : String) :
    (ofKey key state dependents).coversInstance s i ↔
      ∃ id ∈ ids, (ofVersion id state dependents).coversInstance s i := by
  have hpicks (e : Execution) (he : e ∈ s.executions.rows) (hown : e.id = e.instanceId) :
      (ofKey key state dependents).picksInstance e =
        ids.any fun id => (ofVersion id state dependents).picksInstance e := by
    change (dependents && decide (e.definitionKey = key)) =
      ids.any fun id => dependents && e.definitionId = id
    cases dependents with
    | false => simp
    | true => simpa using decide_key_eq_any hs hids (hs.instances e he (decide_eq_true hown))
  simp only [coversInstance_iff]
  constructor
  · rintro ⟨e, he, hown, hpicked, rfl⟩
    rw [hpicks e he hown, List.any_eq_true] at hpicked
    obtain ⟨id, hid, hpicked⟩ := hpicked
    exact ⟨id, hid, e, he, hown, hpicked, rfl⟩
  · rintro ⟨id, hid, e, he, hown, hpicked, rfl⟩
    refine ⟨e, he, hown, ?_, rfl⟩
    rw [hpicks e he hown]
    exact List.any_eq_true.2 ⟨id, hid, hpicked⟩

/-- **The request for a key covers what the requests for its versions cover between them.** -/
theorem coversTogether_versions (hs : s.NamesDefinitions)
    (hids : ∀ id, id ∈ ids ↔ id ∈ s.versions key) :
    (ofKey key state dependents).CoversTogether (ids.map (ofVersion · state dependents)) s where
  definition d hd := by
    rw [any_ofVersion]
    exact decide_key_eq_any hs hids ⟨d, hs.filed.get?_of_mem hd, rfl⟩
  jobDefinition d hd := by
    rw [any_ofVersion]
    exact decide_key_eq_any hs hids (hs.jobDefinitions d hd)
  execution e := by
    rw [any_ofVersion, Bool.eq_iff_iff, List.any_eq_true]
    exact coversInstance_ofKey hs hids e.instanceId
  task t := by
    rw [any_ofVersion, Bool.eq_iff_iff, List.any_eq_true]
    unfold coversTask
    cases t.instanceId with
    | none => simp
    | some i => exact coversInstance_ofKey hs hids i
  job j hj := by
    rw [any_ofVersion]
    change (dependents && decide (j.definitionKey = some key)) =
      ids.any fun id => dependents && j.definitionId = some id
    rcases hs.jobs j hj with ⟨id, k, hid, hkey, hdeploys⟩ | ⟨hid, hkey⟩
    · cases dependents with
      | false => simp
      | true => simpa [hid, hkey] using decide_key_eq_any hs hids hdeploys
    · simp [hid, hkey]

end

end Request

/-! ## Asking -/

section

variable {e : Engine} (henforced : e.settings.enforced = false)
include henforced

/-- The request for all versions is accepted. -/
theorem ask_ofKey (subject : Option Subject) (key : String) (state : SuspensionState)
    (dependents : Bool) (st : State) :
    ∃ entry, e.ask subject (.setStates (.ofKey key state dependents)) st =
      (.ok .done, { st with
        store := ((Request.ofKey key state dependents).carriedOut st.store).record entry }) := by
  have hfree : (e.contextFor subject).IsFree := .inl henforced
  have hadmitted : (Request.ofKey key state dependents).admission (e.contextFor subject) st.store =
      .ok none := by
    have hrequired := Request.require_key_of_free
      (r := Request.ofKey key state dependents) hfree st.store key
    exact bind_eq_ok.2 ⟨.processDefinitionKey key, rfl, bind_eq_ok.2 ⟨(), hrequired, rfl⟩⟩
  rw [Engine.ask_setStates, hadmitted]
  exact ⟨_, rfl⟩

/-- The request for one version is accepted if it is stored. -/
theorem ask_ofVersion (subject : Option Subject) {id : String} (state : SuspensionState)
    (dependents : Bool) {st : State} (h : (st.store.definitions.get? id).isSome) :
    ∃ entry, e.ask subject (.setStates (.ofVersion id state dependents)) st =
      (.ok .done, { st with
        store := ((Request.ofVersion id state dependents).carriedOut st.store).record entry }) := by
  have hfree : (e.contextFor subject).IsFree := .inl henforced
  have hstate : (st.store.state? .processDefinition id).isSome := by
    rwa [Store.state?, Option.isSome_map]
  have hrequired := Request.require_id_of_free
    (r := Request.ofVersion id state dependents) hfree hstate
  obtain ⟨before, hbefore⟩ := Option.isSome_iff_exists.1 hstate
  have hadmitted : (Request.ofVersion id state dependents).admission (e.contextFor subject)
      st.store = .ok (some before) := by
    refine bind_eq_ok.2 ⟨.id id, rfl, bind_eq_ok.2 ⟨(), hrequired, ?_⟩⟩
    change Request.before (.ofVersion id state dependents) (.id id) st.store = _
    simp only [Request.before, Request.ofVersion, Request.new, hbefore]
  rw [Engine.ask_setStates, hadmitted]
  exact ⟨_, rfl⟩

/-- Requests for stored versions are accepted and carried out one after the other. -/
theorem askAll_ofVersion {asks : List (Option Subject × String)} (state : SuspensionState)
    (dependents : Bool) {st : State}
    (h : ∀ a ∈ asks, (st.store.definitions.get? a.2).isSome) :
    ∃ log, e.askAll (asks.map fun a => (a.1, .setStates (.ofVersion a.2 state dependents))) st =
      (asks.map fun _ => .ok .done,
        State.withLog ⟨Request.carriedOutAll
          ((asks.map (·.2)).map (.ofVersion · state dependents)) st.store, st.minted⟩ log) := by
  induction asks generalizing st with
  | nil => exact ⟨st.store.log, rfl⟩
  | cons a rest ih =>
    obtain ⟨hfirst, hrest⟩ := List.forall_mem_cons.1 h
    obtain ⟨entry, hask⟩ := ask_ofVersion henforced a.1 state dependents hfirst
    let next : State :=
      ⟨((Request.ofVersion a.2 state dependents).carriedOut st.store).record entry, st.minted⟩
    -- definitions stay where they are
    have hstays : ∀ b ∈ rest, (next.store.definitions.get? b.2).isSome := by
      intro b hb
      change (((Request.ofVersion a.2 state dependents).carriedOut
        st.store).definitions.get? b.2).isSome
      rw [Request.carriedOut_definitions, Table.get?_map, Option.isSome_map]
      exact hrest b hb
    obtain ⟨log, hrun⟩ := @ih next hstays
    refine ⟨log, ?_⟩
    simp only [List.map_cons, Engine.askAll, hask, next, hrun, Request.carriedOutAll_record]
    rfl

end

/-- A change of states that is asked for by key and the same change that is asked for version by
version are accepted, and they lead to the same state but for the audit log. -/
structure SameByVersions (e : Engine) (key : String) (state : SuspensionState) (dependents : Bool)
    (subject : Option Subject) (asks : List (Option Subject × String)) (st : State) : Prop where
  accepted : (e.ask subject (.setStates (.ofKey key state dependents)) st).1 = .ok .done
  allAccepted : ∀ answer ∈ (e.askAll
    (asks.map fun a => (a.1, .setStates (.ofVersion a.2 state dependents))) st).1,
      answer = .ok .done
  same : ∃ log,
    (e.askAll (asks.map fun a => (a.1, .setStates (.ofVersion a.2 state dependents))) st).2 =
      (e.ask subject (.setStates (.ofKey key state dependents)) st).2.withLog log

/-- **Suspending by key is suspending every version.** Where permissions are not enforced and what
depends on definitions names stored ones by id and key, it makes no difference whether a key is asked
for, or the definitions of that key, each once and in any order. -/
theorem suspending_by_key_suspends_every_version (e : Engine)
    (henforced : e.settings.enforced = false) (st : State) (hst : st.store.NamesDefinitions)
    (key : String) (state : SuspensionState) (dependents : Bool) (subject : Option Subject)
    (asks : List (Option Subject × String))
    (hasks : (asks.map (·.2)).Perm (st.store.versions key)) :
    SameByVersions e key state dependents subject asks st := by
  have hids (id : String) : id ∈ asks.map (·.2) ↔ id ∈ st.store.versions key := hasks.mem_iff
  have hstored : ∀ a ∈ asks, (st.store.definitions.get? a.2).isSome := by
    intro a ha
    obtain ⟨d, hd, -⟩ := (Store.mem_versions hst.filed).1 ((hids a.2).1 (List.mem_map_of_mem ha))
    rw [hd]
    rfl
  have hsame : Request.carriedOutAll ((asks.map (·.2)).map (.ofVersion · state dependents))
      st.store = (Request.ofKey key state dependents).carriedOut st.store := by
    refine Request.carriedOutAll_of_coversTogether (fun part hpart => ?_)
      (Request.coversTogether_versions hst hids)
    obtain ⟨id, -, rfl⟩ := List.mem_map.1 hpart
    rfl
  obtain ⟨entry, hkey⟩ := ask_ofKey henforced subject key state dependents st
  obtain ⟨log, hall⟩ := askAll_ofVersion henforced state dependents hstored
  rw [hsame] at hall
  refine ⟨congrArg Prod.fst hkey, fun answer hanswer => ?_, log, ?_⟩
  · rw [hall] at hanswer
    obtain ⟨_, -, rfl⟩ := List.mem_map.1 hanswer
    rfl
  · rw [hall, hkey]
    rfl

/-- Of orders there are two versions, each with an instance and a job definition; a branch of the old
order has a job, and another job belongs to nothing. Suspending orders by key and suspending the new
version before the old one come to the same: both orders and the branch are suspended with the job,
and the invoice and the other job are not. -/
theorem orders_suspended_by_key_or_by_version :
    let old := ProcessDefinition.new "a" "order" 1
    let new := ProcessDefinition.new "b" "order" 2
    let other := ProcessDefinition.new "c" "invoice" 1
    let order := Execution.instanceOf "i" old
    let shipping := JobDefinition.new "d" old.id "order" "ship" "message"
    let packing := JobDefinition.new "f" new.id "order" "pack" "message"
    let store := [Job.ofDefinition "j" shipping "i", Job.new "k"].foldl Store.putJob
      ([shipping, packing].foldl Store.putJobDefinition
        ([order, .instanceOf "m" new, .instanceOf "n" other, .childOf "o" order].foldl
          Store.putExecution ([old, new, other].foldl Store.putDefinition ∅)))
    let e := Engine.standard { enforced := false }
    let asks := [(none, new.id), (some ⟨"john", []⟩, old.id)]
    let suspended := (e.ask none (.setStates (.ofKey "order" .suspended true)) ⟨store, 0⟩).2.store
    e.settings.enforced = false ∧ store.NamesDefinitions ∧
      (asks.map (·.2)).Perm (store.versions "order") ∧
      SameByVersions e "order" .suspended true none asks ⟨store, 0⟩ ∧
      suspended.definitions.rows.map (·.state) = [.active, .suspended, .suspended] ∧
      suspended.executions.rows.map (·.state) = [.suspended, .suspended, .active, .suspended] ∧
      suspended.jobDefinitions.rows.map (·.state) = [.suspended, .suspended] ∧
      suspended.jobs.rows.map (·.state) = [.suspended, .active] := by
  intro old new other order shipping packing store e asks suspended
  have hnames : store.NamesDefinitions := {
    filed := ((Table.Filed.empty.insert old).insert new).insert other
    instances := by
      have hrows : store.executions.rows =
          [order, .instanceOf "m" new, .instanceOf "n" other, .childOf "o" order] := by cbv
      rw [hrows]
      simp only [List.forall_mem_cons, List.not_mem_nil, false_implies, implies_true, and_true]
      exact ⟨fun _ => ⟨old, by cbv, rfl⟩, fun _ => ⟨new, by cbv, rfl⟩,
        fun _ => ⟨other, by cbv, rfl⟩, fun _ => ⟨old, by cbv, rfl⟩⟩
    jobDefinitions := by
      have hrows : store.jobDefinitions.rows = [shipping, packing] := by cbv
      rw [hrows]
      simp only [List.forall_mem_cons, List.not_mem_nil, false_implies, implies_true, and_true]
      exact ⟨⟨old, by cbv, rfl⟩, ⟨new, by cbv, rfl⟩⟩
    jobs := by
      have hrows : store.jobs.rows = [Job.ofDefinition "j" shipping "i", Job.new "k"] := by cbv
      rw [hrows]
      simp only [List.forall_mem_cons, List.not_mem_nil, false_implies, implies_true, and_true]
      exact ⟨.inl ⟨old.id, "order", rfl, rfl, old, by cbv, rfl⟩, .inr ⟨rfl, rfl⟩⟩ }
  have hversions : store.versions "order" = [old.id, new.id] := by cbv
  have hperm : (asks.map (·.2)).Perm (store.versions "order") := hversions ▸ .swap ..
  exact ⟨rfl, hnames, hperm, suspending_by_key_suspends_every_version e rfl ⟨store, 0⟩ hnames
    "order" .suspended true none asks hperm, by cbv, by cbv, by cbv, by cbv⟩

end Suspension

end Workflow
