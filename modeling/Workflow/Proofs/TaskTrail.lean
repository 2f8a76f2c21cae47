import Workflow.Proofs.Suspension.AuditTrail
import Workflow.Proofs.Writes

/-!
# What the audit log says of tasks

A command on a task that succeeds leaves one entry about it, which says what the priority or the
assignee of the task was before and what it is afterwards. Nothing else leaves an entry about a task
or changes more of it than its state. So the entries about a task, one after the other, lead from
the task as it was to the task as it is.

* `PropertyChange.Chain`: changes that begin where the ones before them have ended.
* `Task.Trail`: commands on a task and the entries that they leave, step by step. What a trail says
  of the task is `Trail.replays`.
* `State.Spares`: what leaves a task alone. `State.Spares.serves`: all commands that are not work on
  tasks. `State.LeavesTrail`: what does not.
* `Engine.leavesTrail_happen`, `Engine.leavesTrail_run`: every event of an engine, and every run,
  leave the trail of the commands that succeed.
* `entries_replay_to_task`: the entries about a task replay to it.
-/

namespace Workflow

open Correlation (Lookup)

/-! ## Changes and commands -/

/-- Changes that lead from a value to a value, each beginning where the one before it has ended. -/
def PropertyChange.Chain : Option String → List PropertyChange → Option String → Prop
  | v, [], w => v = w
  | v, change :: rest, w => change.before = v ∧ Chain change.after rest w

/-- The changes that some entries say of one operation. -/
def LogEntry.changesBy (operation : String) (entries : List LogEntry) : List PropertyChange :=
  (entries.filter (·.operation = operation)).flatMap (·.changes)

namespace Command

/-- The task that a command is work on. -/
def taskId? : Command → Option String
  | .delegate taskId _ | .setPriority taskId _ => taskId
  | _ => none

/-- Whom a command hands a task to. -/
def delegatee? : Command → Option String
  | .delegate _ user => user
  | _ => none

/-- A command leaves an entry: one of its own operation, with one change, to what was asked for. -/
def Leaves (entry : LogEntry) : Command → Prop
  | .delegate _ user =>
    entry.operation = "Delegate" ∧ ∃ before, entry.changes = [⟨"delegation", before, user⟩]
  | .setPriority _ priority =>
    entry.operation = "SetPriority" ∧
      ∃ before, entry.changes = [⟨"priority", before, some (toString priority)⟩]
  | _ => False

end Command

/-! ## Trails -/

namespace Task

/-- The owner of a task after it was handed to some users in turn. -/
def ownerAfter (t : Task) : List String → Option String
  | [] => t.owner
  | [_] => t.owner.or t.assignee
  | first :: _ :: _ => t.owner.or (t.assignee.or (some first))

/-- The owner comes from the first user to whom the task is handed. -/
theorem ownerAfter_delegate (t : Task) (user : String) (users : List String) :
    (t.delegate user).ownerAfter users = t.ownerAfter (user :: users) := by
  match users with
  | [] => rfl
  | [_] | _ :: _ :: _ => simp [ownerAfter, delegate]

theorem ownerAfter_of_isSome {t : Task} (h : t.owner.isSome) (users : List String) :
    t.ownerAfter users = t.owner := by
  obtain ⟨owner, howner⟩ := Option.isSome_iff_exists.1 h
  match users with
  | [] => rfl
  | [_] | _ :: _ :: _ => rw [ownerAfter, howner, Option.some_or]

/-- Commands on a task, one after the other, with the entries that they leave, and what has become
of the task. Now and then it is given another state. A trail grows at its beginning: what follows a
command is a trail of the task as the command has left it. -/
inductive Trail : Task → List Command → List LogEntry → Task → Prop where
  | refl (t : Task) : Trail t [] [] t
  | state {t t' : Task} {commands : List Command} {entries : List LogEntry}
      (state : SuspensionState) (rest : Trail { t with state := state } commands entries t') :
      Trail t commands entries t'
  | delegate {t t' : Task} {commands : List Command} {entries : List LogEntry} (user : String)
      (who : Option String) (rest : Trail (t.delegate user) commands entries t') :
      Trail t (.delegate (some t.id) (some user) :: commands) (t.delegated user who :: entries) t'
  | setPriority {t t' : Task} {commands : List Command} {entries : List LogEntry} (priority : Int)
      (who : Option String) (rest : Trail { t with priority := priority } commands entries t') :
      Trail t (.setPriority (some t.id) priority :: commands)
        (t.prioritized priority who :: entries) t'

/-- What the entries about a task say of it. -/
structure Replays (t : Task) (commands : List Command) (entries : List LogEntry) (t' : Task) :
    Prop where
  count : entries.length = commands.length
  /-- Every command has left its own entry. -/
  left : List.Forall₂ (fun command entry => command.Leaves entry) commands entries
  priority : PropertyChange.Chain (some (toString t.priority))
    (LogEntry.changesBy "SetPriority" entries) (some (toString t'.priority))
  assignee : PropertyChange.Chain t.assignee (LogEntry.changesBy "Delegate" entries) t'.assignee
  owner : t'.owner = t.ownerAfter (commands.filterMap Command.delegatee?)

namespace Trail

variable {t t₁ t' : Task} {commands commands' : List Command} {entries entries' : List LogEntry}

theorem trans (h : Trail t commands entries t₁) (h' : Trail t₁ commands' entries' t') :
    Trail t (commands ++ commands') (entries ++ entries') t' := by
  induction h with
  | refl t => exact h'
  | state state _ ih => exact .state state (ih h')
  | delegate user who _ ih => exact .delegate user who (ih h')
  | setPriority priority who _ ih => exact .setPriority priority who (ih h')

theorem left (h : Trail t commands entries t') :
    List.Forall₂ (fun command entry => command.Leaves entry) commands entries := by
  induction h with
  | refl t => exact .nil
  | state _ _ ih => exact ih
  | delegate user who _ ih => exact .cons ⟨rfl, _, rfl⟩ ih
  | setPriority priority who _ ih => exact .cons ⟨rfl, _, rfl⟩ ih

/-- The changes of the priority lead from the priority before to the one after. -/
theorem priority (h : Trail t commands entries t') :
    PropertyChange.Chain (some (toString t.priority)) (LogEntry.changesBy "SetPriority" entries)
      (some (toString t'.priority)) := by
  induction h with
  | refl t => rfl
  | state _ _ ih => exact ih
  | delegate user who _ ih => exact ih
  | setPriority priority who _ ih => exact ⟨rfl, ih⟩

/-- The delegations lead from the assignee before to the one after. -/
theorem assignee (h : Trail t commands entries t') :
    PropertyChange.Chain t.assignee (LogEntry.changesBy "Delegate" entries) t'.assignee := by
  induction h with
  | refl t => rfl
  | state _ _ ih => exact ih
  | delegate user who _ ih => exact ⟨rfl, ih⟩
  | setPriority priority who _ ih => exact ih

theorem owner (h : Trail t commands entries t') :
    t'.owner = t.ownerAfter (commands.filterMap Command.delegatee?) := by
  induction h with
  | refl t => rfl
  | state _ _ ih => exact ih
  -- What follows a delegation reckons with the new assignee, who is the delegate.
  | delegate user who _ ih => exact ih.trans (ownerAfter_delegate ..)
  | setPriority priority who _ ih => exact ih

/-- **A trail replays.** -/
theorem replays (h : Trail t commands entries t') : t.Replays commands entries t' where
  count := h.left.length_eq.symm
  left := h.left
  priority := h.priority
  assignee := h.assignee
  owner := h.owner

end Trail

end Task

/-! ## What leaves a task alone -/

namespace State

variable {id : String} {st st₁ st' : State} {commands commands' : List Command}

/-- The task of an id is left alone, but for its state, and no entry is about it. -/
structure Spares (id : String) (st st' : State) : Prop where
  filed : st.store.tasks.Filed (·.id) → st'.store.tasks.Filed (·.id)
  task : ∀ t, st.store.tasks.get? id = some t →
    ∃ state, st'.store.tasks.get? id = some { t with state := state }
  log : ∃ new, st'.store.log = st.store.log ++ new ∧ ∀ entry ∈ new, entry.taskId ≠ some id

namespace Spares

/-- What is written is neither a task nor an entry. -/
theorem of_eq (htasks : st'.store.tasks = st.store.tasks) (hlog : st'.store.log = st.store.log) :
    st.Spares id st' where
  filed h := htasks ▸ h
  task t ht := ⟨t.state, htasks ▸ ht⟩
  log := ⟨[], by simp [hlog], by simp⟩

theorem trans (h : Spares id st st₁) (h' : Spares id st₁ st') : Spares id st st' where
  filed hfiled := h'.filed (h.filed hfiled)
  task t ht := by
    obtain ⟨state₁, ht₁⟩ := h.task t ht
    obtain ⟨state', ht'⟩ := h'.task _ ht₁
    exact ⟨state', ht'⟩
  log := by
    obtain ⟨new, hlog, hnew⟩ := h.log
    obtain ⟨new', hlog', hnew'⟩ := h'.log
    refine ⟨new ++ new', by rw [hlog', hlog, List.append_assoc], fun entry hentry => ?_⟩
    exact (List.mem_append.1 hentry).elim (hnew entry) (hnew' entry)

/-- An entry about something else. -/
theorem record {entry : LogEntry} (h : entry.taskId ≠ some id) :
    Spares id st { st with store := st.store.record entry } where
  filed hfiled := hfiled
  task t ht := ⟨t.state, ht⟩
  log := ⟨[entry], rfl, by simpa using h⟩

/-- A request gives tasks a state. -/
theorem states (r : Suspension.Request) (st : State) :
    Spares id st { st with store := r.carriedOut st.store } where
  filed hfiled := by
    rw [r.carriedOut_tasks]
    exact hfiled.map fun _ => rfl
  task t ht := by
    rw [r.carriedOut_tasks, Table.get?_map, ht]
    exact ⟨_, rfl⟩
  log := ⟨[], by simp [Suspension.Request.carriedOut], by simp⟩

/-- **All commands that are not work on tasks leave every task alone.** -/
theorem serves (id : String) : ServesWithin (Spares id) where
  refl _ := .of_eq rfl rfl
  trans := trans
  rollback _ := .of_eq rfl rfl
  fresh _ := .of_eq rfl rfl
  entry _ r _ _ := .record (by simp [Suspension.Request.auditEntry, Suspension.Request.entry_eq])
  revoke _ _ _ := .of_eq rfl rfl
  states st r := states r st
  schedule _ _ _ := .of_eq rfl rfl
  unschedule _ _ := .of_eq rfl rfl
  failure _ _ _ _ _ h := by
    obtain ⟨_, -, h⟩ := bind_eq_ok.1 h
    cases h
    exact .of_eq rfl rfl
  deliver _ _ _ _ h := by
    obtain ⟨_, _, -, -, rfl⟩ := Store.deliver_eq_ok.1 h
    exact .of_eq rfl rfl

/-- Work on another task. -/
theorem putTask (hfiled : st.store.tasks.Filed (·.id)) (t : Task) (hid : t.id ≠ id) :
    Spares id st { st with store := st.store.putTask t } where
  filed _ := hfiled.insert t
  task t' ht' := ⟨t'.state, (Table.get?_insert ..).trans ((if_neg (Ne.symm hid)).trans ht')⟩
  log := ⟨[], by simp [Store.putTask], by simp⟩

end Spares

/-! ## What does not -/

/-- Some commands on the task of an id leave their trail. -/
def LeavesTrail (id : String) (commands : List Command) (st st' : State) : Prop :=
  st.store.tasks.Filed (·.id) → ∀ t, st.store.tasks.get? id = some t →
    st'.store.tasks.Filed (·.id) ∧
      ∃ new t', st'.store.log = st.store.log ++ new ∧ st'.store.tasks.get? id = some t' ∧
        t.Trail commands (new.filter (·.taskId = some id)) t'

theorem LeavesTrail.trans (h : LeavesTrail id commands st st₁)
    (h' : LeavesTrail id commands' st₁ st') : LeavesTrail id (commands ++ commands') st st' := by
  intro hfiled t ht
  obtain ⟨hfiled₁, new, t₁, hlog, ht₁, htrail⟩ := h hfiled t ht
  obtain ⟨hfiled', new', t', hlog', ht', htrail'⟩ := h' hfiled₁ t₁ ht₁
  refine ⟨hfiled', new ++ new', t', by rw [hlog', hlog, List.append_assoc], ht', ?_⟩
  rw [List.filter_append]
  exact htrail.trans htrail'

/-- What leaves a task alone leaves a trail of nothing. -/
theorem Spares.leavesTrail (h : Spares id st st') : LeavesTrail id [] st st' := by
  intro hfiled t ht
  obtain ⟨state, ht'⟩ := h.task t ht
  obtain ⟨new, hlog, hnew⟩ := h.log
  have hnone : new.filter (·.taskId = some id) = [] := by simpa using hnew
  refine ⟨h.filed hfiled, new, _, hlog, ht', ?_⟩
  rw [hnone]
  exact .state state (.refl _)

/-- Work on a task leaves its trail if the task is the one of the id, and otherwise spares that. -/
theorem LeavesTrail.work {command : Command} {taskId : String} {t t' : Task} {entry : LogEntry}
    (hcommand : command.taskId? = some taskId) (ht : st.store.tasks.get? taskId = some t)
    (hid : t'.id = t.id) (hentry : entry.taskId = some t.id)
    (htrail : t.id = taskId → t.Trail [command] [entry] t') :
    LeavesTrail id (if command.taskId? = some id then [command] else []) st
      { st with store := (st.store.putTask t').record entry } := by
  intro hfiled
  obtain rfl : t.id = taskId := hfiled taskId t ht
  rw [hcommand]
  split <;> rename_i hown
  · obtain rfl := Option.some.inj hown
    intro u hu
    obtain rfl := Option.some.inj (ht.symm.trans hu)
    refine ⟨hfiled.insert t', [entry], t', rfl, ?_, ?_⟩
    · exact (Table.get?_insert ..).trans (if_pos hid.symm)
    · simpa [hentry] using htrail rfl
  · have hother : t'.id ≠ id := fun h => hown (by rw [← hid, h])
    have hput := Spares.putTask hfiled t' hother
    exact (hput.trans (.record (hentry ▸ hown))).leavesTrail hfiled

end State

/-! ## Events and runs -/

namespace Engine

/-- The commands on a task that an event is, if it succeeds. -/
def doneAt (e : Engine) (id : String) (st : State) : Event → List Command
  | .ask subject command =>
    match (e.ask subject command st).1 with
    | .ok _ => if command.taskId? = some id then [command] else []
    | .error _ => []
  | .look _ => []

/-- The commands on a task that succeed in a run, in turn. -/
def doneOn (e : Engine) (id : String) : List Event → State → List Command
  | [], _ => []
  | event :: rest, st => e.doneAt id st event ++ doneOn e id rest (e.happen st event)

section

variable {settings : Settings} {l : Lookup} {id : String}

/-- **A command that succeeds** leaves the trail of itself, if it is work on the task. -/
theorem leavesTrail_perform {command : Command} {c : Context} {st st' : State} {reply : Reply}
    (h : (command.perform ⟨Suspension.handlers, l⟩).run c st = (.ok reply, st')) :
    State.LeavesTrail id (if command.taskId? = some id then [command] else []) st st' := by
  cases htask : command.isTaskWork with
  | false =>
    have hspares := (State.Spares.serves id).perform l command htask
      (fun _ _ _ _ _ _ => .of_eq rfl rfl) fun _ _ _ _ => .of_eq rfl rfl
    have hnone : command.taskId? = none := by
      cases command with
      | delegate | setPriority => cases htask
      | _ => rfl
    rw [hnone, if_neg nofun]
    exact (hspares.of_run h).leavesTrail
  | true =>
    cases command with
    | delegate taskId user =>
      obtain ⟨_, hrun, -⟩ := Action.run_map_eq_ok.1 h
      obtain ⟨taskId, t, user, rfl, rfl, ht, -, rfl⟩ := TaskWork.delegate_ran hrun
      refine .work rfl ht rfl rfl fun hid => ?_
      rw [← hid]
      exact .delegate user _ (.refl _)
    | setPriority taskId priority =>
      obtain ⟨_, hrun, -⟩ := Action.run_map_eq_ok.1 h
      obtain ⟨taskId, t, rfl, ht, -, rfl⟩ := TaskWork.setPriority_ran hrun
      refine .work rfl ht rfl rfl fun hid => ?_
      rw [← hid]
      exact .setPriority priority _ (.refl _)
    | _ => cases htask

/-- **One event** leaves the trail of the command that it is, if that succeeds. -/
theorem leavesTrail_happen (event : Event) (st : State) :
    let e : Engine := ⟨settings, ⟨Suspension.handlers, l⟩⟩
    State.LeavesTrail id (e.doneAt id st event) st (e.happen st event) := by
  intro e
  cases event with
  | look now => exact ((State.Spares.serves id).look settings l now _ st).leavesTrail
  | ask subject command =>
    -- What a command did before it failed is taken back, the entry with it.
    rcases hask : e.ask subject command st with ⟨reason | reply, st'⟩
    · have hstore := store_ask_of_error hask
      simp only [happen, doneAt, hask]
      exact (State.Spares.of_eq (by rw [hstore]) (by rw [hstore])).leavesTrail
    · simp only [happen, doneAt, hask]
      exact leavesTrail_perform (perform_of_ask hask)

/-- **A run** leaves the trail of the commands that succeed. -/
theorem leavesTrail_run (events : List Event) (st : State) :
    let e : Engine := ⟨settings, ⟨Suspension.handlers, l⟩⟩
    State.LeavesTrail id (e.doneOn id events st) st (e.run events st) := by
  intro e
  induction events generalizing st with
  | nil => exact (State.Spares.of_eq rfl rfl).leavesTrail
  | cons event rest ih => exact (leavesTrail_happen event st).trans (ih (e.happen st event))

end

end Engine

/-- **The entries about a task replay to it.** Whatever commands are asked for by whom, whether they
succeed or not, whenever deferred jobs are looked for, and whatever finds the targets of messages,
every command on a task that succeeds leaves one entry about it, and nothing else leaves any. The
changes of the priority lead from the one before the run to the one after it, and the delegations
from assignee to assignee. Once a task was handed to somebody, it is owned by its owner, or else by
its assignee, or else, when it is handed on, by the first to whom it was handed; and an owner never
changes. Tasks are filed by their ids, as the store files them. -/
theorem entries_replay_to_task (settings : Settings) (l : Lookup) (events : List Engine.Event)
    (st : State) (hfiled : st.store.tasks.Filed (·.id)) (id : String) (t : Task)
    (ht : st.store.tasks.get? id = some t) :
    let e : Engine := ⟨settings, ⟨Suspension.handlers, l⟩⟩
    let final := (e.run events st).store
    ∃ new t', final.log = st.store.log ++ new ∧ final.tasks.get? id = some t' ∧
      t.Replays (e.doneOn id events st) (new.filter (·.taskId = some id)) t' ∧
      ∀ earlier later, events = earlier ++ later →
        ∃ t₁, (e.run earlier st).store.tasks.get? id = some t₁ ∧
          (t₁.owner.isSome → t'.owner = t₁.owner) := by
  intro e final
  obtain ⟨-, new, t', hlog, ht', htrail⟩ := Engine.leavesTrail_run events st hfiled t ht
  refine ⟨new, t', hlog, ht', htrail.replays, fun earlier later hevents => ?_⟩
  obtain ⟨hfiled₁, _, t₁, -, ht₁, -⟩ := Engine.leavesTrail_run earlier st hfiled t ht
  obtain ⟨-, _, u, -, hu, hlater⟩ := Engine.leavesTrail_run later _ hfiled₁ t₁ ht₁
  refine ⟨t₁, ht₁, fun howner => ?_⟩
  have hlast : u = t' := by
    rw [hevents, Engine.run, List.foldl_append] at ht'
    exact Option.some.inj (hu.symm.trans ht')
  rw [← hlast, hlater.owner, Task.ownerAfter_of_isSome howner]

/-- A task of kermit is handed on twice and given a priority in between; somebody forgets to say
whom to hand it to, and another task is given a priority too. Three entries are about the task, and
kermit owns it. -/
theorem task_of_kermit_handed_on :
    let task := { Task.standalone "t" with assignee := some "kermit" }
    let store := (Store.putTask ∅ task).putTask (.standalone "u")
    let events : List Engine.Event :=
      [.ask none (.delegate (some "t") (some "fozzie")), .ask none (.setPriority (some "t") 60),
        .ask none (.delegate (some "t") none), .ask none (.setPriority (some "u") 10), .look 0,
        .ask none (.delegate (some "t") (some "gonzo"))]
    let e := Engine.standard {}
    let final := (e.run events ⟨store, 0⟩).store
    store.tasks.Filed (·.id) ∧ store.tasks.get? "t" = some task ∧
      (e.doneOn "t" events ⟨store, 0⟩).length = 3 ∧ final.log.length = 4 ∧
      (final.tasks.get? "t").bind (·.owner) = some "kermit" ∧
      ∃ new t', final.log = store.log ++ new ∧ final.tasks.get? "t" = some t' ∧
        task.Replays (e.doneOn "t" events ⟨store, 0⟩) (new.filter (·.taskId = some "t")) t' ∧
        ∀ earlier later, events = earlier ++ later →
          ∃ t₁, (e.run earlier ⟨store, 0⟩).store.tasks.get? "t" = some t₁ ∧
            (t₁.owner.isSome → t'.owner = t₁.owner) := by
  intro task store events e final
  have hfiled : store.tasks.Filed (·.id) := (Table.Filed.empty.insert task).insert _
  have htask : store.tasks.get? "t" = some task := by decide
  exact ⟨hfiled, htask, by decide +kernel, by decide +kernel, by decide +kernel,
    entries_replay_to_task {} .standard events ⟨store, 0⟩ hfiled "t" task htask⟩

/-- A task that was never handed to anybody is not owned by its assignee. -/
theorem assignee_not_owner_before_delegation :
    let task := { Task.standalone "t" with assignee := some "kermit" }
    let final := ((Engine.standard {}).run [.ask none (.setPriority (some "t") 60)]
      ⟨Store.putTask ∅ task, 0⟩).store
    task.owner = none ∧ task.assignee = some "kermit" ∧
      final.tasks.get? "t" = some { task with priority := 60 } ∧
      (final.tasks.get? "t").bind (·.owner) ≠ task.owner.or task.assignee := by
  decide +kernel

end Workflow
