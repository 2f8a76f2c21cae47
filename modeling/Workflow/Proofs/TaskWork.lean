import Workflow.Proofs.Outcomes
import Workflow.TaskWork

/-!
# What work on a task has done

Work on a task that succeeds has found the task, was permitted to work on it, and left it changed
and an entry in the audit log. Nothing else of the store is different.

* `Task.delegated`, `Task.prioritized`: the entries that it leaves.
* `delegate_ran`, `setPriority_ran`: what work that succeeds has left, by what was asked for;
  `delegate_inv`, `setPriority_inv`: without it.
-/

namespace Workflow

namespace Task

/-- The entry of a task that is handed to a user, in somebody's name. -/
def delegated (t : Task) (user : String) (who : Option String) : LogEntry :=
  { TaskWork.entry "Delegate" (t.delegate user) ⟨"delegation", t.assignee, some user⟩ with
    user := who }

/-- The entry of a task that is given a priority, in somebody's name. -/
def prioritized (t : Task) (priority : Int) (who : Option String) : LogEntry :=
  { TaskWork.entry "SetPriority" { t with priority := priority }
      ⟨"priority", some (toString t.priority), some (toString priority)⟩ with
    user := who }

end Task

namespace TaskWork

variable {c : Context} {st st' : State} {u : Unit}

theorem replaceTask_inv {s s' : Store} {t : Task} (h : s.replaceTask t = .ok s') :
    s' = s.putTask t := by
  unfold Store.replaceTask at h
  split at h <;> cases h
  rfl

/-- Work on a task that succeeds was told which one, and has found it. -/
theorem find_bind_inv {α : Type} {taskId : Option String} {f : Task → Action α} {y : α}
    (h : (find taskId >>= f).run c st = (.ok y, st')) :
    ∃ id t, taskId = some id ∧ st.store.tasks.get? id = some t ∧
      (f t).run c st = (.ok y, st') := by
  simp only [find, bind_assoc, Action.run_decided_bind_eq_ok, Action.run_consult_bind_eq_ok,
    ensureGiven_eq_ok] at h
  obtain ⟨id, hid, t, ht, h⟩ := h
  split at ht <;> cases ht
  exact ⟨id, t, hid, ‹_›, h⟩

/-- The task is put in the place of the stored one, and the audit log gets the entry. -/
theorem put_inv {t : Task} {entry : LogEntry}
    (h : (do Action.modify (·.replaceTask t); Action.audit entry : Action Unit).run c st =
      (.ok u, st')) :
    st' = { st with
      store := (st.store.putTask t).record { entry with user := c.subject.map (·.user) } } := by
  obtain ⟨_, _, hmodify, h⟩ := Action.run_bind_eq_ok.1 h
  obtain ⟨s, hs, rfl⟩ := Action.run_modify_eq_ok.1 hmodify
  obtain rfl := replaceTask_inv hs
  cases h
  rfl

/-- What handing a task to a user has done. -/
theorem delegate_ran {taskId user : Option String}
    (h : (delegate taskId user).run c st = (.ok u, st')) :
    ∃ id t user', taskId = some id ∧ user = some user' ∧ st.store.tasks.get? id = some t ∧
      (c.authority st.store).requireUpdateTask t = .ok () ∧
      st' = { st with
        store := (st.store.putTask (t.delegate user')).record
          (t.delegated user' (c.subject.map (·.user))) } := by
  obtain ⟨id, t, htask, ht, h⟩ := find_bind_inv h
  simp only [Action.run_decided_bind_eq_ok, Action.run_authorize_bind_eq_ok,
    ensureGiven_eq_ok] at h
  obtain ⟨user', huser, _, hrequired, h⟩ := h
  exact ⟨id, t, user', htask, huser, ht, hrequired, put_inv h⟩

/-- What setting the priority of a task has done. -/
theorem setPriority_ran {taskId : Option String} {priority : Int}
    (h : (setPriority taskId priority).run c st = (.ok u, st')) :
    ∃ id t, taskId = some id ∧ st.store.tasks.get? id = some t ∧
      (c.authority st.store).requireUpdateTask t = .ok () ∧
      st' = { st with
        store := (st.store.putTask { t with priority := priority }).record
          (t.prioritized priority (c.subject.map (·.user))) } := by
  obtain ⟨id, t, htask, ht, h⟩ := find_bind_inv h
  obtain ⟨_, hrequired, h⟩ := Action.run_authorize_bind_eq_ok.1 h
  exact ⟨id, t, htask, ht, hrequired, put_inv h⟩

theorem delegate_inv {taskId user : Option String}
    (h : (delegate taskId user).run c st = (.ok u, st')) :
    ∃ id t user' entry, st.store.tasks.get? id = some t ∧
      (c.authority st.store).requireUpdateTask t = .ok () ∧
      st'.store = (st.store.putTask (t.delegate user')).record entry := by
  obtain ⟨id, t, user', -, -, ht, hrequired, rfl⟩ := delegate_ran h
  exact ⟨id, t, user', _, ht, hrequired, rfl⟩

theorem setPriority_inv {taskId : Option String} {priority : Int}
    (h : (setPriority taskId priority).run c st = (.ok u, st')) :
    ∃ id t entry, st.store.tasks.get? id = some t ∧
      (c.authority st.store).requireUpdateTask t = .ok () ∧
      st'.store = (st.store.putTask { t with priority := priority }).record entry := by
  obtain ⟨id, t, -, ht, hrequired, rfl⟩ := setPriority_ran h
  exact ⟨id, t, _, ht, hrequired, rfl⟩

end TaskWork

end Workflow
