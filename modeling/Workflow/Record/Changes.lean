import Workflow.Record.Reply

/-!
# Records of changes

What differs between two states of the store: in a table the rows that are not the same, under
their keys, and null for a row that is gone; of the audit log and of the deliveries what came after.
A table or list without a difference is left out.

* `Table.lookup_rowChanges`: what a key shows among the changes is what became of its row.
-/

namespace Workflow

namespace Table

variable {α : Type}

/-- What became of the row under a key, if it is not the same as before; null if it is gone. -/
def rowChange? (record : α → Value) (before after : Option α) : Option Value :=
  match before, after with
  | some a, some b => if (record a).agrees (record b) then none else some (record b)
  | none, some b => some (record b)
  | some _, none => some .null
  | none, none => none

/-- The rows that are not the same as before, under their keys in ascending order. -/
def rowChanges (record : α → Value) (before after : Table α) : List (String × Value) :=
  (before.union after).keys.filterMap fun key =>
    (rowChange? record (before.get? key) (after.get? key)).map fun v => (key, v)

theorem lookup_filterMap_key {β : Type} (f : String → Option β) (keys : List String)
    (k : String) :
    (keys.filterMap fun key => (f key).map fun v => (key, v)).lookup k =
      if k ∈ keys then f k else none := by
  induction keys with
  | nil => simp
  | cons key rest ih =>
    by_cases hk : k = key
    · subst hk
      cases hf : f k with
      | none => simp [hf, ih]
      | some v => simp [hf]
    · cases hf : f key with
      | none => simp [hf, ih, hk]
      | some v => simp [hf, ih, hk, List.lookup_cons, beq_eq_false_iff_ne.2 hk]

/-- What a key shows among the changes is what became of its row. -/
theorem lookup_rowChanges (record : α → Value) (before after : Table α) (k : String) :
    (rowChanges record before after).lookup k =
      rowChange? record (before.get? k) (after.get? k) := by
  rw [rowChanges, lookup_filterMap_key]
  split
  · rfl
  · rename_i h
    rw [mem_keys_iff, contains_union] at h
    have hb : before.get? k = none := by
      cases hg : before.get? k <;> simp_all [contains]
    have ha : after.get? k = none := by
      cases hg : after.get? k <;> simp_all [contains]
    rw [hb, ha]
    rfl

end Table

namespace Store

/-- The record of the changes of a table, if there are any. -/
def tableChanges? {α : Type} (record : α → Value) (before after : Table α) : Option Value :=
  match Table.rowChanges record before after with
  | [] => none
  | changes => some (.members changes)

/-- The record of what was appended to a list, if anything was. -/
def additions? {α : Type} (record : α → Value) (before after : List α) : Option Value :=
  match after.drop before.length with
  | [] => none
  | added => some (.list (added.map record))

/-- The record of what differs from an earlier state of the store, if anything does. -/
def changesSince? (s earlier : Store) : Option Value :=
  let changes : List (String × Option Value) := [
    ("authorizations", tableChanges? (·.toValue) earlier.grants s.grants),
    ("deferred_jobs", tableChanges? (·.toValue) earlier.deferredJobs s.deferredJobs),
    ("executions", tableChanges? (·.toValue) earlier.executions s.executions),
    ("job_definitions", tableChanges? (·.toValue) earlier.jobDefinitions s.jobDefinitions),
    ("jobs", tableChanges? (·.toValue) earlier.jobs s.jobs),
    ("operation_log", additions? (·.toValue) earlier.log s.log),
    ("process_definitions", tableChanges? (·.toValue) earlier.definitions s.definitions),
    ("received_events", additions? (·.toValue) earlier.deliveries s.deliveries),
    ("subscriptions", tableChanges? (·.toValue) earlier.subscriptions s.subscriptions),
    ("tasks", tableChanges? (·.toValue) earlier.tasks s.tasks)]
  match changes.filterMap fun (name, change) => change.map fun v => (name, v) with
  | [] => none
  | named => some (.object named)

end Store

end Workflow
