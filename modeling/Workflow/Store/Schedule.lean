import Workflow.Store

/-!
# The schedule

Deferred jobs wait in the store until they are due. The due ones are handed out oldest first; a job
that ran is taken off the schedule, a job that failed keeps the reason and has one try less. A job
without tries left stays, but is not handed out.
-/

namespace Workflow

/-- Deferred jobs in order of due date, those due at the same time as they stand. -/
def DeferredJob.byDueDate (jobs : List DeferredJob) : List DeferredJob :=
  jobs.mergeSort fun a b => a.dueDate ≤ b.dueDate

namespace Store

/-- The deferred jobs that are due and have tries left, oldest first. -/
def dueJobs (s : Store) (now : Int) : List DeferredJob :=
  DeferredJob.byDueDate (s.deferredJobs.rows.filter fun j => j.isDue now && !j.isFailed)

/-- At most `limit` of the due jobs, oldest first. -/
def acquire (s : Store) (now : Int) (limit : Nat) : List DeferredJob := (s.dueJobs now).take limit

/-- The deferred jobs without tries left, oldest first. -/
def failedJobs (s : Store) : List DeferredJob :=
  DeferredJob.byDueDate (s.deferredJobs.rows.filter (·.isFailed))

/-- The deferred jobs for a type of handler. -/
def jobsOfHandler (s : Store) (handlerType : String) : List DeferredJob :=
  s.deferredJobs.rows.filter (·.handlerType = handlerType)

/-- Take a job off the schedule. -/
def unschedule (s : Store) (id : String) : Store :=
  { s with deferredJobs := s.deferredJobs.erase id }

/-- Note that a job failed; the answer is how many tries are left. -/
def recordFailure (s : Store) (id reason : String) : Except Error (Nat × Store) := do
  let job ← row s.deferredJobs .job id
  let failed := job.afterFailure reason
  return (failed.retries, { s with deferredJobs := s.deferredJobs.insert id failed })

/-- Say how often a job may still be tried. -/
def setRetries (s : Store) (id : String) (retries : Nat) : Except Error Store := do
  let job ← row s.deferredJobs .job id
  return { s with deferredJobs := s.deferredJobs.insert id { job with retries := retries } }

end Store

end Workflow
