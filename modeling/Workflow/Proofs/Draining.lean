import Workflow.Proofs.Cycles

/-!
# The schedule drains

An engine that looks for deferred jobs again and again, at one and the same time, comes to an end.
What is measured is how many tries are left of the jobs that are due: a job that succeeds takes its
tries off the schedule with it, and a job that fails has one try less.

* `Engine.Carries`: jobs are carried out one after the other. One that fails changes its own row and
  nothing else, whatever the jobs before it have done.
* `exists_carries`: the jobs that a look has taken can all be carried out.
* `Engine.LookedAt`: a look, with what came of each job.
* `Table.total`: a sum over the rows; `total_erase` and `total_insert` say how it changes.
* `Store.dueTries`: the tries that are left of the jobs that are due; `Carries.dueTries_le` says that
  every job that is carried out costs one.
* `deferred_jobs_drain`: looks never fail, and after as many as there were tries there is nothing
  left to do.
-/

namespace Workflow

/-! ## What is measured -/

namespace Table

/-- What the rows measure together. -/
def total {α : Type} (measure : α → Nat) (t : Table α) : Nat := (t.rows.map measure).sum

section

variable {α : Type} {measure : α → Nat} {t : Table α} {k : String} {v : α}

theorem total_eq_zero_iff : t.total measure = 0 ↔ ∀ v ∈ t.rows, measure v = 0 := by
  rw [total, List.sum_eq_zero_iff_forall_eq_nat, List.forall_mem_map]

theorem total_erase (h : t.get? k = some v) :
    (t.erase k).total measure + measure v = t.total measure := by
  rw [total, total, ((rows_perm_erase h).map measure).sum_nat, List.map_cons, List.sum_cons,
    Nat.add_comm]

/-- Filing a row in place of another. -/
theorem total_insert (h : t.get? k = some v) (w : α) :
    (t.insert k w).total measure + measure v = t.total measure + measure w := by
  have hnew : ((t.insert k w).erase k).total measure + measure w = (t.insert k w).total measure :=
    total_erase (by simp)
  have hold : (t.erase k).total measure + measure v = t.total measure := total_erase h
  rw [erase_insert] at hnew
  omega

end

end Table

/-- The tries that are left of the jobs that are due. -/
def Store.dueTries (s : Store) (now : Int) : Nat :=
  s.deferredJobs.total fun j => if j.dueDate ≤ now then j.retries else 0

/-- The job that has failed: it has one try less and keeps the reason. -/
def DeferredJob.failedFor (j : DeferredJob) (reason : Error) : DeferredJob :=
  { j with retries := j.retries - 1, failure := some reason.message }

/-- The store in which a job has failed; nothing else is changed. -/
def Store.withFailure (s : Store) (j : DeferredJob) (reason : Error) : Store :=
  { s with deferredJobs := s.deferredJobs.insert j.id (j.failedFor reason) }

theorem DeferredJob.isDue_iff {j : DeferredJob} {now : Int} :
    j.isDue now = true ↔ j.dueDate ≤ now := decide_eq_true_iff

namespace Store

variable {s : Store} {now : Int} {j : DeferredJob}

/-- Nothing is taken exactly if no try is left. -/
theorem acquire_eq_nil_iff {limit : Nat} (hlimit : 0 < limit) :
    s.acquire now limit = [] ↔ s.dueTries now = 0 := by
  rw [dueTries, Table.total_eq_zero_iff]
  constructor
  · intro hnil j hj
    have hdue : s.dueJobs now = [] := by
      rcases List.take_eq_nil_iff.1 hnil with h | h
      · omega
      · exact h
    split
    · rename_i hnow
      by_contra hleft
      have hmem : j ∈ s.dueJobs now := by
        refine List.mem_mergeSort.2 (List.mem_filter.2 ⟨hj, ?_⟩)
        simp [DeferredJob.isDue_iff.2 hnow, DeferredJob.isFailed, hleft]
      rw [hdue] at hmem
      cases hmem
    · rfl
  · intro hzero
    refine List.eq_nil_iff_forall_not_mem.2 fun j hj => ?_
    obtain ⟨hrow, hnow, hleft⟩ := mem_acquire hj
    have := hzero j hrow
    rw [if_pos (DeferredJob.isDue_iff.1 hnow)] at this
    omega

/-- A job that is taken off the schedule takes its tries with it. -/
theorem dueTries_erase {s' : Store} (stands : s.deferredJobs.get? j.id = some j)
    (hdue : j.dueDate ≤ now) (h : s'.deferredJobs = s.deferredJobs.erase j.id) :
    s'.dueTries now + j.retries = s.dueTries now := by
  have htotal : s'.dueTries now + (if j.dueDate ≤ now then j.retries else 0) = s.dueTries now := by
    rw [dueTries, h]
    exact Table.total_erase stands
  rwa [if_pos hdue] at htotal

/-- A job that has failed has one try less. -/
theorem dueTries_withFailure (reason : Error) (stands : s.deferredJobs.get? j.id = some j)
    (hdue : j.dueDate ≤ now) (hopen : 0 < j.retries) :
    (s.withFailure j reason).dueTries now + 1 = s.dueTries now := by
  have htotal : (s.withFailure j reason).dueTries now + (if j.dueDate ≤ now then j.retries else 0) =
      s.dueTries now + (if j.dueDate ≤ now then j.retries - 1 else 0) :=
    Table.total_insert stands (j.failedFor reason)
  rw [if_pos hdue, if_pos hdue] at htotal
  omega

end Store

namespace Engine

/-- What came of a job that was taken from the schedule. -/
structure Outcome where
  /-- The job as it was taken. -/
  job : DeferredJob
  /-- Why it failed, if it did. -/
  failure : Option Error

namespace Outcome

/-- What is left of the job on the schedule. -/
def left (o : Outcome) : Option DeferredJob := o.failure.map o.job.failedFor

/-- Whether the job succeeded. -/
def succeeded (o : Outcome) : Bool := o.failure.isNone

/-- Whether the job failed. -/
def failed (o : Outcome) : Bool := o.failure.isSome

/-- Whether the job failed and has no try left. -/
def exhausted (o : Outcome) : Bool := o.left.any (·.retries = 0)

section

variable (j : DeferredJob) (reason : Error)

@[simp] theorem succeeded_none : (⟨j, none⟩ : Outcome).succeeded = true := rfl

@[simp] theorem failed_none : (⟨j, none⟩ : Outcome).failed = false := rfl

@[simp] theorem exhausted_none : (⟨j, none⟩ : Outcome).exhausted = false := rfl

@[simp] theorem succeeded_some : (⟨j, some reason⟩ : Outcome).succeeded = false := rfl

@[simp] theorem failed_some : (⟨j, some reason⟩ : Outcome).failed = true := rfl

@[simp] theorem exhausted_some :
    (⟨j, some reason⟩ : Outcome).exhausted = decide (j.retries - 1 = 0) := rfl

theorem failed_eq (o : Outcome) : o.failed = !o.succeeded := by
  obtain ⟨_, _ | _⟩ := o <;> rfl

end

end Outcome

/-- What is reported of jobs that were carried out. -/
def Report.ofOutcomes (outcomes : List Outcome) : Report where
  acquired := outcomes.length
  executed := outcomes.countP (·.succeeded)
  failed := outcomes.countP (·.failed)
  exhausted := outcomes.countP (·.exhausted)

/-- The report of jobs that were taken, of which some were carried out. -/
def Report.plus (r : Report) (outcomes : List Outcome) : Report where
  acquired := r.acquired
  executed := r.executed + outcomes.countP (·.succeeded)
  failed := r.failed + outcomes.countP (·.failed)
  exhausted := r.exhausted + outcomes.countP (·.exhausted)

/-- Jobs are carried out one after the other, each as it stands on the schedule. One that succeeds
is taken off the schedule. One that fails leaves the store as it was before it, but for its own row
on the schedule, which has one try less and the reason. -/
inductive Carries (e : Engine) : List Outcome → State → State → Prop where
  | nil (st : State) : e.Carries [] st st
  | succeeded {j : DeferredJob} {outcomes : List Outcome} {st st₁ st₂ : State}
      (stands : st.store.deferredJobs.get? j.id = some j)
      (asked : e.ask none (.runDeferred j) st = (.ok .done, st₁))
      (unscheduled : st₁.store.deferredJobs = st.store.deferredJobs.erase j.id)
      (rest : e.Carries outcomes st₁ st₂) : e.Carries (⟨j, none⟩ :: outcomes) st st₂
  | failed {j : DeferredJob} {reason : Error} {outcomes : List Outcome} {st st₁ st₂ : State}
      (stands : st.store.deferredJobs.get? j.id = some j)
      (asked : e.ask none (.runDeferred j) st = (.error reason, st₁))
      (rest : e.Carries outcomes { st₁ with store := st.store.withFailure j reason } st₂) :
      e.Carries (⟨j, some reason⟩ :: outcomes) st st₂

/-- A look for the jobs that are due now, with what came of each job that was taken. -/
structure LookedAt (e : Engine) (now : Int) (st : State) (outcomes : List Outcome)
    (report : Report) (st' : State) : Prop where
  /-- The look does not fail. -/
  run : (e.runDueJobs now).run (e.contextFor none) st = (.ok report, st')
  /-- The jobs were taken from the schedule. -/
  taken : outcomes.map (·.job) = st.store.acquire now e.settings.batch
  /-- They were carried out. -/
  carried : e.Carries outcomes st st'
  /-- The report counts what came of them. -/
  counts : report = .ofOutcomes outcomes
  /-- Every job that was taken succeeded or failed. -/
  balance : report.acquired = report.executed + report.failed
  /-- Of the jobs that were taken, those that failed are still on the schedule. -/
  schedule : ∀ o ∈ outcomes, st'.store.deferredJobs.get? o.job.id = o.left
  /-- The other jobs are on the schedule as they were. -/
  others : ∀ id ∉ outcomes.map (·.job.id),
    st'.store.deferredJobs.get? id = st.store.deferredJobs.get? id

variable {e : Engine} {now : Int} {outcomes : List Outcome} {st st' : State}

/-! ## Carrying jobs out -/

namespace Carries

theorem filed (h : e.Carries outcomes st st') (hst : st.store.deferredJobs.Filed (·.id)) :
    st'.store.deferredJobs.Filed (·.id) := by
  induction h with
  | nil st => exact hst
  | succeeded _ _ unscheduled _ ih => exact ih (unscheduled ▸ hst.erase _)
  | failed _ _ _ ih => exact ih (hst.insert (DeferredJob.failedFor _ _))

/-- Jobs that were not carried out are as they were. -/
theorem others (h : e.Carries outcomes st st') {id : String}
    (hid : id ∉ outcomes.map (·.job.id)) :
    st'.store.deferredJobs.get? id = st.store.deferredJobs.get? id := by
  induction h with
  | nil st => rfl
  | succeeded _ _ unscheduled _ ih =>
    obtain ⟨hne, hrest⟩ := List.ne_and_not_mem_of_not_mem_cons hid
    rw [ih hrest, unscheduled, Table.get?_erase, if_neg hne]
  | failed _ _ _ ih =>
    obtain ⟨hne, hrest⟩ := List.ne_and_not_mem_of_not_mem_cons hid
    rw [ih hrest]
    simp [Store.withFailure, hne]

/-- Jobs that were carried out are on the schedule if they failed. -/
theorem schedule (h : e.Carries outcomes st st') (hnodup : (outcomes.map (·.job.id)).Nodup)
    {o : Outcome} (ho : o ∈ outcomes) : st'.store.deferredJobs.get? o.job.id = o.left := by
  induction h with
  | nil st => cases ho
  | succeeded _ _ unscheduled rest ih =>
    obtain ⟨hfirst, hrest⟩ := List.nodup_cons.1 hnodup
    rcases List.mem_cons.1 ho with rfl | ho
    · rw [rest.others hfirst, unscheduled]
      simp [Outcome.left]
    · exact ih hrest ho
  | failed _ _ rest ih =>
    obtain ⟨hfirst, hrest⟩ := List.nodup_cons.1 hnodup
    rcases List.mem_cons.1 ho with rfl | ho
    · rw [rest.others hfirst]
      simp [Outcome.left, Store.withFailure]
    · exact ih hrest ho

/-- **Every job that is carried out costs a try.** -/
theorem dueTries_le (h : e.Carries outcomes st st')
    (hopen : ∀ o ∈ outcomes, o.job.dueDate ≤ now ∧ 0 < o.job.retries) :
    st'.store.dueTries now + outcomes.length ≤ st.store.dueTries now := by
  induction h with
  | nil st => exact Nat.le_refl _
  | succeeded stands _ unscheduled _ ih =>
    obtain ⟨⟨hdue, hopen⟩, hrest⟩ := List.forall_mem_cons.1 hopen
    dsimp only at hdue hopen
    have hfirst := Store.dueTries_erase stands hdue unscheduled
    have hlater := ih hrest
    rw [List.length_cons]
    omega
  | @failed _ reason _ _ _ _ stands _ _ ih =>
    obtain ⟨⟨hdue, hopen⟩, hrest⟩ := List.forall_mem_cons.1 hopen
    dsimp only at hdue hopen
    have hfirst := Store.dueTries_withFailure reason stands hdue hopen
    have hlater := ih hrest
    dsimp only at hlater
    rw [List.length_cons]
    omega

end Carries

theorem Report.addSuccess_plus (r : Report) (j : DeferredJob) (outcomes : List Outcome) :
    r.addSuccess.plus outcomes = r.plus (⟨j, none⟩ :: outcomes) := by
  simp only [plus, addSuccess, List.countP_cons, Outcome.succeeded_none, Outcome.failed_none,
    Outcome.exhausted_none, mk.injEq]
  grind

theorem Report.addFailure_plus (r : Report) (j : DeferredJob) (reason : Error)
    (outcomes : List Outcome) :
    (r.addFailure (j.retries - 1)).plus outcomes = r.plus (⟨j, some reason⟩ :: outcomes) := by
  simp only [plus, addFailure, List.countP_cons, Outcome.succeeded_some, Outcome.failed_some,
    Outcome.exhausted_some, mk.injEq]
  grind

section

variable (settings : Settings) {j : DeferredJob} {st₁ : State}

/-- A job that was asked for with success is off the schedule. -/
theorem succeeded_inv {reply : Reply}
    (h : (standard settings).ask none (.runDeferred j) st = (.ok reply, st₁)) :
    reply = .done ∧ st₁.store.deferredJobs = st.store.deferredJobs.erase j.id := by
  obtain ⟨_, hperform, rfl⟩ := Action.run_map_eq_ok.1 (perform_of_ask h)
  exact ⟨rfl, DeferredJob.deferredJobs_of_perform hperform⟩

/-- A job that stands on the schedule and fails has one try less, and nothing else is changed. -/
theorem run_runJob_error {reason : Error} (report : Report)
    (stands : st.store.deferredJobs.get? j.id = some j)
    (h : e.ask none (.runDeferred j) st = (.error reason, st₁)) :
    (e.runJob report j).run (e.contextFor none) st =
      (.ok (report.addFailure (j.retries - 1)),
        { st₁ with store := st.store.withFailure j reason }) := by
  have hnote : st₁.store.recordFailure j.id reason.message =
      .ok (j.retries - 1, st.store.withFailure j reason) := by
    rw [store_ask_of_error h, Store.recordFailure, Store.row_eq_ok.2 stands]
    rfl
  rw [Cycles.run_runJob, h]
  simp only [hnote]

theorem run_runJob_ok {reply : Reply} (report : Report)
    (h : e.ask none (.runDeferred j) st = (.ok reply, st₁)) :
    (e.runJob report j).run (e.contextFor none) st = (.ok report.addSuccess, st₁) := by
  rw [Cycles.run_runJob, h]

/-- **Jobs that stand on the schedule can all be carried out**, whatever comes of them. -/
theorem exists_carries {jobs : List DeferredJob} (report : Report)
    (hstand : ∀ j ∈ jobs, st.store.deferredJobs.get? j.id = some j)
    (hnodup : (jobs.map (·.id)).Nodup) :
    ∃ outcomes st', outcomes.map (·.job) = jobs ∧ (standard settings).Carries outcomes st st' ∧
      ((standard settings).runJobs report jobs).run ((standard settings).contextFor none) st =
        (.ok (report.plus outcomes), st') := by
  induction jobs generalizing st report with
  | nil => exact ⟨[], st, rfl, .nil st, rfl⟩
  | cons j rest ih =>
    obtain ⟨stands, hrest⟩ := List.forall_mem_cons.1 hstand
    obtain ⟨hfirst, hnodup⟩ := List.nodup_cons.1 hnodup
    have hne (i : DeferredJob) (hi : i ∈ rest) : i.id ≠ j.id := fun heq =>
      hfirst (List.mem_map.2 ⟨i, hi, heq⟩)
    rw [runJobs]
    rcases hask : (standard settings).ask none (.runDeferred j) st with ⟨reason | reply, st₁⟩
    · obtain ⟨outcomes, st', htaken, hcarries, hrun⟩ :=
        @ih { st₁ with store := st.store.withFailure j reason } (report.addFailure (j.retries - 1))
          (fun i hi => by simp [Store.withFailure, hne i hi, hrest i hi]) hnodup
      rw [Action.run_bind_ok (run_runJob_error report stands hask), hrun, Report.addFailure_plus]
      exact ⟨⟨j, some reason⟩ :: outcomes, st', congrArg (j :: ·) htaken,
        .failed stands hask hcarries, rfl⟩
    · obtain ⟨rfl, unscheduled⟩ := succeeded_inv settings hask
      obtain ⟨outcomes, st', htaken, hcarries, hrun⟩ := @ih st₁ report.addSuccess
        (fun i hi => by rw [unscheduled, Table.get?_erase, if_neg (hne i hi), hrest i hi]) hnodup
      rw [Action.run_bind_ok (run_runJob_ok report hask), hrun, Report.addSuccess_plus]
      exact ⟨⟨j, none⟩ :: outcomes, st', congrArg (j :: ·) htaken,
        .succeeded stands hask unscheduled hcarries, rfl⟩

end

/-! ## Looks -/

/-- **A look does not fail**, and all that it took was carried out. -/
theorem lookedAt (settings : Settings) (now : Int) (st : State)
    (hfiled : st.store.deferredJobs.Filed (·.id)) :
    ∃ outcomes report, (standard settings).LookedAt now st outcomes report
      ((standard settings).happen st (.look now)) := by
  have hnodup := Store.nodup_acquire hfiled now settings.batch
  obtain ⟨outcomes, st', htaken, hcarries, hrun⟩ := exists_carries settings
    { acquired := (st.store.acquire now settings.batch).length }
    (fun j hj => hfiled.get?_of_mem (Store.mem_acquire hj).1) hnodup
  have hlook : ((standard settings).runDueJobs now).run ((standard settings).contextFor none) st =
      (.ok (.ofOutcomes outcomes), st') := by
    rw [runDueJobs, Action.run_consult_bind]
    refine hrun.trans ?_
    simp [Report.plus, Report.ofOutcomes, ← htaken]
  have hafter : (standard settings).happen st (.look now) = st' := congrArg Prod.snd hlook
  have hids : (outcomes.map (·.job.id)).Nodup := by
    rw [← htaken, List.map_map] at hnodup
    exact hnodup
  refine ⟨outcomes, .ofOutcomes outcomes, ?_⟩
  rw [hafter]
  exact {
    run := hlook
    taken := htaken
    carried := hcarries
    counts := rfl
    balance := by
      have hlength := List.length_eq_countP_add_countP Outcome.succeeded (l := outcomes)
      simpa [Report.ofOutcomes, Outcome.failed_eq] using hlength
    schedule := fun o ho => hcarries.schedule hids ho
    others := fun id hid => hcarries.others hid }

namespace LookedAt

variable {report : Report}

theorem mem_taken (h : e.LookedAt now st outcomes report st') {o : Outcome} (ho : o ∈ outcomes) :
    o.job ∈ st.store.acquire now e.settings.batch := h.taken ▸ List.mem_map_of_mem ho

theorem dueTries_le (h : e.LookedAt now st outcomes report st') :
    st'.store.dueTries now + outcomes.length ≤ st.store.dueTries now :=
  h.carried.dueTries_le fun _ ho => by
    obtain ⟨-, hdue, hopen⟩ := Store.mem_acquire (h.mem_taken ho)
    exact ⟨DeferredJob.isDue_iff.1 hdue, hopen⟩

/-- A look costs a try, as long as there is one. -/
theorem dueTries_le_pred (h : e.LookedAt now st outcomes report st')
    (hbatch : 0 < e.settings.batch) : st'.store.dueTries now ≤ st.store.dueTries now - 1 := by
  have hcost := h.dueTries_le
  rcases Nat.eq_zero_or_pos outcomes.length with hnone | hsome
  · have htaken := h.taken
    rw [List.length_eq_zero_iff.1 hnone, List.map_nil, eq_comm,
      Store.acquire_eq_nil_iff hbatch] at htaken
    omega
  · omega

/-- A job that is not due is as it was. -/
theorem notDue (h : e.LookedAt now st outcomes report st')
    (hfiled : st.store.deferredJobs.Filed (·.id)) {id : String} {j : DeferredJob}
    (hj : now < j.dueDate) :
    st'.store.deferredJobs.get? id = some j ↔ st.store.deferredJobs.get? id = some j := by
  by_cases hid : id ∈ outcomes.map (·.job.id)
  · obtain ⟨o, ho, rfl⟩ := List.mem_map.1 hid
    obtain ⟨hrow, hacquired, -⟩ := Store.mem_acquire (h.mem_taken ho)
    have hdue : o.job.dueDate ≤ now := DeferredJob.isDue_iff.1 hacquired
    have hne : o.job ≠ j := by
      rintro rfl
      omega
    have hleft : o.left ≠ some j := by
      intro heq
      obtain ⟨reason, -, rfl⟩ := Option.map_eq_some_iff.1 heq
      have hsame : (o.job.failedFor reason).dueDate = o.job.dueDate := rfl
      omega
    rw [h.schedule o ho, hfiled.get?_of_mem hrow]
    simp [hne, hleft]
  · rw [h.others id hid]

end LookedAt

/-- The state after so many looks. -/
def afterLooks (e : Engine) (now : Int) (st : State) (n : Nat) : State :=
  e.run (List.replicate n (.look now)) st

theorem afterLooks_succ (n : Nat) :
    e.afterLooks now st (n + 1) = e.happen (e.afterLooks now st n) (.look now) := by
  rw [afterLooks, afterLooks, List.replicate_succ', run, List.foldl_append]
  rfl

section

variable (settings : Settings) (now : Int)

theorem filed_afterLooks (hfiled : st.store.deferredJobs.Filed (·.id)) (n : Nat) :
    ((standard settings).afterLooks now st n).store.deferredJobs.Filed (·.id) := by
  induction n with
  | zero => exact hfiled
  | succ n ih =>
    obtain ⟨outcomes, report, hlook⟩ := lookedAt settings now _ ih
    rw [afterLooks_succ]
    exact hlook.carried.filed ih

theorem dueTries_afterLooks (hfiled : st.store.deferredJobs.Filed (·.id))
    (hbatch : 0 < settings.batch) (n : Nat) :
    ((standard settings).afterLooks now st n).store.dueTries now ≤ st.store.dueTries now - n := by
  induction n with
  | zero => exact Nat.le_refl _
  | succ n ih =>
    obtain ⟨outcomes, report, hlook⟩ :=
      lookedAt settings now _ (filed_afterLooks settings now hfiled n)
    have hcost := hlook.dueTries_le_pred hbatch
    rw [afterLooks_succ]
    omega

theorem notDue_afterLooks (hfiled : st.store.deferredJobs.Filed (·.id)) (n : Nat) {id : String}
    {j : DeferredJob} (hj : now < j.dueDate) :
    ((standard settings).afterLooks now st n).store.deferredJobs.get? id = some j ↔
      st.store.deferredJobs.get? id = some j := by
  induction n with
  | zero => exact Iff.rfl
  | succ n ih =>
    have hn := filed_afterLooks settings now hfiled n
    obtain ⟨outcomes, report, hlook⟩ := lookedAt settings now _ hn
    rw [afterLooks_succ, hlook.notDue hn hj, ih]

end

/-- There is nothing left to do: a look takes no job and changes nothing, for every job that is due
has no try left and is among those that have failed for good. -/
structure Drained (e : Engine) (now : Int) (st : State) : Prop where
  look : (e.runDueJobs now).run (e.contextFor none) st = (.ok {}, st)
  failed : ∀ j ∈ st.store.deferredJobs.rows, j.dueDate ≤ now →
    j.retries = 0 ∧ j ∈ st.store.failedJobs

theorem drained_of_dueTries (hbatch : 0 < e.settings.batch) (h : st.store.dueTries now = 0) :
    e.Drained now st where
  look := by
    rw [runDueJobs, Action.run_consult_bind]
    dsimp only
    rw [(Store.acquire_eq_nil_iff hbatch).2 h]
    rfl
  failed j hj hdue := by
    have hnone := Table.total_eq_zero_iff.1 h j hj
    rw [if_pos hdue] at hnone
    refine ⟨hnone, List.mem_mergeSort.2 (List.mem_filter.2 ⟨hj, ?_⟩)⟩
    simp [DeferredJob.isFailed, hnone]

/-- **The schedule drains.** Look again and again for the deferred jobs that are due now. No look
fails: what it takes it carries out, a job that succeeds is taken off the schedule, and a job that
fails changes nothing but its own tries and reason. The jobs that are not due yet stay as they are.
After as many looks as the due jobs had tries, and from then on, there is nothing left to do. -/
theorem deferred_jobs_drain (settings : Settings) (hbatch : 0 < settings.batch) (now : Int)
    (st : State) (hfiled : st.store.deferredJobs.Filed (·.id)) :
    let e := standard settings
    (∀ n, ∃ outcomes report,
      e.LookedAt now (e.afterLooks now st n) outcomes report (e.afterLooks now st (n + 1))) ∧
    (∀ n id j, now < j.dueDate →
      ((e.afterLooks now st n).store.deferredJobs.get? id = some j ↔
        st.store.deferredJobs.get? id = some j)) ∧
    ∀ n, st.store.dueTries now ≤ n → e.Drained now (e.afterLooks now st n) := by
  intro e
  refine ⟨fun n => ?_, fun n id j hj => notDue_afterLooks settings now hfiled n hj, fun n hn => ?_⟩
  · rw [afterLooks_succ]
    exact lookedAt settings now _ (filed_afterLooks settings now hfiled n)
  · have hleft : (e.afterLooks now st n).store.dueTries now ≤ st.store.dueTries now - n :=
      dueTries_afterLooks settings now hfiled hbatch n
    exact drained_of_dueTries hbatch (by omega)

/-- Two jobs are due, and nothing can carry out the first of them. There are five tries, and after as
many looks the schedule is drained, with the job that is not due yet still on it. -/
theorem broken_job_given_up :
    let broken : DeferredJob := ⟨"a", 1, "unknown", "", 2, none⟩
    let change := Suspension.Request.deferredJob
      { Suspension.Request.new .job .suspended with selectors := { resourceId := some "j" } } "b" 2
    let later : DeferredJob := ⟨"c", 100, "unknown", "", 2, none⟩
    let store := ((((∅ : Store).putJob (.new "j")).putDeferredJob broken).putDeferredJob
      change).putDeferredJob later
    let e := standard { batch := 1 }
    let st := e.afterLooks 10 ⟨store, 0⟩ 5
    0 < e.settings.batch ∧ store.deferredJobs.Filed (·.id) ∧ store.dueTries 10 = 5 ∧
      e.Drained 10 st ∧ st.store.deferredJobs.get? "c" = some later := by
  intro broken change later store e st
  have hfiled : store.deferredJobs.Filed (·.id) :=
    ((Table.Filed.empty.insert broken).insert change).insert later
  have htries : store.dueTries 10 = 5 := by decide +kernel
  have hlater : store.deferredJobs.get? "c" = some later := by decide +kernel
  obtain ⟨-, hnotDue, hdrained⟩ :=
    deferred_jobs_drain { batch := 1 } (by decide) 10 ⟨store, 0⟩ hfiled
  exact ⟨by decide, hfiled, htries, hdrained 5 (Nat.le_of_eq htries),
    (hnotDue 5 "c" later (by decide)).2 hlater⟩

end Engine

end Workflow
