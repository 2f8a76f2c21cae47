import Mathlib.Data.List.Permutation
import Workflow.Action
import Workflow.Proofs.Tables
import Workflow.Store.Schedule

/-!
# Which jobs are taken from the schedule

Of the jobs that are due and have tries left, those are taken that come first in turn: by due date,
and by id among those that are due at the same time. Sorting is stable and the rows stand in order
of their ids, so sorting by due date alone puts them in turn.

* `DeferredJob.Before`: which of two jobs comes first; `before_byDueDate` says so of sorted jobs.
* `Store.InTurn`: a list of the open jobs in turn; there is just one (`InTurn.eq`).
* `Store.TakesFirst`: what it means to take the first ones. `oldest_jobs_are_taken` says that looking
  at the schedule does so, changes nothing, and that the due jobs are those that are taken and those
  that have failed.
-/

namespace Workflow

namespace DeferredJob

/-- A job comes before another: it is due earlier, or at the same time and has the smaller id. -/
def Before (a b : DeferredJob) : Prop := a.dueDate < b.dueDate ∨ a.dueDate = b.dueDate ∧ a.id < b.id

/-- A job is open: its due date has come, and it has tries left. -/
def IsOpen (j : DeferredJob) (now : Int) : Prop := j.dueDate ≤ now ∧ 0 < j.retries

theorem Before.asymm {a b : DeferredJob} (hab : a.Before b) : ¬ b.Before a := by
  rintro (hba | ⟨hba, hid⟩)
  · rcases hab with hlt | ⟨heq, -⟩ <;> omega
  · rcases hab with hlt | ⟨-, hid'⟩
    · omega
    · exact String.lt_asymm hid hid'

theorem isOpen_iff {j : DeferredJob} {now : Int} :
    (j.isDue now && !j.isFailed) = true ↔ j.IsOpen now := by
  simp [isDue, isFailed, IsOpen, Nat.pos_iff_ne_zero]

/-- **Jobs in order of their ids are in turn when they are sorted by due date.** -/
theorem before_byDueDate {jobs : List DeferredJob} (h : jobs.Pairwise fun a b => a.id < b.id) :
    (byDueDate jobs).Pairwise Before := by
  have htrans (a b c : DeferredJob) (hab : decide (a.dueDate ≤ b.dueDate) = true)
      (hbc : decide (b.dueDate ≤ c.dueDate) = true) : decide (a.dueDate ≤ c.dueDate) = true := by
    simp only [decide_eq_true_eq] at *
    omega
  have htotal (a b : DeferredJob) :
      (decide (a.dueDate ≤ b.dueDate) || decide (b.dueDate ≤ a.dueDate)) = true := by
    simp only [Bool.or_eq_true, decide_eq_true_eq]
    omega
  unfold byDueDate
  induction jobs with
  | nil => simp
  | cons a rest ih =>
    obtain ⟨hids, hrest⟩ := List.pairwise_cons.1 h
    -- Sorting puts the first job behind the earlier ones and before all that are due with it.
    obtain ⟨earlier, later, hsort, hsplit, hearlier⟩ := List.mergeSort_cons htrans htotal a rest
    have hsorted := List.pairwise_mergeSort htrans htotal (a :: rest)
    have hturn := ih hrest
    rw [hsplit, List.pairwise_append] at hturn
    rw [hsort, List.pairwise_append, List.pairwise_cons] at hsorted ⊢
    obtain ⟨hturn₁, hturn₂, hturn₁₂⟩ := hturn
    refine ⟨hturn₁, ⟨fun b hb => ?_, hturn₂⟩, fun b hb c hc => ?_⟩
    · have hperm := List.mergeSort_perm rest fun a b => decide (a.dueDate ≤ b.dueDate)
      rw [hsplit] at hperm
      have hmem : b ∈ rest := hperm.mem_iff.1 (List.mem_append_right _ hb)
      have hle : a.dueDate ≤ b.dueDate := by simpa using hsorted.2.1.1 b hb
      rcases Int.lt_or_eq_of_le hle with hlt | heq
      · exact .inl hlt
      · exact .inr ⟨heq, hids b hmem⟩
    · rcases List.mem_cons.1 hc with rfl | hc
      · exact .inl (by simpa using hearlier b hb)
      · exact hturn₁₂ b hb c hc

end DeferredJob

namespace Store

variable {s : Store} {now : Int}

/-! ## Jobs that are taken -/

theorem mem_acquire {limit : Nat} {j : DeferredJob} (h : j ∈ s.acquire now limit) :
    j ∈ s.deferredJobs.rows ∧ j.isDue now = true ∧ 0 < j.retries := by
  have hdue : j ∈ s.dueJobs now := List.mem_of_mem_take h
  obtain ⟨hrow, hopen⟩ := List.mem_filter.1 (List.mem_mergeSort.1 hdue)
  rw [Bool.and_eq_true] at hopen
  refine ⟨hrow, hopen.1, Nat.pos_of_ne_zero fun hzero => ?_⟩
  simp [DeferredJob.isFailed, hzero] at hopen

/-- What is taken is on the schedule. -/
theorem contains_of_mem_acquire (hfiled : s.deferredJobs.Filed (·.id)) {limit : Nat}
    {j : DeferredJob} (h : j ∈ s.acquire now limit) : s.deferredJobs.contains j.id = true := by
  rw [Table.contains, hfiled.get?_of_mem (mem_acquire h).1]
  rfl

/-- No job is taken twice at once. -/
theorem nodup_acquire (hfiled : s.deferredJobs.Filed (·.id)) (now : Int) (limit : Nat) :
    ((s.acquire now limit).map (·.id)).Nodup := by
  have hrows : ((s.deferredJobs.rows.filter fun j => j.isDue now && !j.isFailed).map
      (·.id)).Nodup := hfiled.nodup_ids.sublist (List.filter_sublist.map _)
  have hdue : ((s.dueJobs now).map (·.id)).Nodup :=
    ((List.mergeSort_perm _ _).map _).nodup_iff.2 hrows
  exact hdue.sublist ((List.take_sublist _ _).map _)

/-! ## The first in turn -/

/-- A list of the open jobs of the schedule in turn. -/
structure InTurn (s : Store) (now : Int) (jobs : List DeferredJob) : Prop where
  mem : ∀ j, j ∈ jobs ↔ j ∈ s.deferredJobs.rows ∧ j.IsOpen now
  ordered : jobs.Pairwise DeferredJob.Before

namespace InTurn

theorem nodup {jobs : List DeferredJob} (h : s.InTurn now jobs) : jobs.Nodup := by
  refine h.ordered.imp fun hbefore he => ?_
  rw [he] at hbefore
  exact hbefore.asymm hbefore

/-- There is just one such list. -/
theorem eq {jobs jobs' : List DeferredJob} (h : s.InTurn now jobs) (h' : s.InTurn now jobs') :
    jobs = jobs' := by
  have hperm : jobs.Perm jobs' :=
    (List.perm_ext_iff_of_nodup h.nodup h'.nodup).2 fun j => (h.mem j).trans (h'.mem j).symm
  exact hperm.eq_of_pairwise (fun _ _ _ _ hab hba => absurd hba hab.asymm) h.ordered h'.ordered

end InTurn

theorem inTurn_dueJobs (hfiled : s.deferredJobs.Filed (·.id)) (now : Int) :
    s.InTurn now (s.dueJobs now) where
  mem j := by
    rw [dueJobs, DeferredJob.byDueDate, List.mem_mergeSort, List.mem_filter, DeferredJob.isOpen_iff]
  ordered :=
    DeferredJob.before_byDueDate ((List.pairwise_map.1 hfiled.ascending_ids).filter _)

/-- Jobs are taken that come first in turn: the first of the one list that holds the open jobs in
turn, or all of it if there are fewer. None is taken twice, and if an open job is left out, then so
many are taken as may be, and they come before it. -/
structure TakesFirst (s : Store) (now : Int) (limit : Nat) (taken : List DeferredJob) : Prop where
  first : ∃ jobs, s.InTurn now jobs ∧ taken = jobs.take limit
  only : ∀ jobs, s.InTurn now jobs → taken = jobs.take limit
  nodup : (taken.map (·.id)).Nodup
  left : ∀ j ∈ s.deferredJobs.rows, j.IsOpen now → j ∉ taken →
    taken.length = limit ∧ ∀ i ∈ taken, i.dueDate ≤ j.dueDate ∧ i.Before j

theorem takesFirst_acquire (hfiled : s.deferredJobs.Filed (·.id)) (now : Int) (limit : Nat) :
    s.TakesFirst now limit (s.acquire now limit) where
  first := ⟨s.dueJobs now, inTurn_dueJobs hfiled now, rfl⟩
  only jobs hjobs := by rw [acquire, (inTurn_dueJobs hfiled now).eq hjobs]
  nodup := nodup_acquire hfiled now limit
  left j hj hopen hleft := by
    have hturn := inTurn_dueJobs hfiled now
    have hparts : s.acquire now limit ++ (s.dueJobs now).drop limit = s.dueJobs now :=
      List.take_append_drop _ _
    have hdrop : j ∈ (s.dueJobs now).drop limit := by
      have hdue := (hturn.mem j).2 ⟨hj, hopen⟩
      rw [← hparts, List.mem_append] at hdue
      exact hdue.resolve_left hleft
    have hlength : limit < (s.dueJobs now).length := by
      have hsome := List.length_pos_of_mem hdrop
      rw [List.length_drop] at hsome
      omega
    refine ⟨List.length_take_of_le (Nat.le_of_lt hlength), fun i hi => ?_⟩
    have hordered := hturn.ordered
    rw [← hparts] at hordered
    have hbefore := (List.pairwise_append.1 hordered).2.2 i hi j hdrop
    refine ⟨?_, hbefore⟩
    rcases hbefore with hlt | ⟨heq, -⟩ <;> omega

/-! ## Due jobs -/

/-- The due jobs are those that are taken without a limit and those that have failed. -/
theorem due_perm {limit : Nat} (hlimit : s.deferredJobs.size ≤ limit) (now : Int) :
    (s.acquire now limit ++ s.failedJobs.filter (·.isDue now)).Perm
      (s.deferredJobs.rows.filter (·.isDue now)) := by
  have hopen : (s.acquire now limit).Perm
      ((s.deferredJobs.rows.filter (·.isDue now)).filter fun j => !j.isFailed) := by
    have hall : s.acquire now limit = s.dueJobs now := by
      refine List.take_of_length_le (Nat.le_trans ?_ hlimit)
      rw [dueJobs, DeferredJob.byDueDate, List.length_mergeSort]
      exact Nat.le_trans (List.length_filter_le _ _) (Nat.le_of_eq (List.length_map _))
    rw [hall, List.filter_filter]
    simp only [Bool.and_comm]
    exact List.mergeSort_perm _ _
  have hfailed : (s.failedJobs.filter (·.isDue now)).Perm
      ((s.deferredJobs.rows.filter (·.isDue now)).filter (·.isFailed)) := by
    rw [List.filter_filter]
    simp only [Bool.and_comm (DeferredJob.isFailed _)]
    rw [← List.filter_filter]
    exact (List.mergeSort_perm _ _).filter _
  have hparts := List.filter_append_perm (·.isFailed) (s.deferredJobs.rows.filter (·.isDue now))
  exact ((hopen.append hfailed).trans List.perm_append_comm).trans hparts

/-- **The oldest jobs are taken.** Whatever is on the schedule, a look at it takes the open jobs that
come first in turn, as many as may be taken, and changes nothing. The due jobs are those that would
be taken without a limit and those among the failed ones, and no job is among both. -/
theorem oldest_jobs_are_taken (s : Store) (hfiled : s.deferredJobs.Filed (·.id)) (now : Int)
    (limit : Nat) :
    s.TakesFirst now limit (s.acquire now limit) ∧
    (∀ (c : Context) (minted : Nat),
      (Action.consult fun _ s => .ok (s.acquire now limit)).run c ⟨s, minted⟩ =
        (.ok (s.acquire now limit), ⟨s, minted⟩)) ∧
    ∀ unlimited, s.deferredJobs.size ≤ unlimited →
      (s.acquire now unlimited ++ s.failedJobs.filter (·.isDue now)).Perm
        (s.deferredJobs.rows.filter (·.isDue now)) ∧
      ∀ j ∈ s.acquire now unlimited, j ∉ s.failedJobs := by
  refine ⟨takesFirst_acquire hfiled now limit, fun _ _ => rfl, fun unlimited hlimit =>
    ⟨due_perm hlimit now, fun j hj hfailed => ?_⟩⟩
  have htries := (mem_acquire hj).2.2
  have hnone := (List.mem_filter.1 (List.mem_mergeSort.1 hfailed)).2
  simp only [DeferredJob.isFailed, decide_eq_true_eq] at hnone
  omega

/-- Two jobs that are due at the same time wait behind an older one; the oldest has failed. Of the
two the one with the smaller id is taken, and the other is left. -/
theorem older_job_taken_first :
    let old := DeferredJob.new "c" 2 "suspend-job" ""
    let first := DeferredJob.new "a" 5 "suspend-job" ""
    let second := DeferredJob.new "b" 5 "suspend-job" ""
    let broken : DeferredJob := { DeferredJob.new "d" 1 "suspend-job" "" with retries := 0 }
    let store := (((Store.putDeferredJob ∅ second).putDeferredJob old).putDeferredJob
      broken).putDeferredJob first
    store.deferredJobs.Filed (·.id) ∧ store.TakesFirst 10 2 [old, first] ∧
      [old, first, second, broken].Perm (store.deferredJobs.rows.filter (·.isDue 10)) := by
  intro old first second broken store
  have hfiled : store.deferredJobs.Filed (·.id) :=
    (((Table.Filed.empty.insert second).insert old).insert broken).insert first
  obtain ⟨htaken, -, hdue⟩ := oldest_jobs_are_taken store hfiled 10 2
  have hacquire : store.acquire 10 2 = [old, first] := by cbv
  have hall : store.acquire 10 4 ++ store.failedJobs.filter (·.isDue 10) =
      [old, first, second, broken] := by cbv
  exact ⟨hfiled, hacquire ▸ htaken, hall ▸ (hdue 4 (by decide +kernel)).1⟩

end Store

end Workflow
