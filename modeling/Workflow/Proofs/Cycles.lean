import Mathlib
import Workflow.Proofs.Acquisition
import Workflow.Proofs.Runs
import Workflow.Proofs.Suspension.Schedule

/-!
# Cycles that overlap

A look for deferred jobs is no single step. Due jobs are taken from the schedule first, as copies
that leave the schedule as it is; then each of them is carried out in a unit of work of its own; and
if one fails, this is noted after that. Between these steps other cycles may take theirs, jobs may be
put on the schedule and tries may be given back.

* `Cycles` are cycles over one store, `Cycles.step` is one of their steps, in whatever order.
* `Cycles.run_cycle`: a cycle that nothing comes between is a look for deferred jobs.
* `Cycles.Next` says what a step can do; invariants are shown from it, case by case.
* `fired_by_cycles_under_way`: no cycle fires a job twice; once a job was fired, only cycles that
  had begun by then can fire it again; and if no job is taken that another cycle has taken and not
  carried out yet, every job is fired at most once.
* `fired_by_both`: otherwise it is fired twice. `overlapping_cycles_fire_twice` is what may come of
  it.
-/

namespace Workflow

/-- A cycle that has begun. -/
structure Cycle where
  /-- The jobs that it has taken and not carried out yet. -/
  pending : List DeferredJob
  /-- The job that has failed and why, if this was not noted yet. -/
  failed : Option (String × String)

/-- Cycles over one store. -/
structure Cycles where
  /-- What they work on. -/
  state : State
  /-- The cycles, in the order in which they began. -/
  begun : List Cycle
  /-- The ids that jobs were scheduled under so far. -/
  used : List String
  /-- Which cycle has carried out which job with success. -/
  fired : List (Nat × String)

namespace Cycles

/-- Before any cycle has begun. -/
def start (st : State) : Cycles := ⟨st, [], st.store.deferredJobs.keys, []⟩

/-- A step of a cycle, or something that may come in between. -/
inductive Move where
  /-- A cycle begins by taking jobs. -/
  | acquire (now : Int) (limit : Nat)
  /-- A cycle carries out its next job. -/
  | carryOut (n : Nat)
  /-- A cycle notes that the job has failed. -/
  | note (n : Nat)
  /-- A job is scheduled under an id of its own. -/
  | schedule (j : DeferredJob)
  /-- It is said how often a job may still be tried. -/
  | setRetries (id : String) (retries : Nat)

/-- Make a step. A step that is not possible, since the cycle has another step to make, has come to
its end or never began, or since the id was used before, does nothing. A cycle ends when it cannot
note a failure. -/
def step (e : Engine) (w : Cycles) : Move → Cycles
  | .acquire now limit => { w with begun := w.begun ++ [⟨w.state.store.acquire now limit, none⟩] }
  | .carryOut n =>
    match w.begun[n]? with
    | some ⟨j :: rest, none⟩ =>
      match e.ask none (.runDeferred j) w.state with
      | (.ok _, st) =>
        { w with
          state := st
          begun := w.begun.set n ⟨rest, none⟩
          fired := w.fired ++ [(n, j.id)] }
      | (.error reason, st) =>
        { w with state := st, begun := w.begun.set n ⟨rest, some (j.id, reason.message)⟩ }
    | _ => w
  | .note n =>
    match w.begun[n]? with
    | some ⟨rest, some (id, reason)⟩ =>
      match w.state.store.recordFailure id reason with
      | .ok (_, s) =>
        { w with state := { w.state with store := s }, begun := w.begun.set n ⟨rest, none⟩ }
      | .error _ => { w with begun := w.begun.set n ⟨[], none⟩ }
    | _ => w
  | .schedule j =>
    if j.id ∈ w.used then w
    else
      { w with
        state := { w.state with store := w.state.store.putDeferredJob j }
        used := j.id :: w.used }
  | .setRetries id retries =>
    match w.state.store.setRetries id retries with
    | .ok s => { w with state := { w.state with store := s } }
    | .error _ => w

/-- Make steps one after the other. -/
def run (e : Engine) (w : Cycles) (moves : List Move) : Cycles := moves.foldl (step e) w

/-- What a cycle has taken and not carried out yet. -/
def pending (w : Cycles) (n : Nat) : List DeferredJob := (w.begun[n]?).elim [] (·.pending)

/-! ## Carrying a job out -/

section

variable {e : Engine} {w : Cycles} {n : Nat} {j : DeferredJob} {rest : List DeferredJob} {st : State}

theorem step_carryOut_ok {reply : Reply} (h : w.begun[n]? = some ⟨j :: rest, none⟩)
    (hask : e.ask none (.runDeferred j) w.state = (.ok reply, st)) :
    w.step e (.carryOut n) = { w with
      state := st, begun := w.begun.set n ⟨rest, none⟩, fired := w.fired ++ [(n, j.id)] } := by
  simp only [step, h, hask]

theorem step_carryOut_error {reason : Error} (h : w.begun[n]? = some ⟨j :: rest, none⟩)
    (hask : e.ask none (.runDeferred j) w.state = (.error reason, st)) :
    w.step e (.carryOut n) = { w with
      state := st, begun := w.begun.set n ⟨rest, some (j.id, reason.message)⟩ } := by
  simp only [step, h, hask]

end

/-! ## A cycle that nothing comes between -/

section

variable {e : Engine} {w : Cycles} {n : Nat}

/-- Carrying out a job is asking for it, and noting it if it fails. -/
theorem run_runJob (report : Engine.Report) (j : DeferredJob) (st : State) :
    (e.runJob report j).run (e.contextFor none) st =
      match e.ask none (.runDeferred j) st with
      | (.ok _, st') => (.ok report.addSuccess, st')
      | (.error reason, st') =>
        match st'.store.recordFailure j.id reason.message with
        | .ok (left, s) => (.ok (report.addFailure left), { st' with store := s })
        | .error e => (.error e, st') := by
  have hcontext : (e.contextFor none).unauthenticated = e.contextFor none := rfl
  simp only [Engine.runJob, Engine.ask, Engine.execute, Command.perform, Action.run_bind,
    Action.run_attempt, Action.run_atomically, Action.run_unauthenticated, Action.run_map, hcontext]
  rcases (j.perform e.equipment.handlers).run (e.contextFor none) st with ⟨reason | _, st'⟩
  · simp only [Except.map, Action.run_map, Action.run_change]
    cases st.store.recordFailure j.id reason.message <;> rfl
  · rfl

/-- A cycle that has nothing left to do. -/
theorem run_idle (h : w.begun[n]? = some ⟨[], none⟩) (k : Nat) :
    w.run e (List.replicate k [.carryOut n, .note n]).flatten = w := by
  induction k with
  | zero => rfl
  | succ k ih =>
    have hstep : (w.step e (.carryOut n)).step e (.note n) = w := by
      simp only [step, h]
    rw [List.replicate_succ, List.flatten_cons, run, List.foldl_append]
    simp only [List.foldl_cons, List.foldl_nil, hstep]
    exact ih

theorem lt_of_begun {cycle : Cycle} (h : w.begun[n]? = some cycle) : n < w.begun.length :=
  (List.getElem?_eq_some_iff.1 h).1

/-- The rest of a cycle that nothing comes between. -/
theorem state_run_jobs {jobs : List DeferredJob} (h : w.begun[n]? = some ⟨jobs, none⟩)
    (report : Engine.Report) :
    (w.run e (List.replicate jobs.length [.carryOut n, .note n]).flatten).state =
      ((e.runJobs report jobs).run (e.contextFor none) w.state).2 := by
  induction jobs generalizing w report with
  | nil => rfl
  | cons j rest ih =>
    have hn (cycle : Cycle) : (w.begun.set n cycle)[n]? = some cycle :=
      List.getElem?_set_self (lt_of_begun h)
    rw [List.length_cons, List.replicate_succ, List.flatten_cons, run, List.foldl_append,
      Engine.runJobs, Action.run_bind, run_runJob]
    simp only [List.foldl_cons, List.foldl_nil]
    rcases hask : e.ask none (.runDeferred j) w.state with ⟨reason | reply, st⟩
    · rw [step_carryOut_error h hask]
      cases hnote : st.store.recordFailure j.id reason.message with
      | ok noted =>
        simp only [step, hn, hnote, List.set_set]
        exact ih (hn _) _
      | error reason' =>
        simp only [step, hn, hnote, List.set_set]
        exact congrArg Cycles.state (run_idle (hn _) _)
    · rw [step_carryOut_ok h hask]
      simp only [step, hn]
      exact ih (hn _) _

/-- **A cycle that nothing comes between is a look for deferred jobs.** -/
theorem run_cycle (e : Engine) (w : Cycles) (now : Int) :
    (w.run e (.acquire now e.settings.batch ::
        (List.replicate (w.state.store.acquire now e.settings.batch).length
          [.carryOut w.begun.length, .note w.begun.length]).flatten)).state =
      ((e.runDueJobs now).run (e.contextFor none) w.state).2 := by
  rw [Engine.runDueJobs, Action.run_consult_bind]
  exact state_run_jobs (w := w.step e (.acquire now e.settings.batch))
    List.getElem?_concat_length _

end

/-! ## What a step can do -/

/-- The deferred jobs that are on the schedule. -/
def scheduled (w : Cycles) : Table DeferredJob := w.state.store.deferredJobs

/-- Nothing is scheduled, taken off the schedule or fired, and of what was taken nothing is added.
This is so when a job fails, when this is noted and when tries are given. -/
structure Quiet (w w' : Cycles) : Prop where
  filed : w.scheduled.Filed (·.id) → w'.scheduled.Filed (·.id)
  scheduled : ∀ id, w'.scheduled.contains id = w.scheduled.contains id
  begun : w'.begun.length = w.begun.length
  pending : ∀ n, (w'.pending n).Sublist (w.pending n)
  used : w'.used = w.used
  fired : w'.fired = w.fired

/-- A cycle has carried out its next job, which is not on the schedule any more. -/
structure Fires (w : Cycles) (n : Nat) (j : DeferredJob) (w' : Cycles) : Prop where
  bound : n < w.begun.length
  taken : w.pending n = j :: w'.pending n
  others : ∀ m ≠ n, w'.pending m = w.pending m
  scheduled : w'.scheduled = w.scheduled.erase j.id
  begun : w'.begun.length = w.begun.length
  used : w'.used = w.used
  fired : w'.fired = w.fired ++ [(n, j.id)]

/-- After a cycle has begun. -/
def took (w : Cycles) (now : Int) (limit : Nat) : Cycles :=
  { w with begun := w.begun ++ [⟨w.state.store.acquire now limit, none⟩] }

/-- After a job was scheduled. -/
def withJob (w : Cycles) (j : DeferredJob) : Cycles :=
  { w with
    state := { w.state with store := w.state.store.putDeferredJob j }
    used := j.id :: w.used }

/-- What a step can do: next to nothing, begin a cycle, fire a job or schedule one. -/
inductive Next (w : Cycles) (move : Move) (w' : Cycles) : Prop where
  | quiet (h : w.Quiet w')
  | took (now : Int) (limit : Nat) (acquires : move = .acquire now limit)
      (result : w' = w.took now limit)
  | fires (n : Nat) (j : DeferredJob) (h : w.Fires n j w')
  | schedules (j : DeferredJob) (unused : j.id ∉ w.used) (result : w' = w.withJob j)

section

variable {w : Cycles} {n : Nat}

theorem pending_of_begun {cycle : Cycle} (h : w.begun[n]? = some cycle) :
    w.pending n = cycle.pending := by
  rw [pending, h]
  rfl

theorem pending_of_le (h : w.begun.length ≤ n) : w.pending n = [] := by
  rw [pending, List.getElem?_eq_none h]
  rfl

theorem pending_set (st : State) (cycle : Cycle) (fired : List (Nat × String))
    (h : n < w.begun.length) (m : Nat) :
    pending { w with state := st, begun := w.begun.set n cycle, fired := fired } m =
      if m = n then cycle.pending else w.pending m := by
  unfold pending
  dsimp only
  rw [List.getElem?_set]
  by_cases hm : m = n
  · simp [hm, h]
  · simp [hm, Ne.symm hm]

theorem pending_took (w : Cycles) (now : Int) (limit m : Nat) :
    (w.took now limit).pending m =
      if m = w.begun.length then w.state.store.acquire now limit else w.pending m := by
  unfold pending took
  dsimp only
  rcases Nat.lt_trichotomy m w.begun.length with hm | rfl | hm
  · rw [List.getElem?_append_left hm, if_neg (Nat.ne_of_lt hm)]
  · simp
  · have hbound : (w.begun ++ [(⟨w.state.store.acquire now limit, none⟩ : Cycle)]).length ≤ m := by
      rw [List.length_append]
      exact hm
    rw [if_neg (Nat.ne_of_gt hm), List.getElem?_eq_none (Nat.le_of_lt hm),
      List.getElem?_eq_none hbound]

theorem length_took (w : Cycles) (now : Int) (limit : Nat) :
    (w.took now limit).begun.length = w.begun.length + 1 := by
  simp [took]

theorem contains_withJob (w : Cycles) (j : DeferredJob) (id : String) :
    (w.withJob j).scheduled.contains id = (id = j.id || w.scheduled.contains id) := by
  have hinsert : (w.withJob j).scheduled = w.scheduled.insert j.id j := rfl
  rw [hinsert, Table.contains, Table.get?_insert]
  by_cases hid : id = j.id <;> simp [hid, Table.contains]

namespace Fires

variable {w' : Cycles} {j : DeferredJob}

theorem contains (h : w.Fires n j w') (id : String) :
    w'.scheduled.contains id = (w.scheduled.contains id && id ≠ j.id) := by
  rw [h.scheduled, Table.contains, Table.get?_erase]
  by_cases hid : id = j.id <;> simp [hid, Table.contains]

theorem mem (h : w.Fires n j w') : j ∈ w.pending n := h.taken ▸ List.mem_cons_self

theorem pending (h : w.Fires n j w') (m : Nat) : (w'.pending m).Sublist (w.pending m) := by
  by_cases hm : m = n
  · rw [hm, h.taken]
    exact List.sublist_cons_self _ _
  · exact h.others m hm ▸ List.Sublist.refl _

theorem mem_fired (h : w.Fires n j w') {p : Nat × String} :
    p ∈ w'.fired ↔ p ∈ w.fired ∨ p = (n, j.id) := by
  rw [h.fired, List.mem_append, List.mem_singleton]

end Fires

/-- Work on a cycle that keeps the schedule, and takes nothing. -/
theorem Next.of_set {move : Move} {cycle cycle' : Cycle} (st : State)
    (h : w.begun[n]? = some cycle) (hsub : cycle'.pending.Sublist cycle.pending)
    (hfiled : w.scheduled.Filed (·.id) → st.store.deferredJobs.Filed (·.id))
    (hscheduled : ∀ id, st.store.deferredJobs.contains id = w.scheduled.contains id) :
    w.Next move { w with state := st, begun := w.begun.set n cycle' } := by
  refine .quiet ⟨hfiled, hscheduled, List.length_set, fun m => ?_, rfl, rfl⟩
  rw [pending_set st cycle' w.fired (lt_of_begun h)]
  split
  · rename_i hm
    rw [hm, pending_of_begun h]
    exact hsub
  · exact List.Sublist.refl _

end

/-- A step that does nothing. -/
theorem Next.refl (w : Cycles) (move : Move) : w.Next move w :=
  .quiet ⟨id, fun _ => rfl, rfl, fun _ => List.Sublist.refl _, rfl, rfl⟩

end Cycles

/-! ## The schedule -/

namespace Store

variable {s s' : Store}

/-- To note a failure keeps what is scheduled, id by id. -/
theorem recordFailure_related {id reason : String} {left : Nat}
    (h : s.recordFailure id reason = .ok (left, s')) :
    s.deferredJobs.Related (fun i j => j.id = i.id) s'.deferredJobs := by
  obtain ⟨job, hrow, h⟩ := bind_eq_ok.1 h
  cases h
  refine .insert ?_ (row_eq_ok.1 hrow) ?_
  · exact fun _ => rfl
  · rfl

/-- To give tries keeps what is scheduled, id by id. -/
theorem setRetries_related {id : String} {retries : Nat} (h : s.setRetries id retries = .ok s') :
    s.deferredJobs.Related (fun i j => j.id = i.id) s'.deferredJobs := by
  obtain ⟨job, hrow, h⟩ := bind_eq_ok.1 h
  cases h
  refine .insert ?_ (row_eq_ok.1 hrow) ?_
  · exact fun _ => rfl
  · rfl

end Store

namespace Cycles

/-- **What steps do.** -/
theorem next_step (settings : Settings) (w : Cycles) (move : Move) :
    w.Next move (w.step (.standard settings) move) := by
  cases move with
  | acquire now limit => exact .took now limit rfl rfl
  | carryOut n =>
    rw [step]
    split
    · rename_i j rest hbegun
      rcases hask : (Engine.standard settings).ask none (.runDeferred j) w.state with
        ⟨reason | reply, st⟩
      · have hstore := Engine.store_ask_of_error hask
        exact .of_set _ hbegun (List.sublist_cons_self j rest) (fun h => by rwa [hstore])
          (fun id => by rw [hstore]; rfl)
      · obtain ⟨_, hperform, -⟩ := Action.run_map_eq_ok.1 (Engine.perform_of_ask hask)
        have hpending := pending_set (w := w) st ⟨rest, none⟩ (w.fired ++ [(n, j.id)])
          (lt_of_begun hbegun)
        refine .fires n j ⟨lt_of_begun hbegun, ?_, fun m hm => ?_,
          DeferredJob.deferredJobs_of_perform hperform, List.length_set, rfl, rfl⟩
        · rw [hpending, if_pos rfl, pending_of_begun hbegun]
        · rw [hpending, if_neg hm]
    · exact .refl w _
  | note n =>
    rw [step]
    split
    · rename_i rest id reason hbegun
      split
      · rename_i left s hnote
        have hrows := Store.recordFailure_related hnote
        exact .of_set _ hbegun (List.Sublist.refl rest) (hrows.filed fun _ _ h => h) hrows.contains
      · exact .of_set w.state hbegun (List.nil_sublist rest) (fun h => h) (fun _ => rfl)
    · exact .refl w _
  | schedule j =>
    rw [step]
    split
    · exact .refl w _
    · exact .schedules j ‹_› rfl
  | setRetries id retries =>
    rw [step]
    split
    · rename_i s hs
      have hrows := Store.setRetries_related hs
      exact .quiet ⟨hrows.filed fun _ _ h => h, hrows.contains, rfl,
        fun _ => List.Sublist.refl _, rfl, rfl⟩
    · exact .refl w _

/-! ## What every cycle knows -/

/-- What holds whatever the order of the steps. What a cycle has taken it has taken once and not
fired yet, and what was fired is not on the schedule. -/
structure Inv (w : Cycles) : Prop where
  filed : w.scheduled.Filed (·.id)
  used : ∀ id, w.scheduled.contains id → id ∈ w.used
  nodup_pending : ∀ n, ((w.pending n).map (·.id)).Nodup
  pending_used : ∀ n, ∀ j ∈ w.pending n, j.id ∈ w.used
  unfired : ∀ n, ∀ j ∈ w.pending n, (n, j.id) ∉ w.fired
  fired_bound : ∀ p ∈ w.fired, p.1 < w.begun.length
  fired_used : ∀ p ∈ w.fired, p.2 ∈ w.used
  fired_unscheduled : ∀ p ∈ w.fired, w.scheduled.contains p.2 = false
  nodup_fired : w.fired.Nodup

theorem inv_start {st : State} (h : st.store.deferredJobs.Filed (·.id)) : (start st).Inv where
  filed := h
  used _ hid := Table.mem_keys_iff.2 hid
  nodup_pending _ := .nil
  pending_used _ _ hj := absurd hj List.not_mem_nil
  unfired _ _ hj := absurd hj List.not_mem_nil
  fired_bound _ hp := absurd hp List.not_mem_nil
  fired_used _ hp := absurd hp List.not_mem_nil
  fired_unscheduled _ hp := absurd hp List.not_mem_nil
  nodup_fired := .nil

namespace Inv

variable {w w' : Cycles} {move : Move}

theorem quiet (h : w.Inv) (hquiet : w.Quiet w') : w'.Inv where
  filed := hquiet.filed h.filed
  used id hid := hquiet.used ▸ h.used id (hquiet.scheduled id ▸ hid)
  nodup_pending n := (h.nodup_pending n).sublist ((hquiet.pending n).map _)
  pending_used n j hj := hquiet.used ▸ h.pending_used n j ((hquiet.pending n).subset hj)
  unfired n j hj := hquiet.fired ▸ h.unfired n j ((hquiet.pending n).subset hj)
  fired_bound p hp := hquiet.begun ▸ h.fired_bound p (hquiet.fired ▸ hp)
  fired_used p hp := hquiet.used ▸ h.fired_used p (hquiet.fired ▸ hp)
  fired_unscheduled p hp := hquiet.scheduled p.2 ▸ h.fired_unscheduled p (hquiet.fired ▸ hp)
  nodup_fired := hquiet.fired ▸ h.nodup_fired

/-- A job that can be taken is on the schedule, so it is none that was fired. -/
theorem ne_of_mem_acquire (h : w.Inv) {now : Int} {limit : Nat} {j : DeferredJob}
    (hj : j ∈ w.state.store.acquire now limit) {p : Nat × String} (hp : p ∈ w.fired) :
    j.id ≠ p.2 := by
  intro heq
  have hscheduled : w.scheduled.contains j.id = true := Store.contains_of_mem_acquire h.filed hj
  rw [heq, h.fired_unscheduled p hp] at hscheduled
  cases hscheduled

theorem took (h : w.Inv) (now : Int) (limit : Nat) : (w.took now limit).Inv where
  filed := h.filed
  used := h.used
  nodup_pending n := by
    rw [pending_took]
    split
    · exact Store.nodup_acquire h.filed now limit
    · exact h.nodup_pending n
  pending_used n j hj := by
    rw [pending_took] at hj
    split at hj
    · exact h.used _ (Store.contains_of_mem_acquire h.filed hj)
    · exact h.pending_used n j hj
  unfired n j hj hfired := by
    have hn : n ≠ w.begun.length := Nat.ne_of_lt (h.fired_bound _ hfired)
    rw [pending_took, if_neg hn] at hj
    exact h.unfired n j hj hfired
  fired_bound p hp := by
    rw [length_took]
    exact Nat.lt_succ_of_lt (h.fired_bound p hp)
  fired_used := h.fired_used
  fired_unscheduled := h.fired_unscheduled
  nodup_fired := h.nodup_fired

/-- A cycle has taken each job once, so what it has fired it has not left to carry out. -/
theorem fires (h : w.Inv) {n : Nat} {j : DeferredJob} (hfires : w.Fires n j w') : w'.Inv where
  filed := hfires.scheduled ▸ h.filed.erase j.id
  used id hid := by
    rw [hfires.contains, Bool.and_eq_true] at hid
    exact hfires.used ▸ h.used id hid.1
  nodup_pending m := (h.nodup_pending m).sublist ((hfires.pending m).map _)
  pending_used m i hi := hfires.used ▸ h.pending_used m i ((hfires.pending m).subset hi)
  unfired m i hi hfired := by
    rcases hfires.mem_fired.1 hfired with hfired | heq
    · exact h.unfired m i ((hfires.pending m).subset hi) hfired
    · obtain ⟨rfl, hid⟩ := Prod.mk.inj heq
      have hnodup := h.nodup_pending m
      rw [hfires.taken, List.map_cons, List.nodup_cons] at hnodup
      exact hnodup.1 (hid ▸ List.mem_map_of_mem hi)
  fired_bound p hp := by
    rw [hfires.begun]
    rcases hfires.mem_fired.1 hp with hp | rfl
    · exact h.fired_bound p hp
    · exact hfires.bound
  fired_used p hp := by
    rw [hfires.used]
    rcases hfires.mem_fired.1 hp with hp | rfl
    · exact h.fired_used p hp
    · exact h.pending_used n j hfires.mem
  fired_unscheduled p hp := by
    rw [hfires.contains]
    rcases hfires.mem_fired.1 hp with hp | rfl
    · rw [h.fired_unscheduled p hp, Bool.false_and]
    · simp
  nodup_fired := by
    rw [hfires.fired]
    refine List.nodup_append.2 ⟨h.nodup_fired, by simp, fun p hp q hq heq => ?_⟩
    obtain rfl := List.mem_singleton.1 hq
    exact h.unfired n j hfires.mem (heq ▸ hp)

/-- A job under a new id is none that was fired. -/
theorem withJob (h : w.Inv) {j : DeferredJob} (unused : j.id ∉ w.used) : (w.withJob j).Inv where
  filed := h.filed.insert j
  used id hid := by
    rw [contains_withJob, Bool.or_eq_true] at hid
    rcases hid with hid | hid
    · exact of_decide_eq_true hid ▸ List.mem_cons_self
    · exact List.mem_cons_of_mem _ (h.used id hid)
  nodup_pending := h.nodup_pending
  pending_used n i hi := List.mem_cons_of_mem _ (h.pending_used n i hi)
  unfired := h.unfired
  fired_bound := h.fired_bound
  fired_used p hp := List.mem_cons_of_mem _ (h.fired_used p hp)
  fired_unscheduled p hp := by
    have hne : p.2 ≠ j.id := fun heq => unused (heq ▸ h.fired_used p hp)
    rw [contains_withJob, h.fired_unscheduled p hp, decide_eq_false hne, Bool.or_self]
  nodup_fired := h.nodup_fired

theorem next (h : w.Inv) (hnext : w.Next move w') : w'.Inv := by
  cases hnext with
  | quiet hquiet => exact h.quiet hquiet
  | took now limit _ result => exact result ▸ h.took now limit
  | fires n j hfires => exact h.fires hfires
  | schedules j unused result => exact result ▸ h.withJob unused

end Inv

/-! ## After a job was fired -/

/-- What holds later of what was fired earlier: it stays fired, and only cycles that had begun by
then have it left to carry out or fire it. -/
structure After (earlier w : Cycles) : Prop where
  begun : earlier.begun.length ≤ w.begun.length
  fired : ∀ p ∈ earlier.fired, p ∈ w.fired
  pending : ∀ p ∈ earlier.fired, ∀ n, earlier.begun.length ≤ n → ∀ j ∈ w.pending n, j.id ≠ p.2
  again : ∀ p ∈ earlier.fired, ∀ q ∈ w.fired, q.2 = p.2 → q.1 < earlier.begun.length

namespace After

variable {earlier w w' : Cycles} {move : Move}

theorem refl (h : earlier.Inv) : earlier.After earlier where
  begun := Nat.le_refl _
  fired _ hp := hp
  pending p _ n hn j hj := by
    rw [pending_of_le hn] at hj
    exact absurd hj List.not_mem_nil
  again _ _ q hq _ := h.fired_bound q hq

theorem next (h : earlier.After w) (hinv : w.Inv) (hnext : w.Next move w') : earlier.After w' := by
  cases hnext with
  | quiet hquiet =>
    exact {
      begun := hquiet.begun ▸ h.begun
      fired := fun p hp => hquiet.fired ▸ h.fired p hp
      pending := fun p hp n hn j hj => h.pending p hp n hn j ((hquiet.pending n).subset hj)
      again := fun p hp q hq => h.again p hp q (hquiet.fired ▸ hq) }
  | took now limit _ result =>
    subst result
    refine { begun := ?_, fired := h.fired, pending := fun p hp n hn j hj => ?_, again := h.again }
    · rw [length_took]
      exact Nat.le_succ_of_le h.begun
    · rw [pending_took] at hj
      split at hj
      · exact hinv.ne_of_mem_acquire hj (h.fired p hp)
      · exact h.pending p hp n hn j hj
  | fires n j hfires =>
    refine {
      begun := hfires.begun ▸ h.begun
      fired := fun p hp => hfires.mem_fired.2 (.inl (h.fired p hp))
      pending := fun p hp m hm i hi => h.pending p hp m hm i ((hfires.pending m).subset hi)
      again := fun p hp q hq heq => ?_ }
    rcases hfires.mem_fired.1 hq with hq | rfl
    · exact h.again p hp q hq heq
    · exact Nat.lt_of_not_le fun hn => h.pending p hp n hn j hfires.mem heq
  | schedules j unused result =>
    subst result
    exact ⟨h.begun, h.fired, h.pending, h.again⟩

end After

/-! ## Cycles that keep apart -/

/-- The step takes no job that a cycle has taken and not carried out yet. -/
def TakesAlone (w : Cycles) (move : Move) : Prop :=
  ∀ now limit, move = .acquire now limit →
    ∀ j ∈ w.state.store.acquire now limit, ∀ n, ∀ i ∈ w.pending n, i.id ≠ j.id

/-- None of the steps takes a job that a cycle has taken and not carried out yet. -/
def KeepApart (e : Engine) : Cycles → List Move → Prop
  | _, [] => True
  | w, move :: rest => w.TakesAlone move ∧ KeepApart e (w.step e move) rest

/-- Where no cycle has anything left to carry out, whatever is taken is taken alone. -/
theorem takesAlone_of_idle {w : Cycles} (h : ∀ n, w.pending n = []) (move : Move) :
    w.TakesAlone move := by
  intro now limit _ j _ n i hi
  rw [h n] at hi
  exact absurd hi List.not_mem_nil

theorem takesAlone_carryOut (w : Cycles) (n : Nat) : w.TakesAlone (.carryOut n) :=
  fun _ _ h => nomatch h

/-- What holds as long as cycles keep apart: no two of them have a job left to carry out that is the
same, and none has one that was fired. -/
structure Apart (w : Cycles) : Prop where
  pending : ∀ m n, m ≠ n → ∀ i ∈ w.pending m, ∀ j ∈ w.pending n, i.id ≠ j.id
  unfired : ∀ n, ∀ j ∈ w.pending n, j.id ∉ w.fired.map (·.2)
  nodup : (w.fired.map (·.2)).Nodup

namespace Apart

variable {w w' : Cycles} {move : Move}

theorem start (st : State) : (start st).Apart where
  pending _ _ _ _ hi := absurd hi List.not_mem_nil
  unfired _ _ hj := absurd hj List.not_mem_nil
  nodup := .nil

theorem took (h : w.Apart) (hinv : w.Inv) {now : Int} {limit : Nat}
    (halone : ∀ j ∈ w.state.store.acquire now limit, ∀ n, ∀ i ∈ w.pending n, i.id ≠ j.id) :
    (w.took now limit).Apart where
  pending m n hne i hi j hj := by
    rw [pending_took] at hi hj
    split at hi <;> split at hj
    · rename_i hm hn
      exact absurd (hm.trans hn.symm) hne
    · exact (halone i hi n j hj).symm
    · exact halone j hj m i hi
    · exact h.pending m n hne i hi j hj
  unfired n j hj hfired := by
    rw [pending_took] at hj
    split at hj
    · obtain ⟨p, hp, heq⟩ := List.mem_map.1 hfired
      exact hinv.ne_of_mem_acquire hj hp heq.symm
    · exact h.unfired n j hj hfired
  nodup := h.nodup

theorem fires (h : w.Apart) (hinv : w.Inv) {n : Nat} {j : DeferredJob} (hfires : w.Fires n j w') :
    w'.Apart where
  pending m m' hne i hi i' hi' :=
    h.pending m m' hne i ((hfires.pending m).subset hi) i' ((hfires.pending m').subset hi')
  unfired m i hi hfired := by
    rw [hfires.fired, List.map_append, List.mem_append, List.map_singleton,
      List.mem_singleton] at hfired
    have hi' : i ∈ w.pending m := (hfires.pending m).subset hi
    rcases hfired with hfired | heq
    · exact h.unfired m i hi' hfired
    · by_cases hm : m = n
      · -- the cycle has taken the job once
        have hnodup := hinv.nodup_pending n
        have hmem : i.id ∈ (w'.pending n).map (·.id) := List.mem_map_of_mem (hm ▸ hi)
        rw [hfires.taken, List.map_cons, List.nodup_cons] at hnodup
        have hid : i.id = j.id := heq
        exact hnodup.1 (hid ▸ hmem)
      · exact h.pending m n hm i hi' j hfires.mem heq
  nodup := by
    rw [hfires.fired, List.map_append]
    refine List.nodup_append.2 ⟨h.nodup, by simp, fun a ha b hb heq => ?_⟩
    have hb' : b = j.id := List.mem_singleton.1 hb
    rw [heq, hb'] at ha
    exact h.unfired n j hfires.mem ha

theorem next (h : w.Apart) (hinv : w.Inv) (halone : w.TakesAlone move)
    (hnext : w.Next move w') : w'.Apart := by
  cases hnext with
  | quiet hquiet =>
    exact ⟨fun m n hne i hi j hj => h.pending m n hne i ((hquiet.pending m).subset hi) j
        ((hquiet.pending n).subset hj),
      fun n j hj => hquiet.fired ▸ h.unfired n j ((hquiet.pending n).subset hj),
      hquiet.fired ▸ h.nodup⟩
  | took now limit acquires result => exact result ▸ h.took hinv (halone now limit acquires)
  | fires n j hfires => exact h.fires hinv hfires
  | schedules j unused result =>
    subst result
    exact ⟨h.pending, h.unfired, h.nodup⟩

end Apart

/-! ## Any number of steps -/

section

variable (settings : Settings)

theorem inv_run (moves : List Move) {w : Cycles} (h : w.Inv) :
    (w.run (.standard settings) moves).Inv := by
  induction moves generalizing w with
  | nil => exact h
  | cons move rest ih => exact ih (h.next (next_step settings w move))

theorem after_run (moves : List Move) {earlier w : Cycles} (h : earlier.After w) (hinv : w.Inv) :
    earlier.After (w.run (.standard settings) moves) := by
  induction moves generalizing w with
  | nil => exact h
  | cons move rest ih =>
    have hnext := next_step settings w move
    exact ih (h.next hinv hnext) (hinv.next hnext)

theorem apart_run (moves : List Move) {w : Cycles} (h : w.Apart) (hinv : w.Inv)
    (hapart : KeepApart (.standard settings) w moves) :
    (w.run (.standard settings) moves).Apart := by
  induction moves generalizing w with
  | nil => exact h
  | cons move rest ih =>
    have hnext := next_step settings w move
    exact ih (h.next hinv hapart.1 hnext) (hinv.next hnext) hapart.2

end

/-- A job that a request has put on the schedule succeeds whenever it is carried out. -/
theorem ask_runDeferred_done (settings : Settings) {r : Suspension.Request}
    {selector : Suspension.RowSelector} (hselector : r.normalized.selector = .ok selector)
    {job : DeferredJob} (htype : job.handlerType = r.target.handlerType r.state)
    (hconfiguration : job.configuration = (Suspension.Config.ofRequest r.normalized).text)
    (st : State) :
    ∃ st', (Engine.standard settings).ask none (.runDeferred job) st = (.ok .done, st') := by
  rw [Engine.ask_runDeferred settings hselector htype hconfiguration]
  split <;> exact ⟨_, rfl⟩

/-- **Jobs are fired by cycles that are under way.** However many cycles there are over one store
and however their steps fall, while jobs are scheduled under new ids and tries are given, no cycle
fires a job twice. Once a job was fired, it is off the schedule, and only cycles that had begun by
then can fire it again. And as long as no job is taken that another cycle has taken and not carried
out yet, every job is fired at most once. -/
theorem fired_by_cycles_under_way (settings : Settings) (st : State)
    (hfiled : st.store.deferredJobs.Filed (·.id)) (before after : List Move) :
    let e := Engine.standard settings
    let earlier := (start st).run e before
    let later := earlier.run e after
    later.fired.Nodup ∧
    (∀ p ∈ earlier.fired, p ∈ later.fired ∧ later.scheduled.contains p.2 = false ∧
      ∀ q ∈ later.fired, q.2 = p.2 → q.1 < earlier.begun.length) ∧
    (KeepApart e (start st) (before ++ after) → (later.fired.map (·.2)).Nodup) := by
  intro e earlier later
  have hearlier : earlier.Inv := inv_run settings before (inv_start hfiled)
  have hlater : later.Inv := inv_run settings after hearlier
  have hafter : earlier.After later := after_run settings after (.refl hearlier) hearlier
  refine ⟨hlater.nodup_fired, fun p hp => ?_, fun hapart => ?_⟩
  · have hfired := hafter.fired p hp
    exact ⟨hfired, hlater.fired_unscheduled p hfired, hafter.again p hp⟩
  · have hrun : later = (start st).run e (before ++ after) := (List.foldl_append ..).symm
    rw [hrun]
    exact (apart_run settings (before ++ after) (.start st) (inv_start hfiled) hapart).nodup

/-- The suspension of a job is carried out by a cycle, and the next cycle finds nothing to do. -/
theorem cycles_in_turn_fire_once :
    let r : Suspension.Request :=
      { Suspension.Request.new .job .suspended with selectors := { resourceId := some "j" } }
    let change := r.deferredJob "a" 1
    let st : State := ⟨((∅ : Store).putJob (.new "j")).putDeferredJob change, 0⟩
    let e := Engine.standard {}
    let before : List Move := [.acquire 2 3, .carryOut 0]
    let after : List Move := [.acquire 2 3, .carryOut 1]
    let earlier := (start st).run e before
    let later := earlier.run e after
    st.store.deferredJobs.Filed (·.id) ∧ KeepApart e (start st) (before ++ after) ∧
      (0, "a") ∈ earlier.fired ∧ later.scheduled.contains "a" = false ∧
      (later.fired.map (·.2)).Nodup := by
  intro r change st e before after earlier later
  have hfiled : st.store.deferredJobs.Filed (·.id) := Table.Filed.empty.insert change
  have hacquire : st.store.acquire 2 3 = [change] := by cbv
  have hselector : r.normalized.selector = .ok (.id "j") := rfl
  have htext (r : Suspension.Request) : (r.deferredJob "a" 1).configuration =
      (Suspension.Config.ofRequest r.normalized).text := rfl
  obtain ⟨st', hask⟩ : ∃ st', e.ask none (.runDeferred change) st = (.ok .done, st') :=
    ask_runDeferred_done {} hselector rfl (htext r) st
  have hbegun : ((start st).took 2 3).begun[0]? = some ⟨[change], none⟩ := by
    simp [took, start, hacquire]
  have hsteps : earlier = ((start st).took 2 3).step e (.carryOut 0) := rfl
  have hearlier := hsteps.trans (step_carryOut_ok hbegun hask)
  have hnone (n : Nat) : (((start st).took 2 3).step e (.carryOut 0)).pending n = [] := by
    rw [step_carryOut_ok hbegun hask]
    cases n <;> rfl
  have hapart : KeepApart e (start st) (before ++ after) :=
    ⟨takesAlone_of_idle (fun _ => rfl) _, takesAlone_carryOut _ _, takesAlone_of_idle hnone _,
      takesAlone_carryOut _ _, trivial⟩
  have hmem : (0, "a") ∈ earlier.fired := by
    rw [hearlier]
    exact List.mem_cons_self
  obtain ⟨-, hgone, honce⟩ := fired_by_cycles_under_way {} st hfiled before after
  exact ⟨hfiled, hapart, hmem, (hgone _ hmem).2.1, honce hapart⟩

/-! ## Cycles that have taken the same job -/

/-- **Whenever two cycles have taken a job and neither has carried it out, both fire it**, if the job
is one that a request has put on the schedule: nothing keeps the second from making the change
again. -/
theorem fired_by_both (settings : Settings) {w : Cycles} {r : Suspension.Request}
    {selector : Suspension.RowSelector} (hselector : r.normalized.selector = .ok selector)
    {job : DeferredJob} (htype : job.handlerType = r.target.handlerType r.state)
    (hconfiguration : job.configuration = (Suspension.Config.ofRequest r.normalized).text)
    {m n : Nat} (hne : m ≠ n) {rest rest' : List DeferredJob}
    (hm : w.begun[m]? = some ⟨job :: rest, none⟩) (hn : w.begun[n]? = some ⟨job :: rest', none⟩) :
    (w.run (.standard settings) [.carryOut m, .carryOut n]).fired =
      w.fired ++ [(m, job.id), (n, job.id)] := by
  obtain ⟨st₁, hfirst⟩ := ask_runDeferred_done settings hselector htype hconfiguration w.state
  obtain ⟨st₂, hsecond⟩ := ask_runDeferred_done settings hselector htype hconfiguration st₁
  have hn' : (w.begun.set m ⟨rest, none⟩)[n]? = some ⟨job :: rest', none⟩ := by
    rw [List.getElem?_set_ne hne, hn]
  simp only [run, List.foldl_cons, List.foldl_nil]
  rw [step_carryOut_ok hm hfirst, step_carryOut_ok hn' hsecond]
  simp

/-- Both cycles have taken the suspension of a job and its activation; the first carries out both,
then the second carries out the suspension once more, and the job stays suspended. -/
theorem overlapping_cycles_fire_twice :
    let change (id : String) (due : Int) (state : SuspensionState) : DeferredJob :=
      Suspension.Request.deferredJob
        { Suspension.Request.new .job state with selectors := { resourceId := some "j" } } id due
    let store := (((∅ : Store).putJob (.new "j")).putDeferredJob
      (change "a" 1 .suspended)).putDeferredJob (change "b" 2 .active)
    let overlapping := (start ⟨store, 0⟩).run (.standard {})
      [.acquire 2 3, .acquire 2 3, .carryOut 0, .carryOut 0, .carryOut 1]
    overlapping.fired = [(0, "a"), (0, "b"), (1, "a")] ∧
      ¬ (overlapping.fired.map (·.2)).Nodup ∧
      overlapping.state.store.jobs.rows.map (·.state) = [.suspended] := by
  intro change store overlapping
  have hrun : (overlapping.fired, overlapping.state.store.jobs.rows.map (·.state)) =
      ([(0, "a"), (0, "b"), (1, "a")], [.suspended]) := by
    dsimp only [overlapping, store, change]
    cbv
  obtain ⟨hfired, hstates⟩ := Prod.mk.inj hrun
  refine ⟨hfired, ?_, hstates⟩
  rw [hfired]
  decide

end Cycles

end Workflow
