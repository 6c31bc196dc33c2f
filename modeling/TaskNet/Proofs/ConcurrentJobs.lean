import Mathlib.Logic.Relation
import TaskNet.Generation

/-!
# Jobs that run at the same time

Jobs that run at the same time share a log: each of them gives its warnings one after the other, and
then it puts its unit in its own place. Between two steps of a job any number of steps of other jobs
may happen. Still the units that are collected at the end are those of the jobs in their order, and
the log has the warnings of all jobs, in an order that may differ from run to run.
-/

namespace TaskNet

/-! ### Steps -/

/-- A job under way. -/
structure Worker where
  /-- What is to be rendered. -/
  job : Job
  /-- The warnings that the job has still to give. -/
  pending : List Warning
  /-- The unit, once the job has finished. -/
  result? : Option ProgramUnit := none

/-- Jobs under way at the same time, each in its own place. -/
structure Workshop where
  /-- The workers, in the order of the jobs. -/
  workers : List Worker
  /-- The warnings that have been given so far. -/
  log : List Warning := []

namespace Workshop

variable (reading : Reading)

/-- All jobs have been handed out and none has done anything. -/
def start (jobs : List Job) : Workshop where
  workers := jobs.map fun job => { job, pending := (job.run reading).emission.warnings }

/-- One of the jobs gives its next warning, or it has none left and finishes. -/
inductive Step : Workshop → Workshop → Prop
  | warn (before after : List Worker) (job : Job) (warning : Warning) (pending log : List Warning) :
      Step ⟨before ++ ⟨job, warning :: pending, none⟩ :: after, log⟩
        ⟨before ++ ⟨job, pending, none⟩ :: after, log ++ [warning]⟩
  | finish (before after : List Worker) (job : Job) (log : List Warning) :
      Step ⟨before ++ ⟨job, [], none⟩ :: after, log⟩
        ⟨before ++ ⟨job, [], some (job.run reading)⟩ :: after, log⟩

/-- Jobs take steps in any order. -/
abbrev Run : Workshop → Workshop → Prop := Relation.ReflTransGen (Step reading)

/-- All jobs have finished, and these are their units, place by place. -/
def Collects (shop : Workshop) (units : List ProgramUnit) : Prop :=
  shop.workers.map (·.result?) = units.map some

/-- The warnings that are still to be given. -/
def pending (shop : Workshop) : List Warning := shop.workers.flatMap (·.pending)

/-- The steps that are still to be taken: one for each warning and one for each unit. -/
def remaining (shop : Workshop) : Nat :=
  shop.pending.length + shop.workers.countP (·.result?.isNone)

/-! ### What all steps keep -/

/-- What holds of jobs under way: they keep their places, a unit is what its job renders, with no
warning left to give, and every warning of every job is given or still to be given. -/
structure Renders (jobs : List Job) (shop : Workshop) : Prop where
  places : shop.workers.map (·.job) = jobs
  result : ∀ worker ∈ shop.workers, ∀ unit ∈ worker.result?,
    unit = worker.job.run reading ∧ worker.pending = []
  warnings : (shop.log ++ shop.pending).Perm
    (jobs.flatMap fun job => (job.run reading).emission.warnings)

theorem renders_start (jobs : List Job) : Renders reading jobs (start reading jobs) where
  places := by
    rw [start, List.map_map]
    exact List.map_id jobs
  result worker hworker unit hunit := by
    obtain ⟨job, -, rfl⟩ := List.mem_map.1 hworker
    cases hunit
  warnings := by
    rw [start, pending, List.nil_append, List.flatMap_map]

variable {reading} {jobs : List Job} {shop shop' : Workshop}

theorem Renders.step (h : Renders reading jobs shop) (hstep : Step reading shop shop') :
    Renders reading jobs shop' := by
  obtain ⟨hplaces, hresult, hwarnings⟩ := h
  cases hstep with
  | warn before after job warning pending log =>
    refine ⟨?_, fun worker hworker unit hunit => ?_, ?_⟩
    · simpa using hplaces
    · obtain hbefore | hself | hafter := by simpa using hworker
      · exact hresult worker (by simp [hbefore]) unit hunit
      · rw [hself] at hunit
        cases hunit
      · exact hresult worker (by simp [hafter]) unit hunit
    · refine List.Perm.trans ?_ hwarnings
      simp only [Workshop.pending, List.flatMap_append, List.flatMap_cons, List.append_assoc,
        List.cons_append, List.nil_append]
      exact (List.perm_middle).symm.append_left log
  | finish before after job log =>
    refine ⟨?_, fun worker hworker unit hunit => ?_, ?_⟩
    · simpa using hplaces
    · obtain hbefore | hself | hafter := by simpa using hworker
      · exact hresult worker (by simp [hbefore]) unit hunit
      · rw [hself] at hunit ⊢
        exact ⟨(Option.some.inj hunit).symm, rfl⟩
      · exact hresult worker (by simp [hafter]) unit hunit
    · simpa [Workshop.pending] using hwarnings

theorem Renders.run (h : Renders reading jobs shop) (hrun : Run reading shop shop') :
    Renders reading jobs shop' := by
  induction hrun with
  | refl => exact h
  | tail _ hstep ih => exact ih.step hstep

/-- Where units are put, they are those of the jobs, place by place. -/
theorem Renders.collects_iff (h : Renders reading jobs shop) {units : List ProgramUnit} :
    shop.Collects units ↔
      units = jobs.map (·.run reading) ∧ ∀ worker ∈ shop.workers, worker.result? ≠ none := by
  have hresults (hall : ∀ worker ∈ shop.workers, worker.result? ≠ none) :
      shop.workers.map (·.result?) = (jobs.map (·.run reading)).map some := by
    rw [← h.places, List.map_map, List.map_map]
    refine List.map_congr_left fun worker hworker => ?_
    obtain ⟨unit, hunit⟩ := Option.ne_none_iff_exists'.1 (hall worker hworker)
    rw [hunit, (h.result worker hworker unit hunit).1]
    rfl
  constructor
  · intro hunits
    have hall : ∀ worker ∈ shop.workers, worker.result? ≠ none := by
      intro worker hworker hnone
      have hmem : worker.result? ∈ units.map some := hunits ▸ List.mem_map_of_mem hworker
      rw [hnone] at hmem
      obtain ⟨unit, -, hunit⟩ := List.mem_map.1 hmem
      cases hunit
    have hsame := hunits.symm.trans (hresults hall)
    exact ⟨(List.map_inj_right fun _ _ => Option.some.inj).1 hsame, hall⟩
  · rintro ⟨rfl, hall⟩
    exact hresults hall

/-- Whatever the order of the steps, all warnings have been given in the end. -/
theorem Renders.log_perm (h : Renders reading jobs shop) {units : List ProgramUnit}
    (hunits : shop.Collects units) :
    shop.log.Perm (jobs.flatMap fun job => (job.run reading).emission.warnings) := by
  have hall := (h.collects_iff.1 hunits).2
  have hpending : shop.pending = [] := by
    refine List.flatMap_eq_nil_iff.2 fun worker hworker => ?_
    obtain ⟨unit, hunit⟩ := Option.ne_none_iff_exists'.1 (hall worker hworker)
    exact (h.result worker hworker unit hunit).2
  have hwarnings := h.warnings
  rwa [hpending, List.append_nil] at hwarnings

/-! ### All jobs finish -/

/-- Every step is one of those that remain to be taken, so no run goes on for ever. -/
theorem remaining_step (hstep : Step reading shop shop') : shop'.remaining < shop.remaining := by
  cases hstep with
  | warn before after job warning pending log => simp [remaining, Workshop.pending]
  | finish before after job log => simp [remaining, Workshop.pending]

/-- As long as a job has not finished, a step can be taken. -/
theorem exists_step (reading : Reading) {worker : Worker} (hworker : worker ∈ shop.workers)
    (hnone : worker.result? = none) : ∃ shop', Step reading shop shop' := by
  obtain ⟨workers, log⟩ := shop
  obtain ⟨before, after, rfl⟩ := List.append_of_mem hworker
  obtain ⟨job, pending, result?⟩ := worker
  obtain rfl : result? = none := hnone
  cases pending with
  | nil => exact ⟨_, .finish before after job log⟩
  | cons warning pending => exact ⟨_, .warn before after job warning pending log⟩

/-- However the jobs went on so far, they can go on until all have finished. -/
theorem Renders.exists_collects (h : Renders reading jobs shop) :
    ∃ shop', Run reading shop shop' ∧ shop'.Collects (jobs.map (·.run reading)) := by
  induction hremaining : shop.remaining using Nat.strongRecOn generalizing shop with
  | _ count ih =>
    by_cases hopen : ∃ worker ∈ shop.workers, worker.result? = none
    · obtain ⟨worker, hworker, hnone⟩ := hopen
      obtain ⟨next, hstep⟩ := exists_step reading hworker hnone
      obtain ⟨shop', hrun, hunits⟩ := ih _ (hremaining ▸ remaining_step hstep) (h.step hstep) rfl
      exact ⟨shop', .head hstep hrun, hunits⟩
    · have hall : ∀ worker ∈ shop.workers, worker.result? ≠ none :=
        fun worker hworker hnone => hopen ⟨worker, hworker, hnone⟩
      exact ⟨shop, .refl, h.collects_iff.2 ⟨rfl, hall⟩⟩

end Workshop

end TaskNet
