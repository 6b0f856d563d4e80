import VoxDesktop.Library.Machine
import VoxDesktop.Storage.JobsRepository

/-!
# Attempts of jobs

`markAttempt` writes the state of a job whatever it was, so a late report of a
failed attempt queues a job again that is done.  A job that is done stays out
of the due jobs exactly as long as no such report follows.
-/

namespace VoxDesktop
namespace Storage
namespace JobsRepository

open Qt Library

/-- A call on the table, with whether its statement executes. -/
inductive JobEvent
  | enqueueJob (type : QString) (payloadCiphertext : QByteArray)
      (nextAttemptMs : ℤ) (executed : Bool)
  | markAttempt (jobId : ℤ) (success : Bool) (nextAttemptMs : ℤ)
      (executed : Bool)

def jobStep (table : JobTable) : JobEvent → Bool × JobTable
  | .enqueueJob type payloadCiphertext nextAttemptMs executed =>
      enqueueJob table type payloadCiphertext nextAttemptMs executed
  | .markAttempt jobId success nextAttemptMs executed =>
      markAttempt table jobId success nextAttemptMs executed

/-- A table to which no job was added. -/
def noJobs : JobTable := ⟨[], 0⟩

/-- The event reports a failed attempt of the job. -/
def JobEvent.ReportsFailure (jobId : ℤ) : JobEvent → Prop
  | enqueueJob _ _ _ _ => False
  | markAttempt reported success _ executed =>
      reported = jobId ∧ success = false ∧ executed = true

/-- The job is in the table. -/
def HasJob (table : JobTable) (jobId : ℤ) : Prop :=
  ∃ job ∈ table.rows, job.jobId = jobId

/-- Ids in the table were given by its sequence. -/
def Numbered (table : JobTable) : Prop :=
  ∀ job ∈ table.rows, job.jobId ≤ table.sequence

/-- Every row of the job is done. -/
def Done (jobId : ℤ) (table : JobTable) : Prop :=
  ∀ job ∈ table.rows, job.jobId = jobId →
    job.state = QString.literal "done"

/-! ## One call -/

section Calls

variable {table : JobTable} {jobId : ℤ}

/-- The rows after an attempt are those before, with those of the job
changed. -/
theorem mem_rows_markAttempt
    {reported : ℤ} {success : Bool} {nextAttemptMs : ℤ} {after : JobRecord} :
    after ∈ (markAttempt table reported success nextAttemptMs
        true).2.rows ↔
      ∃ job ∈ table.rows,
        after =
          if job.jobId = reported then attempted success nextAttemptMs job
          else job := by
  simp [markAttempt, eq_comm]

/-- A call keeps ids, adds only a new one, and leaves the table numbered. -/
theorem jobStep_numbered
    (table : JobTable) (event : JobEvent) (numbered : Numbered table) :
    Numbered (jobStep table event).2 := by
  cases event with
  | enqueueJob type payloadCiphertext nextAttemptMs executed =>
      cases executed with
      | false => exact numbered
      | true =>
          intro job within
          rcases List.mem_append.mp within with within | within
          · have bounded := numbered job within
            change job.jobId ≤ table.sequence + 1
            omega
          · rw [List.mem_singleton.mp within]
            exact le_rfl
  | markAttempt reported success nextAttemptMs executed =>
      cases executed with
      | false => exact numbered
      | true =>
          intro after within
          obtain ⟨job, before, rfl⟩ := mem_rows_markAttempt.mp within
          split <;> exact numbered job before

theorem jobStep_hasJob
    (event : JobEvent) (present : HasJob table jobId) :
    HasJob (jobStep table event).2 jobId := by
  obtain ⟨job, within, rfl⟩ := present
  cases event with
  | enqueueJob type payloadCiphertext nextAttemptMs executed =>
      cases executed with
      | false => exact ⟨job, within, rfl⟩
      | true => exact ⟨job, List.mem_append_left _ within, rfl⟩
  | markAttempt reported success nextAttemptMs executed =>
      cases executed with
      | false => exact ⟨job, within, rfl⟩
      | true =>
          refine ⟨_, mem_rows_markAttempt.mpr ⟨job, within, rfl⟩, ?_⟩
          split <;> rfl

/-- A job that is there and done stays done, unless a failed attempt of it is
reported. -/
theorem jobStep_done
    {event : JobEvent}
    (numbered : Numbered table)
    (present : HasJob table jobId)
    (done : Done jobId table)
    (allowed : ¬event.ReportsFailure jobId) :
    Done jobId (jobStep table event).2 := by
  cases event with
  | enqueueJob type payloadCiphertext nextAttemptMs executed =>
      cases executed with
      | false => exact done
      | true =>
          intro job within same
          rcases List.mem_append.mp within with within | within
          · exact done job within same
          · obtain ⟨known, knownWithin, rfl⟩ := present
            have bounded := numbered known knownWithin
            rw [List.mem_singleton.mp within] at same
            dsimp only at same
            omega
  | markAttempt reported success nextAttemptMs executed =>
      cases executed with
      | false => exact done
      | true =>
          intro after within same
          obtain ⟨job, before, rfl⟩ := mem_rows_markAttempt.mp within
          split at same
          · rename_i isReported
            rw [if_pos isReported]
            cases success with
            | true => rfl
            | false =>
                exact absurd ⟨isReported.symm.trans same, rfl, rfl⟩ allowed
          · rename_i notReported
            rw [if_neg notReported]
            exact done job before same

/-- A job reported as done is done. -/
theorem done_markAttempt (nextAttemptMs : ℤ) :
    Done jobId (markAttempt table jobId true nextAttemptMs true).2 := by
  intro after within same
  obtain ⟨job, _, rfl⟩ := mem_rows_markAttempt.mp within
  split at same
  · rename_i isReported
    rw [if_pos isReported]
    rfl
  · rename_i notReported
    exact absurd same notReported

/-- A job that is done is never due. -/
theorem Done.not_due
    (done : Done jobId table) (nowMs : ℤ) :
    ∀ job ∈ dueJobs table nowMs true, job.jobId ≠ jobId := by
  intro job within same
  simp only [dueJobs, if_true, List.mem_insertionSort, List.mem_filter,
    decide_eq_true_eq] at within
  exact within.2.2 (done job within.1 same)

/-- After a failed attempt a job is due once its next attempt is. -/
theorem due_of_reportsFailure
    {event : JobEvent}
    (present : HasJob table jobId)
    (reports : event.ReportsFailure jobId) :
    ∃ nowMs, ∃ job ∈ dueJobs (jobStep table event).2 nowMs true,
      job.jobId = jobId := by
  obtain ⟨job, within, same⟩ := present
  cases event with
  | enqueueJob type payloadCiphertext nextAttemptMs executed =>
      exact reports.elim
  | markAttempt reported success nextAttemptMs executed =>
      obtain ⟨rfl, rfl, rfl⟩ := reports
      refine ⟨nextAttemptMs, attempted false nextAttemptMs job, ?_, same⟩
      simp only [dueJobs, if_true, List.mem_insertionSort, List.mem_filter,
        decide_eq_true_eq]
      refine ⟨mem_rows_markAttempt.mpr ⟨job, within, (if_pos same).symm⟩,
        le_rfl, ?_⟩
      change QString.literal "queued" ≠ QString.literal "done"
      decide

end Calls

/-! ## Runs -/

theorem run_numbered (events : List JobEvent) :
    Numbered (Machine.run jobStep noJobs events) :=
  Machine.run_invariant Numbered jobStep_numbered
    (fun _ within => absurd within List.not_mem_nil) events

section Kept

variable {table : JobTable} {jobId : ℤ}

theorem run_hasJob
    (present : HasJob table jobId) (events : List JobEvent) :
    HasJob (Machine.run jobStep table events) jobId :=
  Machine.run_invariant (fun table => HasJob table jobId)
    (fun _ event => jobStep_hasJob event) present events

/-- A job stays done through calls none of which reports a failed attempt of
it. -/
theorem run_done
    (numbered : Numbered table)
    (present : HasJob table jobId)
    (done : Done jobId table)
    {events : List JobEvent}
    (allowed : ∀ event ∈ events, ¬event.ReportsFailure jobId) :
    Done jobId (Machine.run jobStep table events) := by
  have kept := Machine.run_invariant_of_eachStep
    (fun table => Numbered table ∧ HasJob table jobId ∧ Done jobId table)
    (fun _ event => ¬event.ReportsFailure jobId)
    (fun table event holds allowedHere =>
      ⟨jobStep_numbered table event holds.1,
        jobStep_hasJob event holds.2.1,
        jobStep_done holds.1 holds.2.1 holds.2.2 allowedHere⟩)
    ⟨numbered, present, done⟩
    (Machine.eachStep_of_forall jobStep
      (fun event within _ => allowed event within) table)
  exact kept.2.2

end Kept

/-- In any run of calls on a new table, a job that was there and was reported
as done is never due again, at any time in any later state, if and only if no
failed attempt of it is reported later. -/
theorem done_job_never_due_iff
    (earlier later : List JobEvent)
    (jobId nextAttemptMs : ℤ)
    (executed : Bool)
    (present : HasJob (Machine.run jobStep noJobs earlier) jobId)
    (returned :
      (markAttempt (Machine.run jobStep noJobs earlier) jobId true
        nextAttemptMs executed).1 = true) :
    let marked : JobEvent :=
      .markAttempt jobId true nextAttemptMs executed
    (∀ between rest, later = between ++ rest →
      ∀ nowMs,
        ∀ job ∈ dueJobs
          (Machine.run jobStep noJobs (earlier ++ marked :: between)) nowMs
          true, job.jobId ≠ jobId) ↔
      ∀ event ∈ later, ¬event.ReportsFailure jobId := by
  intro marked
  cases executed with
  | false => contradiction
  | true =>
      let table := (jobStep (Machine.run jobStep noJobs earlier) marked).2
      have start : ∀ between,
          Machine.run jobStep noJobs (earlier ++ marked :: between) =
            Machine.run jobStep table between := by
        intro between
        rw [Machine.run_append, Machine.run_cons]
      have presentAfter : HasJob table jobId := jobStep_hasJob marked present
      constructor
      · intro never event within reports
        obtain ⟨before, after, split⟩ := List.append_of_mem within
        obtain ⟨nowMs, job, due, same⟩ :=
          due_of_reportsFailure (run_hasJob presentAfter before) reports
        refine never (before ++ [event]) after (by simp [split]) nowMs job ?_
          same
        rw [start, Machine.run_append]
        exact due
      · rintro allowed between rest rfl nowMs
        have done : Done jobId (Machine.run jobStep table between) :=
          run_done (jobStep_numbered _ marked (run_numbered earlier))
            presentAfter (done_markAttempt nextAttemptMs)
            fun event within =>
              allowed event (List.mem_append_left rest within)
        rw [start]
        exact done.not_due nowMs

section Examples

/-- Queueing a message. -/
def enqueueMessage : JobEvent :=
  .enqueueJob (QString.literal "send_message") [1] 0 true

/-- A failed attempt of the first of two jobs, then one that works: later only
the other job is due. -/
theorem done_job_never_due_second_attempt :
    let due := dueJobs
      (Machine.run jobStep noJobs
        [enqueueMessage, enqueueMessage, .markAttempt 1 false 5 true,
          .markAttempt 1 true 9 true]) 100 true
    due.length = 1 ∧ 1 ∉ due.map JobRecord.jobId := by
  intro due
  have never : ∀ job ∈ due, job.jobId ≠ 1 :=
    (done_job_never_due_iff
      [enqueueMessage, enqueueMessage, .markAttempt 1 false 5 true] [] 1 9
      true ⟨_, List.mem_cons_self, rfl⟩ rfl).mpr (by simp) [] [] rfl 100
  refine ⟨by decide +kernel, fun within => ?_⟩
  obtain ⟨job, found, isFirst⟩ := List.mem_map.mp within
  exact never job found isFirst

/-- The failure of an earlier attempt is reported after the job is done, and
the job is due again. -/
theorem done_job_due_after_late_report :
    let events : List JobEvent :=
      [enqueueMessage, .markAttempt 1 true 0 true,
        .markAttempt 1 false 5 true]
    (dueJobs (Machine.run jobStep noJobs (events.take 2)) 5 true).map
        JobRecord.jobId = [] ∧
      (dueJobs (Machine.run jobStep noJobs events) 5 true).map
        JobRecord.jobId = [1] := by
  decide +kernel

end Examples

end JobsRepository
end Storage
end VoxDesktop
