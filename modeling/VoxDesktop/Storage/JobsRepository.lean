import Mathlib.Data.List.Sort
import VoxDesktop.Qt.Text

/-!
# The table of jobs

`SqlJobsRepository` over the rows of `jobs`.  The job id is assigned by the
database, which never gives an id twice.  Whether a statement executes is an
argument.
-/

namespace VoxDesktop
namespace Storage

open Qt

structure JobRecord where
  jobId : ℤ
  type : QString
  payloadCiphertext : QByteArray
  state : QString
  attemptCount : ℤ
  nextAttemptMs : ℤ

/-- The rows and the last id that was given. -/
structure JobTable where
  rows : List JobRecord
  sequence : ℤ

namespace JobsRepository

def enqueueJob
    (table : JobTable) (type : QString) (payloadCiphertext : QByteArray)
    (nextAttemptMs : ℤ) (executed : Bool) : Bool × JobTable :=
  if executed then
    let job : JobRecord :=
      { jobId := table.sequence + 1
        type := type
        payloadCiphertext := payloadCiphertext
        state := QString.literal "queued"
        attemptCount := 0
        nextAttemptMs := nextAttemptMs }
    (true, ⟨table.rows ++ [job], table.sequence + 1⟩)
  else (false, table)

/-- `WHERE next_attempt_ms <= ? AND state != 'done' ORDER BY next_attempt_ms`;
the sorter keeps equal rows in the order of the table. -/
def dueJobs (table : JobTable) (nowMs : ℤ) (executed : Bool) :
    List JobRecord :=
  if executed then
    (table.rows.filter fun job =>
        job.nextAttemptMs ≤ nowMs ∧ job.state ≠ QString.literal "done")
      |>.insertionSort fun first second =>
        first.nextAttemptMs ≤ second.nextAttemptMs
  else []

/-- The row of a job after an attempt. -/
def attempted (success : Bool) (nextAttemptMs : ℤ) (job : JobRecord) :
    JobRecord :=
  { job with
    state :=
      if success then QString.literal "done" else QString.literal "queued"
    attemptCount := job.attemptCount + 1
    nextAttemptMs := nextAttemptMs }

def markAttempt
    (table : JobTable) (jobId : ℤ) (success : Bool) (nextAttemptMs : ℤ)
    (executed : Bool) : Bool × JobTable :=
  if executed then
    (true,
      { table with
        rows := table.rows.map fun job =>
          if job.jobId = jobId then attempted success nextAttemptMs job
          else job })
  else (false, table)

end JobsRepository
end Storage
end VoxDesktop
