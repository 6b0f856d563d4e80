import VoxDesktop.Qt.ReferenceJson
import VoxDesktop.Services.MessageSendService

/-!
# What a send reports and queues

Both ways of sending as one kind of call: the request a call makes, whether
the server accepts its envelope, whether its message is stored and its job is
queued, and what is read off the returned value and off the job.
-/

namespace VoxDesktop
namespace Services

open Library Qt Domain Network Storage MessageSendService

inductive SendCall
  | sendCiphertext (conversationId deviceId ciphertext : QString)
      (envelopeType : ℤ)
  | sendMessage (conversationId deviceId plaintext ciphertext : QString)
      (envelopeType : ℤ)

namespace SendCall

/-- The request on the wire, if one is made, the returned value and the
tables after the call. -/
def perform
    (json : QJsonDocument) (network : NetworkAccess) (tables : Tables)
    (outcome : SendOutcome) : SendCall → Option HttpRequest × Bool × Tables
  | sendCiphertext conversationId deviceId ciphertext envelopeType =>
      MessageSendService.sendCiphertext json tables conversationId deviceId
        ciphertext network envelopeType outcome
  | sendMessage conversationId deviceId plaintext ciphertext envelopeType =>
      MessageSendService.sendMessage json tables conversationId deviceId
        ciphertext network plaintext envelopeType outcome

/-- The envelope of a call. -/
def request (envelopeId : QString) : SendCall → SendEnvelopeRequest
  | sendCiphertext conversationId deviceId ciphertext envelopeType
  | sendMessage conversationId deviceId _ ciphertext envelopeType =>
      { deviceId := deviceId
        conversationId := conversationId
        ciphertext := ciphertext
        envelopeId := envelopeId
        envelopeType := envelopeType }

/-- What is kept of the plaintext in the stored message. -/
def plaintextCache : SendCall → QByteArray
  | sendCiphertext _ _ _ _ => []
  | sendMessage _ _ plaintext _ _ => toUtf8 plaintext

/-- No text that the call needs is empty. -/
def Complete : SendCall → Prop
  | sendCiphertext conversationId deviceId ciphertext _ =>
      conversationId ≠ [] ∧ deviceId ≠ [] ∧ ciphertext ≠ []
  | sendMessage conversationId deviceId plaintext ciphertext _ =>
      plaintext ≠ [] ∧ conversationId ≠ [] ∧ deviceId ≠ [] ∧ ciphertext ≠ []

instance : DecidablePred Complete
  | sendCiphertext _ _ _ _ => inferInstanceAs (Decidable (_ ∧ _))
  | sendMessage _ _ _ _ _ => inferInstanceAs (Decidable (_ ∧ _))

section Perform

variable {json : QJsonDocument} {network : NetworkAccess} {tables : Tables}
  {outcome : SendOutcome} {call : SendCall}

theorem perform_of_not_complete (incomplete : ¬call.Complete) :
    call.perform json network tables outcome = (none, false, tables) := by
  cases call with
  | sendCiphertext conversationId deviceId ciphertext envelopeType =>
      rw [perform, MessageSendService.sendCiphertext, if_pos]
      rw [Complete] at incomplete
      tauto
  | sendMessage conversationId deviceId plaintext ciphertext envelopeType =>
      rw [perform, MessageSendService.sendMessage]
      rw [Complete] at incomplete
      split
      · rfl
      · rw [if_pos]
        tauto

theorem perform_of_complete (complete : call.Complete) :
    let request := call.request outcome.envelopeId
    call.perform json network tables outcome =
      (some (ConversationsApi.sendEnvelopeRequest json network request),
        sendAndStore json tables request.conversationId request.deviceId
          request.ciphertext call.plaintextCache outcome) := by
  cases call with
  | sendCiphertext conversationId deviceId ciphertext envelopeType =>
      obtain ⟨conversation, device, text⟩ := complete
      simp only [perform, MessageSendService.sendCiphertext, conversation,
        device, text, or_self, if_false]
      rfl
  | sendMessage conversationId deviceId plaintext ciphertext envelopeType =>
      obtain ⟨plain, conversation, device, text⟩ := complete
      simp only [perform, MessageSendService.sendMessage, plain, conversation,
        device, text, or_self, if_false]
      rfl

end Perform

/-! ## What became of a call -/

section Outcomes

variable (json : QJsonDocument) (network : NetworkAccess) (tables : Tables)
  (outcome : SendOutcome) (call : SendCall)

/-- A request is made, and its response is taken for an acceptance. -/
def Accepted : Prop :=
  (call.perform json network tables outcome).1 ≠ none ∧
    (ConversationsApi.sendEnvelope json outcome.response).ok = true

/-- The call adds this job. -/
def Queues (job : JobRecord) : Prop :=
  (call.perform json network tables outcome).2.2.jobs.rows =
    tables.jobs.rows ++ [job]

def Queued : Prop := ∃ job, call.Queues json network tables outcome job

/-- A request is made, and the statement that stores its message executes. -/
def Stored : Prop :=
  (call.perform json network tables outcome).1 ≠ none ∧
    outcome.upserted = true

/-- The value returned, as a caller that may send again understands it. -/
def ReportsFaithfully : Prop :=
  ((call.perform json network tables outcome).2.1 = true ↔
    call.Stored json network tables outcome ∧
      (call.Accepted json network tables outcome ∨
        call.Queued json network tables outcome)) ∧
  ((call.perform json network tables outcome).2.1 = false →
    ¬call.Accepted json network tables outcome ∧
      ¬call.Queued json network tables outcome)

end Outcomes

section Perform

variable {json : QJsonDocument} {network : NetworkAccess} {tables : Tables}
  {outcome : SendOutcome} {call : SendCall}

theorem perform_request_ne_none :
    (call.perform json network tables outcome).1 ≠ none ↔ call.Complete := by
  by_cases complete : call.Complete
  · simp [perform_of_complete complete, complete]
  · simp [perform_of_not_complete complete, complete]

theorem accepted_iff :
    call.Accepted json network tables outcome ↔
      call.Complete ∧
        (ConversationsApi.sendEnvelope json outcome.response).ok = true := by
  rw [Accepted, perform_request_ne_none]

/-- A job is queued for a call that the server has not accepted, when the
statement that adds it executes. -/
theorem queues_iff {job : JobRecord} :
    call.Queues json network tables outcome job ↔
      call.Complete ∧
        (ConversationsApi.sendEnvelope json outcome.response).ok = false ∧
        outcome.enqueued = true ∧
        job =
          { jobId := tables.jobs.sequence + 1
            type := QString.literal "send_message"
            payloadCiphertext :=
              toUtf8 (call.request outcome.envelopeId).ciphertext
            state := QString.literal "queued"
            attemptCount := 0
            nextAttemptMs := outcome.queuedMSecs + kMessageRetryDelayMs } := by
  rw [Queues]
  by_cases complete : call.Complete
  · rw [perform_of_complete complete, sendAndStore]
    cases (ConversationsApi.sendEnvelope json outcome.response).ok with
    | true => simp
    | false =>
        cases outcome.enqueued with
        | false => simp [JobsRepository.enqueueJob]
        | true => simp [JobsRepository.enqueueJob, complete, eq_comm]
  · simp [perform_of_not_complete complete, complete]

theorem queued_iff :
    call.Queued json network tables outcome ↔
      call.Complete ∧
        (ConversationsApi.sendEnvelope json outcome.response).ok = false ∧
        outcome.enqueued = true := by
  simp only [Queued, queues_iff, exists_and_left, exists_eq, and_true]

/-- The value a call returns. -/
theorem perform_returns :
    (call.perform json network tables outcome).2.1 = true ↔
      call.Complete ∧ outcome.upserted = true ∧
        ((ConversationsApi.sendEnvelope json outcome.response).ok = true ∨
          outcome.enqueued = true) := by
  by_cases complete : call.Complete
  · rw [perform_of_complete complete, sendAndStore]
    cases (ConversationsApi.sendEnvelope json outcome.response).ok <;>
      cases outcome.upserted <;> cases outcome.enqueued <;>
        simp [MessagesRepository.upsertMessage, JobsRepository.enqueueJob,
          complete]
  · simp [perform_of_not_complete complete, complete]

end Perform
end SendCall

/-! ## The results -/

/-- A call reports faithfully exactly when its message is stored if its
envelope is accepted or queued. -/
theorem send_reports_faithfully_iff
    (json : QJsonDocument) (network : NetworkAccess) (tables : Tables)
    (outcome : SendOutcome) (call : SendCall) :
    call.ReportsFaithfully json network tables outcome ↔
      (call.Complete →
        (ConversationsApi.sendEnvelope json outcome.response).ok = true ∨
            outcome.enqueued = true →
          outcome.upserted = true) := by
  rw [SendCall.ReportsFaithfully, ← Bool.not_eq_true,
    SendCall.perform_returns, SendCall.Stored,
    SendCall.perform_request_ne_none, SendCall.accepted_iff,
    SendCall.queued_iff, ← Bool.not_eq_true]
  by_cases complete : call.Complete <;>
    cases (ConversationsApi.sendEnvelope json outcome.response).ok <;>
      cases outcome.upserted <;> cases outcome.enqueued <;>
        simp [complete]

/-- For two calls that are queued, different requests are kept apart by type
or payload of the jobs exactly when the requests are the same or their
ciphertexts differ. -/
theorem queued_jobs_tell_requests_apart_iff
    (json : QJsonDocument)
    {network otherNetwork : NetworkAccess} {tables otherTables : Tables}
    {outcome otherOutcome : SendOutcome} {call other : SendCall}
    {job otherJob : JobRecord}
    (queues : call.Queues json network tables outcome job)
    (otherQueues :
      other.Queues json otherNetwork otherTables otherOutcome otherJob) :
    let request := call.request outcome.envelopeId
    let otherRequest := other.request otherOutcome.envelopeId
    (request ≠ otherRequest →
        job.type ≠ otherJob.type ∨
          job.payloadCiphertext ≠ otherJob.payloadCiphertext) ↔
      request = otherRequest ∨
        toUtf8 request.ciphertext ≠ toUtf8 otherRequest.ciphertext := by
  intro request otherRequest
  rw [SendCall.queues_iff] at queues otherQueues
  obtain ⟨_, _, _, rfl⟩ := queues
  obtain ⟨_, _, _, rfl⟩ := otherQueues
  rw [← or_iff_not_imp_left]
  refine or_congr_right ?_
  exact ⟨fun differ => differ.resolve_left fun same => same rfl, Or.inr⟩

section Examples

def referenceNetwork : NetworkAccess :=
  ⟨QString.literal "https://vox", QString.literal "token"⟩

def noTables : Tables := ⟨Table.empty, ⟨[], 0⟩⟩

/-- The server is not reached; both statements execute. -/
def unreached (envelopeId : QString) : SendOutcome :=
  ⟨envelopeId, ⟨0, [], QString.literal "Host not found"⟩, 100000, true,
    100000, true⟩

/-- The server accepts the envelope, and the message is not stored. -/
def acceptedUnstored : SendOutcome where
  envelopeId := QString.literal "e"
  response :=
    ⟨200, ReferenceJson.json.toJson
      [stringMember "envelope_id" (QString.literal "e"),
        (QString.literal "server_timestamp", .double 100)], []⟩
  currentMSecs := 100000
  upserted := false
  queuedMSecs := 100000
  enqueued := true

/-- A text sent to a conversation. -/
def sendTo (conversationId text : QString) : SendCall :=
  .sendCiphertext conversationId (QString.literal "d") text 0

/-- The jobs of two different texts differ. -/
theorem jobs_of_two_texts_differ :
    ∃ job otherJob,
      (sendTo (QString.literal "a") (QString.literal "hi")).Queues
          ReferenceJson.json referenceNetwork noTables
          (unreached (QString.literal "e")) job ∧
        (sendTo (QString.literal "b") (QString.literal "ho")).Queues
          ReferenceJson.json referenceNetwork noTables
          (unreached (QString.literal "f")) otherJob ∧
        (job.type ≠ otherJob.type ∨
          job.payloadCiphertext ≠ otherJob.payloadCiphertext) := by
  have queues : (sendTo (QString.literal "a") (QString.literal "hi")).Queues
      ReferenceJson.json referenceNetwork noTables
      (unreached (QString.literal "e")) _ :=
    SendCall.queues_iff.mpr ⟨by decide, by decide +kernel, rfl, rfl⟩
  have otherQueues :
      (sendTo (QString.literal "b") (QString.literal "ho")).Queues
        ReferenceJson.json referenceNetwork noTables
        (unreached (QString.literal "f")) _ :=
    SendCall.queues_iff.mpr ⟨by decide, by decide +kernel, rfl, rfl⟩
  refine ⟨_, _, queues, otherQueues, ?_⟩
  refine (queued_jobs_tell_requests_apart_iff ReferenceJson.json queues
    otherQueues).mpr (Or.inr (by decide)) ?_
  intro same
  exact absurd (congrArg SendEnvelopeRequest.ciphertext same) (by decide)

/-- The same text for two conversations leaves two jobs that do not tell
which is which. -/
theorem jobs_of_two_conversations_are_alike :
    ∃ job otherJob,
      (sendTo (QString.literal "a") (QString.literal "hi")).Queues
          ReferenceJson.json referenceNetwork noTables
          (unreached (QString.literal "e")) job ∧
        (sendTo (QString.literal "b") (QString.literal "hi")).Queues
          ReferenceJson.json referenceNetwork noTables
          (unreached (QString.literal "f")) otherJob ∧
        ((sendTo (QString.literal "a") (QString.literal "hi")).request
            (QString.literal "e")).conversationId ≠
          ((sendTo (QString.literal "b") (QString.literal "hi")).request
            (QString.literal "f")).conversationId ∧
        job.type = otherJob.type ∧
          job.payloadCiphertext = otherJob.payloadCiphertext := by
  refine ⟨_, _, SendCall.queues_iff.mpr ⟨by decide, ?_, rfl, rfl⟩,
    SendCall.queues_iff.mpr ⟨by decide, ?_, rfl, rfl⟩, by decide, rfl, rfl⟩
  · decide +kernel
  · decide +kernel

/-- The server has accepted the envelope, and the call returns false. -/
theorem accepted_send_reports_failure :
    (sendTo (QString.literal "a") (QString.literal "hi")).Accepted
        ReferenceJson.json referenceNetwork noTables acceptedUnstored ∧
      ((sendTo (QString.literal "a") (QString.literal "hi")).perform
        ReferenceJson.json referenceNetwork noTables acceptedUnstored).2.1 =
          false := by
  refine ⟨SendCall.accepted_iff.mpr ⟨by decide, ?_⟩, ?_⟩
  · decide +kernel
  · decide +kernel

end Examples

end Services
end VoxDesktop
