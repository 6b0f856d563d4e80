import VoxDesktop.Integration.Blobs
import VoxDesktop.Services.AttachmentService

/-!
# Uploads and downloads, request by request

An upload makes three requests and a download one, and the requests of other
clients may come between them.  A client is its files and the call that its
service has under way, which is taken up again with the answer to its request.
Taken up without a break, a call is the one of `services/AttachmentService`.
-/

namespace VoxDesktop
namespace Integration

open Library Qt Network Storage Services FakeVoxServer

/-! ## Calls -/

/-- A call that waits for the answer to its request. -/
inductive AttachmentTask
  | initiating (conversationId : QString) (ciphertext : QByteArray)
      (mimeHint : QString)
  | sending (ciphertext : QByteArray) (attachmentId : QString)
  | finalizing (ciphertext : QByteArray) (attachmentId : QString)
  | fetching (attachmentId : QString)

/-- What a call that is over has returned, with what it was about. -/
inductive AttachmentReport
  | uploaded (ciphertext : QByteArray) (attachmentId : Option QString)
  | downloaded (attachmentId : QString) (bytes : Option QByteArray)

/-- Where a call is: it is over and reports, or it waits. -/
structure AttachmentProgress where
  report : Option AttachmentReport := none
  task : Option AttachmentTask := none
  disk : Disk

section Calls

variable (json : QJsonDocument) (network : NetworkAccess)
  (sha256 : QByteArray → QByteArray) (store : FileStore) (disk : Disk)

/-- `uploadEncrypted` up to its first request. -/
def beginUpload
    (conversationId : QString) (ciphertext : QByteArray)
    (mimeHint : QString) : AttachmentProgress :=
  if conversationId = [] ∨ ciphertext = [] then
    { report := some (.uploaded ciphertext none), disk := disk }
  else
    { task := some (.initiating conversationId ciphertext mimeHint),
      disk := disk }

/-- `downloadEncrypted` up to its request. -/
def beginDownload (attachmentId : QString) (opens : Bool) :
    AttachmentProgress :=
  match store.readEncryptedAttachment disk attachmentId opens with
  | some stored =>
      { report := some (.downloaded attachmentId (some stored)),
        disk := disk }
  | none => { task := some (.fetching attachmentId), disk := disk }

namespace AttachmentTask

def request : AttachmentTask → HttpRequest × QUrlQuery
  | .initiating conversationId ciphertext mimeHint =>
      (AttachmentsApi.uploadInitRequest json network
        ⟨conversationId, ciphertext.length, mimeHint⟩, [])
  | .sending ciphertext attachmentId =>
      AttachmentsApi.uploadChunkRequest network attachmentId 0 ciphertext
  | .finalizing ciphertext attachmentId =>
      (AttachmentsApi.finalizeRequest json network attachmentId
        (AttachmentService.ciphertextHash sha256 ciphertext), [])
  | .fetching attachmentId =>
      AttachmentsApi.downloadRequest network attachmentId

/-- A call goes on to its next request, or to its end. -/
def resume (response : NetworkResponse) (saved : SaveOutcome) :
    AttachmentTask → AttachmentProgress
  | .initiating _ ciphertext _ =>
      match (AttachmentsApi.uploadInit json response).accepted with
      | none => { report := some (.uploaded ciphertext none), disk := disk }
      | some init =>
          { task := some (.sending ciphertext init.attachmentId),
            disk := disk }
  | .sending ciphertext attachmentId =>
      if (AttachmentsApi.uploadChunk json response).ok = false then
        { report := some (.uploaded ciphertext none), disk := disk }
      else
        { task := some (.finalizing ciphertext attachmentId), disk := disk }
  | .finalizing ciphertext attachmentId =>
      if (AttachmentsApi.finalize json response).ok = false then
        { report := some (.uploaded ciphertext none), disk := disk }
      else
        let written :=
          store.writeEncryptedAttachment disk attachmentId ciphertext saved
        { report :=
            some (.uploaded ciphertext
              (if written.1 then some attachmentId else none)),
          disk := written.2 }
  | .fetching attachmentId =>
      match (AttachmentsApi.download json response).accepted with
      | none =>
          { report := some (.downloaded attachmentId none), disk := disk }
      | some bytes =>
          let written :=
            store.writeEncryptedAttachment disk attachmentId bytes saved
          { report :=
              some (.downloaded attachmentId
                (if written.1 then some bytes else none)),
            disk := written.2 }

end AttachmentTask

/-! ## Calls without a break -/

/-- The request of a call that waits is answered. -/
def AttachmentProgress.answered
    (respond : HttpRequest × QUrlQuery → NetworkResponse)
    (saved : SaveOutcome) (progress : AttachmentProgress) :
    AttachmentProgress :=
  match progress.task with
  | none => progress
  | some task =>
      task.resume json store progress.disk
        (respond (task.request json network sha256)) saved

/-- With its requests answered one after the other, an upload is
`uploadEncrypted`. -/
theorem uploadEncrypted_eq_answered
    (conversationId : QString) (ciphertext : QByteArray)
    (mimeHint : QString) (outcome : UploadOutcome) :
    let answered := AttachmentProgress.answered json network sha256 store
    let uploaded := AttachmentService.uploadEncrypted json network sha256
      store disk conversationId ciphertext mimeHint outcome
    answered (fun request => outcome.respondFinalize request.1) outcome.saved
        (answered outcome.respondChunk outcome.saved
          (answered (fun request => outcome.respondInit request.1)
            outcome.saved
            (beginUpload disk conversationId ciphertext mimeHint))) =
      { report := some (.uploaded ciphertext uploaded.1),
        disk := uploaded.2 } := by
  intro answered uploaded
  unfold uploaded AttachmentService.uploadEncrypted beginUpload
  by_cases empty : conversationId = [] ∨ ciphertext = []
  · rw [if_pos empty, if_pos empty]
    rfl
  rw [if_neg empty, if_neg empty]
  unfold AttachmentService.uploadInit
  dsimp only [answered, AttachmentProgress.answered, AttachmentTask.resume,
    AttachmentTask.request]
  cases (AttachmentsApi.uploadInit json (outcome.respondInit
    (AttachmentsApi.uploadInitRequest json network
      ⟨conversationId, ciphertext.length, mimeHint⟩))).accepted with
  | none => rfl
  | some init =>
      dsimp only
      by_cases noChunk : (AttachmentsApi.uploadChunk json
          (outcome.respondChunk (AttachmentsApi.uploadChunkRequest network
            init.attachmentId 0 ciphertext))).ok = false
      · simp only [if_pos noChunk]
      simp only [if_neg noChunk]
      by_cases noEnd : (AttachmentsApi.finalize json
          (outcome.respondFinalize (AttachmentsApi.finalizeRequest json
            network init.attachmentId (AttachmentService.ciphertextHash
              sha256 ciphertext)))).ok = false
      · simp only [if_pos noEnd]
      simp only [if_neg noEnd]
      split <;> rfl

/-- With its request answered, a download is `downloadEncrypted`. -/
theorem downloadEncrypted_eq_answered
    (attachmentId : QString) (outcome : DownloadOutcome) :
    let downloaded := AttachmentService.downloadEncrypted json network store
      disk attachmentId outcome
    AttachmentProgress.answered json network sha256 store outcome.respond
        outcome.saved
        (beginDownload store disk attachmentId outcome.opens) =
      { report := some (.downloaded attachmentId downloaded.1),
        disk := downloaded.2 } := by
  intro downloaded
  unfold downloaded AttachmentService.downloadEncrypted beginDownload
  cases store.readEncryptedAttachment disk attachmentId outcome.opens with
  | some stored => rfl
  | none =>
      dsimp only [AttachmentProgress.answered, AttachmentTask.resume,
        AttachmentTask.request]
      cases (AttachmentsApi.download json (outcome.respond
        (AttachmentsApi.downloadRequest network attachmentId))).accepted with
      | none => rfl
      | some bytes =>
          dsimp only
          split <;> rfl

end Calls

/-! ## Clients and their server -/

structure AttachmentClient where
  disk : Disk
  /-- The call under way, with the access that its requests go through. -/
  work : Option (NetworkAccess × AttachmentTask) := none

structure AttachmentSystem (ι : Type) where
  server : FakeVoxServer := {}
  clients : ι → AttachmentClient

inductive AttachmentEvent (ι : Type)
  /-- A request of anyone else, or a switch of the tests. -/
  | server (event : ServerEvent)
  | upload (client : ι) (network : NetworkAccess) (conversationId : QString)
      (ciphertext : QByteArray) (mimeHint : QString)
  | download (client : ι) (network : NetworkAccess) (attachmentId : QString)
      (opens : Bool)
  /-- The request of the call under way is answered. -/
  | exchange (client : ι) (exchange : Exchange) (saved : SaveOutcome)
  /-- The process of the client ends. -/
  | stopped (client : ι)

section Steps

variable (json : QJsonDocument) (sha256 : QByteArray → QByteArray)
  (store : FileStore) {ι : Type} [DecidableEq ι]

/-- The client after a call has got on. -/
def AttachmentSystem.progressed
    (system : AttachmentSystem ι) (client : ι) (network : NetworkAccess)
    (progress : AttachmentProgress) (server : FakeVoxServer) :
    Option AttachmentReport × AttachmentSystem ι :=
  (progress.report,
    ⟨server,
      Function.update system.clients client
        ⟨progress.disk, progress.task.map fun task => (network, task)⟩⟩)

/-- A call of a client whose service is at work does not begin. -/
def attachmentStep (system : AttachmentSystem ι) :
    AttachmentEvent ι → Option AttachmentReport × AttachmentSystem ι
  | .server event =>
      (none, { system with server := (serverStep json system.server event).2 })
  | .upload client network conversationId ciphertext mimeHint =>
      match (system.clients client).work with
      | some _ => (none, system)
      | none =>
          system.progressed client network
            (beginUpload (system.clients client).disk conversationId
              ciphertext mimeHint) system.server
  | .download client network attachmentId opens =>
      match (system.clients client).work with
      | some _ => (none, system)
      | none =>
          system.progressed client network
            (beginDownload store (system.clients client).disk attachmentId
              opens) system.server
  | .exchange client exchange saved =>
      match (system.clients client).work with
      | none => (none, system)
      | some (network, task) =>
          let result :=
            exchanged json system.server network
              (task.request json network sha256) exchange
          system.progressed client network
            (task.resume json store (system.clients client).disk result.1
              saved) result.2
  | .stopped client =>
      (none,
        { system with
          clients :=
            Function.update system.clients client
              ⟨(system.clients client).disk, none⟩ })

def attachmentsAfter
    (starts : ι → Disk) (events : List (AttachmentEvent ι)) :
    AttachmentSystem ι :=
  Machine.run (attachmentStep json sha256 store)
    { clients := fun client => { disk := starts client } } events

end Steps

end Integration
end VoxDesktop
