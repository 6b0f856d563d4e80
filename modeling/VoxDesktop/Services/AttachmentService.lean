import VoxDesktop.Library.Machine
import VoxDesktop.Network.AttachmentsApi
import VoxDesktop.Qt.ReferenceJson
import VoxDesktop.Storage.FileStore

/-!
# Uploading and downloading attachments

`services/AttachmentService` over the files of `storage/FileStore`.  The ids
come from the server and from messages.  Every file of a set of attachments
lies in its directory and is the file of one attachment only exactly if each id
leads nowhere and no two of them end in the same name.
-/

namespace VoxDesktop
namespace Services

open Qt Network Storage Library Library.LexicalPath

/-- What happens around `uploadEncrypted`. -/
structure UploadOutcome where
  respondInit : HttpRequest → NetworkResponse
  respondChunk : HttpRequest × QUrlQuery → NetworkResponse
  respondFinalize : HttpRequest → NetworkResponse
  saved : SaveOutcome

/-- What happens around `downloadEncrypted`. -/
structure DownloadOutcome where
  opens : Bool
  respond : HttpRequest × QUrlQuery → NetworkResponse
  saved : SaveOutcome

namespace AttachmentService

section Operations

variable (json : QJsonDocument) (network : NetworkAccess)
  (sha256 : QByteArray → QByteArray) (store : FileStore) (disk : Disk)

/-- The answer to `uploadInit`. -/
def uploadInit
    (conversationId : QString) (ciphertext : QByteArray) (mimeHint : QString)
    (outcome : UploadOutcome) : Option AttachmentUploadInitResponse :=
  let request :=
    AttachmentsApi.uploadInitRequest json network
      ⟨conversationId, ciphertext.length, mimeHint⟩
  (AttachmentsApi.uploadInit json (outcome.respondInit request)).accepted

/-- `CryptoHelpers::sha256` as `finalize` sends it. -/
def ciphertextHash (ciphertext : QByteArray) : QString :=
  QString.literal "sha256:" ++ fromUtf8 (toHex (sha256 ciphertext))

def uploadEncrypted
    (conversationId : QString) (ciphertext : QByteArray) (mimeHint : QString)
    (outcome : UploadOutcome) : Option QString × Disk :=
  if conversationId = [] ∨ ciphertext = [] then (none, disk)
  else
    match uploadInit json network conversationId ciphertext mimeHint
      outcome with
    | none => (none, disk)
    | some init =>
        let chunk :=
          AttachmentsApi.uploadChunkRequest network init.attachmentId 0
            ciphertext
        if (AttachmentsApi.uploadChunk json
            (outcome.respondChunk chunk)).ok = false then
          (none, disk)
        else
          let final :=
            AttachmentsApi.finalizeRequest json network init.attachmentId
              (ciphertextHash sha256 ciphertext)
          if (AttachmentsApi.finalize json
              (outcome.respondFinalize final)).ok = false then
            (none, disk)
          else
            let written :=
              store.writeEncryptedAttachment disk init.attachmentId ciphertext
                outcome.saved
            if written.1 then (some init.attachmentId, written.2)
            else (none, written.2)

def downloadEncrypted (attachmentId : QString) (outcome : DownloadOutcome) :
    Option QByteArray × Disk :=
  match store.readEncryptedAttachment disk attachmentId outcome.opens with
  | some stored => (some stored, disk)
  | none =>
      let request := AttachmentsApi.downloadRequest network attachmentId
      match (AttachmentsApi.download json
          (outcome.respond request)).accepted with
      | none => (none, disk)
      | some downloaded =>
          let written :=
            store.writeEncryptedAttachment disk attachmentId downloaded
              outcome.saved
          if written.1 then (some downloaded, written.2)
          else (none, written.2)

end Operations

/-! ## Runs -/

/-- A call of the service. -/
inductive AttachmentCall where
  | upload
      (conversationId : QString) (ciphertext : QByteArray)
      (mimeHint : QString) (outcome : UploadOutcome)
  | download (attachmentId : QString) (outcome : DownloadOutcome)

/-- What a call returns. -/
inductive AttachmentResult where
  | uploaded (attachmentId : Option QString)
  | downloaded (bytes : Option QByteArray)

section Runs

variable (json : QJsonDocument) (network : NetworkAccess)
  (sha256 : QByteArray → QByteArray) (store : FileStore)

/-- The attachment that a call is about: the one that the server names, or the
one that is asked for. -/
def AttachmentCall.attachmentId : AttachmentCall → Option QString
  | .upload conversationId ciphertext mimeHint outcome =>
      (uploadInit json network conversationId ciphertext mimeHint
        outcome).map AttachmentUploadInitResponse.attachmentId
  | .download attachmentId _ => some attachmentId

def step (disk : Disk) : AttachmentCall → AttachmentResult × Disk
  | .upload conversationId ciphertext mimeHint outcome =>
      let uploaded :=
        uploadEncrypted json network sha256 store disk conversationId
          ciphertext mimeHint outcome
      (.uploaded uploaded.1, uploaded.2)
  | .download attachmentId outcome =>
      let downloaded :=
        downloadEncrypted json network store disk attachmentId outcome
      (.downloaded downloaded.1, downloaded.2)

variable {json network sha256 store}

/-- An upload keeps every file but that of the attachment that the server
names. -/
theorem uploadEncrypted_of_ne
    {disk : Disk} {file : Path UInt16}
    {conversationId mimeHint : QString} {ciphertext : QByteArray}
    {outcome : UploadOutcome}
    (other : ∀ init,
      uploadInit json network conversationId ciphertext mimeHint outcome =
          some init →
        file ≠ fileAt (store.encryptedAttachmentPath init.attachmentId)) :
    (uploadEncrypted json network sha256 store disk conversationId ciphertext
      mimeHint outcome).2 file = disk file := by
  unfold uploadEncrypted
  split
  · rfl
  · split
    · rfl
    · rename_i init answered
      have kept := FileStore.saveFile_of_ne disk (other init answered)
        ciphertext outcome.saved
      dsimp only
      split
      · rfl
      · split
        · rfl
        · split
          · exact kept
          · exact kept

/-- A download keeps every file but that of the attachment asked for. -/
theorem downloadEncrypted_of_ne
    {disk : Disk} {file : Path UInt16} {attachmentId : QString}
    (other : file ≠ fileAt (store.encryptedAttachmentPath attachmentId))
    (outcome : DownloadOutcome) :
    (downloadEncrypted json network store disk attachmentId outcome).2 file =
      disk file := by
  unfold downloadEncrypted
  split
  · rfl
  · dsimp only
    split
    · rfl
    · rename_i downloaded _
      have kept := FileStore.saveFile_of_ne disk other downloaded outcome.saved
      split
      · exact kept
      · exact kept

/-- A call keeps every file but that of the attachment it is about. -/
theorem step_of_ne
    {disk : Disk} {file : Path UInt16} {call : AttachmentCall}
    (other : ∀ attachmentId ∈ call.attachmentId json network,
      file ≠ fileAt (store.encryptedAttachmentPath attachmentId)) :
    (step json network sha256 store disk call).2 file = disk file := by
  cases call with
  | upload conversationId ciphertext mimeHint outcome =>
      refine uploadEncrypted_of_ne fun init answered => other _ ?_
      rw [AttachmentCall.attachmentId, answered]
      rfl
  | download attachmentId outcome =>
      exact downloadEncrypted_of_ne (other attachmentId rfl) outcome

/-- A run keeps every file but those of the attachments it is about. -/
theorem run_of_ne
    {disk : Disk} {file : Path UInt16} {calls : List AttachmentCall}
    (other : ∀ call ∈ calls, ∀ attachmentId ∈ call.attachmentId json network,
      file ≠ fileAt (store.encryptedAttachmentPath attachmentId)) :
    Machine.run (step json network sha256 store) disk calls file =
      disk file := by
  induction calls generalizing disk with
  | nil => rfl
  | cons call calls inductionHypothesis =>
      rw [List.forall_mem_cons] at other
      rw [Machine.run_cons, inductionHypothesis other.2, step_of_ne other.1]

/-- What a download returns depends on the disk through one file only. -/
theorem downloadEncrypted_congr
    {disk changed : Disk} {attachmentId : QString}
    (same :
      changed (fileAt (store.encryptedAttachmentPath attachmentId)) =
        disk (fileAt (store.encryptedAttachmentPath attachmentId)))
    (outcome : DownloadOutcome) :
    (downloadEncrypted json network store changed attachmentId outcome).1 =
      (downloadEncrypted json network store disk attachmentId outcome).1 := by
  have sameStored :
      store.readEncryptedAttachment changed attachmentId outcome.opens =
        store.readEncryptedAttachment disk attachmentId outcome.opens := by
    rw [FileStore.readEncryptedAttachment, same]
    rfl
  have sameWritten : ∀ bytes,
      (store.writeEncryptedAttachment changed attachmentId bytes
          outcome.saved).1 =
        (store.writeEncryptedAttachment disk attachmentId bytes
          outcome.saved).1 := by
    intro bytes
    unfold FileStore.writeEncryptedAttachment FileStore.saveFile
    split <;> rfl
  unfold downloadEncrypted
  rw [sameStored]
  split
  · rfl
  · dsimp only
    split
    · rfl
    · rw [sameWritten]
      split <;> rfl

end Runs

/-! ## Attachments apart -/

section Apart

variable (json : QJsonDocument) (network : NetworkAccess)
  (sha256 : QByteArray → QByteArray) (store : FileStore) (ids : Set QString)

/-- A file that is none of an attachment's business: it is outside the
directory or belongs to another attachment. -/
def IsForeign
    (directory : String) (attachmentId : QString) (file : Path UInt16) :
    Prop :=
  ¬IsInside 0x2E (store.directoryAt directory) file ∨
    ∃ other ∈ ids, other ≠ attachmentId ∧
      file = fileAt (store.attachmentPath directory other)

/-- The files of a set of attachments are directly in their directories and
apart from each other; no call about them writes or reads a foreign file, and
neither do their previews. -/
structure KeepsApart : Prop where
  encryptedInside : ∀ attachmentId ∈ ids,
    IsInside 0x2E (store.directoryAt "encrypted")
      (fileAt (store.encryptedAttachmentPath attachmentId))
  previewInside : ∀ attachmentId ∈ ids,
    IsInside 0x2E (store.directoryAt "preview")
      (fileAt (store.decryptedPreviewPath attachmentId))
  encryptedApart : ids.InjOn fun attachmentId =>
    fileAt (store.encryptedAttachmentPath attachmentId)
  previewApart : ids.InjOn fun attachmentId =>
    fileAt (store.decryptedPreviewPath attachmentId)
  writes : ∀ (disk : Disk) (calls : List AttachmentCall) (file : Path UInt16),
    (∀ call ∈ calls, ∀ attachmentId ∈ call.attachmentId json network,
      attachmentId ∈ ids ∧
        IsForeign store ids "encrypted" attachmentId file) →
      Machine.run (step json network sha256 store) disk calls file =
        disk file
  reads : ∀ (disk changed : Disk), ∀ attachmentId ∈ ids,
    (∀ file, ¬IsForeign store ids "encrypted" attachmentId file →
      changed file = disk file) →
      ∀ outcome,
        (downloadEncrypted json network store changed attachmentId
            outcome).1 =
          (downloadEncrypted json network store disk attachmentId outcome).1
  previews : ∀ (disk : Disk), ∀ attachmentId ∈ ids, ∀ file,
    IsForeign store ids "preview" attachmentId file →
      (∀ bytes outcome,
        (store.writeDecryptedPreview disk attachmentId bytes
          outcome).2 file = disk file) ∧
        ∀ permitted,
          (store.removeDecryptedPreview disk attachmentId
            permitted).2 file = disk file

variable {json network sha256 store ids}

/-- In both directories, a file that is foreign to an attachment is not its
own. -/
theorem ne_of_isForeign
    (nowhere : ∀ attachmentId ∈ ids, LeadsNowhere 0x2F 0x2E attachmentId)
    (names : ids.InjOn (fileName 0x2F)) (directory : String)
    {attachmentId : QString} (member : attachmentId ∈ ids)
    {file : Path UInt16}
    (foreign : IsForeign store ids directory attachmentId file) :
    file ≠ fileAt (store.attachmentPath directory attachmentId) := by
  rintro rfl
  rcases foreign with outside | ⟨other, otherMember, different, same⟩
  · apply outside
    rw [store.isInside_iff]
    exact (nowhere attachmentId member).walk_eq _
  · apply different
    exact (store.injOn_attachmentPath_iff nowhere directory).mpr names
      otherMember member same.symm

theorem keepsApart_of_leadsNowhere
    (nowhere : ∀ attachmentId ∈ ids, LeadsNowhere 0x2F 0x2E attachmentId)
    (names : ids.InjOn (fileName 0x2F)) :
    KeepsApart json network sha256 store ids where
  encryptedInside attachmentId member :=
    ((store.isInside_both_iff attachmentId).mpr
      (nowhere attachmentId member)).1
  previewInside attachmentId member :=
    ((store.isInside_both_iff attachmentId).mpr
      (nowhere attachmentId member)).2
  encryptedApart :=
    (store.injOn_attachmentPath_iff nowhere "encrypted").mpr names
  previewApart :=
    (store.injOn_attachmentPath_iff nowhere "preview").mpr names
  writes disk calls file foreign := by
    apply run_of_ne
    intro call called attachmentId about
    obtain ⟨member, isForeign⟩ := foreign call called attachmentId about
    exact ne_of_isForeign nowhere names "encrypted" member isForeign
  reads disk changed attachmentId member same outcome := by
    apply downloadEncrypted_congr
    apply same
    intro isForeign
    exact ne_of_isForeign nowhere names "encrypted" member isForeign rfl
  previews disk attachmentId member file isForeign := by
    have other :=
      ne_of_isForeign nowhere names "preview" member isForeign
    constructor
    · intro bytes outcome
      exact FileStore.saveFile_of_ne disk other bytes outcome
    · exact store.removeDecryptedPreview_of_ne disk other

/-- The files of a set of attachments are kept apart exactly if the directories
of each id lead nowhere and different ids end in different names. -/
theorem keepsApart_iff
    (json : QJsonDocument) (network : NetworkAccess)
    (sha256 : QByteArray → QByteArray)
    (store : FileStore)
    (ids : Set QString) :
    KeepsApart json network sha256 store ids ↔
      (∀ attachmentId ∈ ids, LeadsNowhere 0x2F 0x2E attachmentId) ∧
        ids.InjOn (fileName 0x2F) := by
  constructor
  · intro kept
    have nowhere : ∀ attachmentId ∈ ids,
        LeadsNowhere 0x2F 0x2E attachmentId := by
      intro attachmentId member
      exact (store.isInside_both_iff attachmentId).mp
        ⟨kept.encryptedInside attachmentId member,
          kept.previewInside attachmentId member⟩
    exact ⟨nowhere,
      (store.injOn_attachmentPath_iff nowhere "encrypted").mp
        kept.encryptedApart⟩
  · rintro ⟨nowhere, names⟩
    exact keepsApart_of_leadsNowhere nowhere names

/-- Ids without a slash are kept apart. -/
theorem keepsApart_of_not_mem
    (undivided : ∀ attachmentId ∈ ids, 0x2F ∉ attachmentId) :
    KeepsApart json network sha256 store ids := by
  refine keepsApart_of_leadsNowhere
    (fun attachmentId member =>
      leadsNowhere_of_not_mem (undivided attachmentId member))
    fun first firstMember second secondMember same => ?_
  rwa [fileName_of_not_mem (undivided first firstMember),
    fileName_of_not_mem (undivided second secondMember)] at same

/-- The id `../x` leaves the directory, `../preview/b` is the preview of `b`,
and asking for `./b` returns what is stored for `b`. -/
theorem ids_meet_and_leave :
    let store : FileStore := ⟨QString.literal "/data/files"⟩
    let file := fun attachmentId =>
      fileAt (store.encryptedAttachmentPath (QString.literal attachmentId))
    let disk : Disk := Function.update (fun _ => none) (file "b") (some [7])
    ¬IsInside 0x2E (store.directoryAt "encrypted") (file "../x") ∧
      file "../preview/b" =
        fileAt (store.decryptedPreviewPath (QString.literal "b")) ∧
      file "./b" = file "b" ∧
      (downloadEncrypted ReferenceJson.json ⟨[], []⟩ store disk
          (QString.literal "./b")
          ⟨true, fun _ => ⟨404, [], []⟩, ⟨false, false⟩⟩).1 =
        some [7] := by
  intro store file disk
  refine ⟨fun inside => ?_, by decide, by decide, by decide⟩
  exact absurd ((store.isInside_iff "encrypted" _).mp inside) (by decide)

end Apart

end AttachmentService
end Services
end VoxDesktop
