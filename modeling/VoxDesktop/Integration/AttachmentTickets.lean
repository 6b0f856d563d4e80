import VoxDesktop.Integration.Attachments
import VoxDesktop.Library.Tickets

/-!
# Tickets for attachments

Each id that the server hands out is the ticket of one upload, which alone
writes the attachment, once.  The invariant of a system of clients says who has
which ticket, what a call under way knows about the server, and what the files
and the results of calls have to do with what is stored.
-/

namespace VoxDesktop
namespace Integration

open Library Qt Network Storage Services FakeVoxServer

/-- Nothing is found in what is empty. -/
theorem of_none
    {α : Type*} {holds : α → Prop} (value : α) (found : none = some value) :
    holds value :=
  (Option.some_ne_none value found.symm).elim

/-! ## What becomes of the server -/

/-- Numbers are handed out, and at most the given attachment is written, for
the first time. -/
structure Grown
    (written : Option QString) (before after : FakeVoxServer) : Prop where
  seq : before.m_attachmentSeq ≤ after.m_attachmentSeq
  unissued : after.Unissued
  blobs : ∀ number,
    after.blob (attachmentIdOf number) =
        before.blob (attachmentIdOf number) ∨
      written = some (attachmentIdOf number) ∧
        before.blob (attachmentIdOf number) = []

section Servers

variable {json : QJsonDocument} {server : FakeVoxServer}
  {request : ServerRequest} {moment : Moment} {written : Option QString}

theorem Grown.refl (unissued : server.Unissued) :
    Grown written server server :=
  ⟨Nat.le_refl _, unissued, fun _ => Or.inl rfl⟩

/-- What has been written stays. -/
theorem Grown.kept
    {before after : FakeVoxServer} (grown : Grown written before after)
    {number : ℕ} (isWritten : before.blob (attachmentIdOf number) ≠ []) :
    after.blob (attachmentIdOf number) =
      before.blob (attachmentIdOf number) := by
  rcases grown.blobs number with same | ⟨_, nothing⟩
  · exact same
  · exact absurd nothing isWritten

/-- What was stored, or nothing, is what is stored, or nothing. -/
theorem Grown.stored
    {before after : FakeVoxServer} (grown : Grown written before after)
    {number : ℕ} {bytes : QByteArray}
    (isStored : bytes = [] ∨ bytes = before.blob (attachmentIdOf number)) :
    bytes = [] ∨ bytes = after.blob (attachmentIdOf number) := by
  rcases isStored with rfl | rfl
  · exact Or.inl rfl
  · rcases grown.blobs number with same | ⟨_, nothing⟩
    · exact Or.inr same.symm
    · exact Or.inl nothing

/-- A request that writes no attachment that has been handed out. -/
theorem grown_handle
    (unissued : server.Unissued)
    (other : ∀ number, chunkTarget request ≠ some (attachmentIdOf number)) :
    Grown none server (server.handle json request moment).2 where
  seq := handle_attachmentSeq
  unissued := unissued_handle unissued fun number _ => other number
  blobs number := Or.inl (blob_handle unissued (other number))

theorem grown_exchanged
    (unissued : server.Unissued) {network : NetworkAccess}
    {request : HttpRequest × QUrlQuery}
    (other : ∀ number,
      chunkTarget (serverRequest network request.1 request.2) ≠
        some (attachmentIdOf number))
    (exchange : Exchange) :
    Grown none server (exchanged json server network request exchange).2 := by
  rcases exchanged_cases json server network request exchange with
    ⟨_, same⟩ | ⟨_, same⟩ | same
  · rw [same]
    exact .refl unissued
  · rw [same]
    exact grown_handle unissued other
  · rw [same]
    exact grown_handle unissued other

/-- A reservation that is accepted has got the next number. -/
theorem exchanged_uploadInit
    (roundTrips : json.RoundTrips) (unissued : server.Unissued)
    (network : NetworkAccess) (info : AttachmentUploadInitRequest)
    (exchange : Exchange) :
    let result := exchanged json server network
      (AttachmentsApi.uploadInitRequest json network info, []) exchange
    Grown none server result.2 ∧
      ∀ init, (AttachmentsApi.uploadInit json result.1).accepted = some init →
        init.attachmentId = attachmentIdOf server.m_attachmentSeq ∧
          server.m_attachmentSeq < result.2.m_attachmentSeq := by
  intro result
  have handled := @handle_uploadInit json server network exchange.moment info
  have grown : Grown none server result.2 := by
    refine grown_exchanged unissued (fun number => ?_) exchange
    rw [handled.1]
    exact nofun
  refine ⟨grown, fun init accepted => ?_⟩
  have refuses : ∀ {response : NetworkResponse}, response.ok = false →
      (AttachmentsApi.uploadInit json response).accepted ≠ some init := by
    intro response notOk
    rw [show (AttachmentsApi.uploadInit json response).accepted = none from
      accepted_parseResult_of_not_ok notOk _ _]
    exact nofun
  rcases exchanged_cases json server network
      (AttachmentsApi.uploadInitRequest json network info, []) exchange with
    ⟨notOk, _⟩ | ⟨notOk, _⟩ | same
  · exact absurd accepted (refuses notOk)
  · exact absurd accepted (refuses notOk)
  rw [show result = _ from same] at accepted ⊢
  rcases handled.2 with refused | reserved
  · rw [refused] at accepted
    exact absurd accepted (refuses unauthorized_not_ok)
  · rw [reserved] at accepted ⊢
    rw [accepted_uploadInit roundTrips, Option.some.injEq] at accepted
    rw [← accepted]
    exact ⟨rfl, Nat.lt_succ_self _⟩

/-- A chunk that is put has been written when the client gets a success. -/
theorem exchanged_uploadChunk
    (unissued : server.Unissued) (network : NetworkAccess) {number : ℕ}
    (issued : number < server.m_attachmentSeq)
    (nothing : server.blob (attachmentIdOf number) = [])
    (ciphertext : QByteArray) (exchange : Exchange) :
    let result := exchanged json server network
      (AttachmentsApi.uploadChunkRequest network (attachmentIdOf number) 0
        ciphertext) exchange
    Grown (some (attachmentIdOf number)) server result.2 ∧
      (result.1.ok = true →
        result.2.blob (attachmentIdOf number) = ciphertext) := by
  intro result
  obtain ⟨isTarget, handled⟩ := @handle_uploadChunk json server network
    exchange.moment number ciphertext
  rw [nothing, chunkWritten_nil] at handled
  have grown : Grown (some (attachmentIdOf number)) server
      (server.handle json (serverRequest network
        (AttachmentsApi.uploadChunkRequest network (attachmentIdOf number) 0
          ciphertext).1
        (AttachmentsApi.uploadChunkRequest network (attachmentIdOf number) 0
          ciphertext).2) exchange.moment).2 := by
    refine ⟨handle_attachmentSeq, unissued_handle unissued ?_, ?_⟩
    · intro later above
      rw [isTarget]
      intro same
      have equal := attachmentIdOf_injective (Option.some.inj same)
      omega
    · intro other
      by_cases same : other = number
      · rw [same]
        exact Or.inr ⟨rfl, nothing⟩
      · refine Or.inl (blob_handle unissued ?_)
        rw [isTarget]
        exact fun equal =>
          same (attachmentIdOf_injective (Option.some.inj equal)).symm
  rcases exchanged_cases json server network
      (AttachmentsApi.uploadChunkRequest network (attachmentIdOf number) 0
        ciphertext) exchange with ⟨notOk, same⟩ | ⟨notOk, same⟩ | same
  · refine ⟨?_, fun works => absurd (notOk.symm.trans works) (by simp)⟩
    rw [show result.2 = server from same]
    exact .refl unissued
  · refine ⟨?_, fun works => absurd (notOk.symm.trans works) (by simp)⟩
    rw [show result.2 = _ from same]
    exact grown
  · rw [show result = _ from same]
    refine ⟨grown, fun works => ?_⟩
    rcases handled with refused | written
    · rw [refused, unauthorized_not_ok] at works
      contradiction
    · exact written

/-- A download that succeeds brings what is stored. -/
theorem exchanged_download
    (network : NetworkAccess) (number : ℕ) (exchange : Exchange) :
    let result := exchanged json server network
      (AttachmentsApi.downloadRequest network (attachmentIdOf number))
      exchange
    ∀ bytes, (AttachmentsApi.download json result.1).accepted = some bytes →
      bytes = server.blob (attachmentIdOf number) := by
  intro result bytes accepted
  have works : result.1.ok = true ∧ result.1.body = bytes := by
    rw [AttachmentsApi.download] at accepted
    split at accepted
    · rename_i isOk
      exact ⟨isOk, Option.some.inj accepted⟩
    · contradiction
  rcases exchanged_cases json server network
      (AttachmentsApi.downloadRequest network (attachmentIdOf number))
      exchange with ⟨notOk, _⟩ | ⟨notOk, _⟩ | same
  · exact absurd (notOk.symm.trans works.1) (by simp)
  · exact absurd (notOk.symm.trans works.1) (by simp)
  · rw [show result = _ from same, handle_download] at works
    split at works
    · rw [unauthorized_not_ok] at works
      exact absurd works.1 (by simp)
    · exact works.2.symm

end Servers

/-! ## Files -/

section Files

variable {store : FileStore} {server : FakeVoxServer} {disk : Disk}

/-- A file of an attachment has what is stored for it, or nothing in it. -/
def FilesSound
    (store : FileStore) (server : FakeVoxServer) (disk : Disk) : Prop :=
  ∀ number bytes,
    disk (fileAt (store.encryptedAttachmentPath (attachmentIdOf number))) =
        some bytes →
      bytes = [] ∨ bytes = server.blob (attachmentIdOf number)

/-- Two ids without a slash have two files. -/
theorem eq_of_same_file
    {first second : QString}
    (firstPlain : (0x2F : UInt16) ∉ first)
    (secondPlain : (0x2F : UInt16) ∉ second)
    (same :
      fileAt (store.encryptedAttachmentPath first) =
        fileAt (store.encryptedAttachmentPath second)) :
    first = second :=
  (store.injOn_attachmentPath_iff
      (fun _ plain => LexicalPath.leadsNowhere_of_not_mem plain)
      "encrypted").mpr
    (fun first firstPlain second secondPlain same => by
      rwa [LexicalPath.fileName_of_not_mem firstPlain,
        LexicalPath.fileName_of_not_mem secondPlain] at same)
    firstPlain secondPlain same

/-- A file is written or stays. -/
theorem writeEncryptedAttachment_cases
    (store : FileStore) (disk : Disk) (attachmentId : QString)
    (bytes : QByteArray) (saved : Storage.SaveOutcome) :
    let written :=
      store.writeEncryptedAttachment disk attachmentId bytes saved
    written = (false, disk) ∨
      written =
        (true,
          Function.update disk
            (fileAt (store.encryptedAttachmentPath attachmentId))
            (some bytes)) := by
  intro written
  unfold written FileStore.writeEncryptedAttachment FileStore.saveFile
  split
  · exact Or.inr rfl
  · exact Or.inl rfl

theorem FilesSound.written
    (sound : FilesSound store server disk)
    {attachmentId : QString} (plain : (0x2F : UInt16) ∉ attachmentId)
    {bytes : QByteArray}
    (stored : ∀ number, attachmentId = attachmentIdOf number →
      bytes = [] ∨ bytes = server.blob (attachmentIdOf number))
    (saved : Storage.SaveOutcome) :
    FilesSound store server
      (store.writeEncryptedAttachment disk attachmentId bytes saved).2 := by
  intro number found isFile
  rcases writeEncryptedAttachment_cases store disk attachmentId bytes saved
    with kept | written
  · rw [kept] at isFile
    exact sound number found isFile
  · rw [written] at isFile
    dsimp only at isFile
    by_cases same :
        fileAt (store.encryptedAttachmentPath (attachmentIdOf number)) =
          fileAt (store.encryptedAttachmentPath attachmentId)
    · rw [same, Function.update_self] at isFile
      obtain rfl := Option.some.inj isFile
      exact stored number (eq_of_same_file
        (slash_notMem_attachmentIdOf number) plain same).symm
    · rw [Function.update_of_ne same] at isFile
      exact sound number found isFile

theorem FilesSound.mono
    {written : Option QString} {after : FakeVoxServer}
    (sound : FilesSound store server disk)
    (grown : Grown written server after) : FilesSound store after disk :=
  fun number bytes isFile => grown.stored (sound number bytes isFile)

end Files

/-! ## Calls under way -/

/-- The attachment that an upload has got the id of. -/
def AttachmentTask.held : AttachmentTask → Option QString
  | .initiating _ _ _ => none
  | .sending _ attachmentId => some attachmentId
  | .finalizing _ attachmentId => some attachmentId
  | .fetching _ => none

/-- What a call knows about the server: its attachment is reserved and empty
until its chunk has been accepted, and then has the chunk. -/
def AttachmentTask.Sound (server : FakeVoxServer) : AttachmentTask → Prop
  | .initiating _ ciphertext _ => ciphertext ≠ []
  | .sending ciphertext attachmentId =>
      ciphertext ≠ [] ∧ ∃ number < server.m_attachmentSeq,
        attachmentId = attachmentIdOf number ∧ server.blob attachmentId = []
  | .finalizing ciphertext attachmentId =>
      ciphertext ≠ [] ∧ ∃ number < server.m_attachmentSeq,
        attachmentId = attachmentIdOf number ∧
          server.blob attachmentId = ciphertext
  | .fetching attachmentId => (0x2F : UInt16) ∉ attachmentId

theorem AttachmentTask.Sound.numbered
    {task : AttachmentTask} {server : FakeVoxServer}
    (sound : task.Sound server) {attachmentId : QString}
    (isHeld : task.held = some attachmentId) :
    ∃ number, attachmentId = attachmentIdOf number := by
  cases task with
  | initiating _ _ _ => contradiction
  | sending _ _ =>
      obtain ⟨_, number, _, named, _⟩ := sound
      exact ⟨number, (Option.some.inj isHeld).symm.trans named⟩
  | finalizing _ _ =>
      obtain ⟨_, number, _, named, _⟩ := sound
      exact ⟨number, (Option.some.inj isHeld).symm.trans named⟩
  | fetching _ => contradiction

/-- Others write other attachments. -/
theorem AttachmentTask.Sound.mono
    {task : AttachmentTask} {before after : FakeVoxServer}
    {written : Option QString}
    (sound : task.Sound before) (grown : Grown written before after)
    (other : ∀ attachmentId, task.held = some attachmentId →
      written ≠ some attachmentId) :
    task.Sound after := by
  cases task with
  | initiating _ _ _ => exact sound
  | sending ciphertext attachmentId =>
      obtain ⟨nonempty, number, issued, rfl, nothing⟩ := sound
      refine ⟨nonempty, number, Nat.lt_of_lt_of_le issued grown.seq, rfl, ?_⟩
      rcases grown.blobs number with same | ⟨isWritten, _⟩
      · rw [same, nothing]
      · exact absurd isWritten (other _ rfl)
  | finalizing ciphertext attachmentId =>
      obtain ⟨nonempty, number, issued, rfl, stored⟩ := sound
      refine ⟨nonempty, number, Nat.lt_of_lt_of_le issued grown.seq, rfl, ?_⟩
      rw [grown.kept (by rw [stored]; exact nonempty), stored]
  | fetching _ => exact sound

def AttachmentClient.held (client : AttachmentClient) : Option QString :=
  client.work.bind fun work => work.2.held

def AttachmentProgress.held (progress : AttachmentProgress) :
    Option QString :=
  progress.task.bind AttachmentTask.held

/-- The client has the number of an attachment as its ticket. -/
def Holds {ι : Type} (clients : ι → AttachmentClient) (client : ι)
    (number : ℕ) : Prop :=
  (clients client).held = some (attachmentIdOf number)

theorem holds_progressed
    {ι : Type} [DecidableEq ι] {system : AttachmentSystem ι}
    {client agent : ι} {network : NetworkAccess}
    {progress : AttachmentProgress} {server : FakeVoxServer} {number : ℕ}
    (held : Holds (system.progressed client network progress
      server).2.clients agent number) :
    agent = client ∧ progress.held = some (attachmentIdOf number) ∨
      agent ≠ client ∧ Holds system.clients agent number := by
  change (Function.update system.clients client _ agent).held = _ at held
  by_cases same : agent = client
  · rw [same, Function.update_self] at held
    refine Or.inl ⟨same, ?_⟩
    rw [AttachmentClient.held, Option.bind_map] at held
    exact held
  · rw [Function.update_of_ne same] at held
    exact Or.inr ⟨same, held⟩

/-! ## The invariant -/

/-- The id that an upload has returned, with what it has uploaded. -/
def AttachmentReport.upload : AttachmentReport → Option (QString × QByteArray)
  | .uploaded ciphertext attachmentId =>
      attachmentId.map fun attachmentId => (attachmentId, ciphertext)
  | .downloaded _ _ => none

/-- What a download has returned, with the id that it was asked for. -/
def AttachmentReport.download :
    AttachmentReport → Option (QString × QByteArray)
  | .uploaded _ _ => none
  | .downloaded attachmentId bytes =>
      bytes.map fun bytes => (attachmentId, bytes)

/-- A download has brought what is stored under its id, or nothing. -/
def IsCopy (server : FakeVoxServer) (entry : QString × QByteArray) : Prop :=
  ∀ number, entry.1 = attachmentIdOf number →
    entry.2 = [] ∨ entry.2 = server.blob (attachmentIdOf number)

theorem IsCopy.mono
    {written : Option QString} {before after : FakeVoxServer}
    {entry : QString × QByteArray} (isCopy : IsCopy before entry)
    (grown : Grown written before after) : IsCopy after entry :=
  fun number named => grown.stored (isCopy number named)

/-- An upload that has returned is what is stored under its id. -/
def IsOriginal (server : FakeVoxServer) (entry : QString × QByteArray) :
    Prop :=
  entry.2 ≠ [] ∧ ∃ number, entry.1 = attachmentIdOf number ∧
    server.blob entry.1 = entry.2

theorem IsOriginal.mono
    {written : Option QString} {before after : FakeVoxServer}
    {entry : QString × QByteArray} (isOriginal : IsOriginal before entry)
    (grown : Grown written before after) : IsOriginal after entry := by
  obtain ⟨nonempty, number, named, stored⟩ := isOriginal
  refine ⟨nonempty, number, named, ?_⟩
  rw [named] at stored ⊢
  rw [grown.kept (by rw [stored]; exact nonempty), stored]

/-- After a run with these uploads and downloads. -/
structure Stored
    {ι : Type} (store : FileStore)
    (uploads downloads : List (QString × QByteArray))
    (system : AttachmentSystem ι) : Prop where
  tickets : ∃ spent, uploads.map Prod.fst = spent.map attachmentIdOf ∧
    Tickets.Kept system.server.m_attachmentSeq (Holds system.clients) spent
  unissued : system.server.Unissued
  tasks : ∀ client network task,
    (system.clients client).work = some (network, task) →
      task.Sound system.server
  files : ∀ client,
    FilesSound store system.server (system.clients client).disk
  uploaded : ∀ entry ∈ uploads, IsOriginal system.server entry
  downloaded : ∀ entry ∈ downloads, IsCopy system.server entry

section Invariant

variable {ι : Type} {store : FileStore}
  {uploads downloads : List (QString × QByteArray)}
  {system : AttachmentSystem ι}

theorem stored_start
    {starts : ι → Disk}
    (noFiles : ∀ client number,
      starts client
        (fileAt (store.encryptedAttachmentPath (attachmentIdOf number))) =
        none) :
    Stored store [] []
      { clients := fun client => { disk := starts client } } where
  tickets :=
    ⟨[], rfl, (Tickets.kept_start _).drop le_rfl fun _ _ held => by
      exact absurd held (by simp [Holds, AttachmentClient.held])⟩
  unissued := blob_start
  tasks _ _ _ absent := absurd absent (by simp)
  files client number bytes isFile := by
    exact absurd ((noFiles client number).symm.trans isFile) (by simp)
  uploaded _ absent := nomatch absent
  downloaded _ absent := nomatch absent

/-- The server grows, and nothing is written that anyone has a ticket for. -/
theorem Stored.grown
    (stored : Stored store uploads downloads system)
    {server : FakeVoxServer} (grown : Grown none system.server server) :
    Stored store uploads downloads ⟨server, system.clients⟩ where
  tickets := by
    obtain ⟨spent, returned, kept⟩ := stored.tickets
    exact ⟨spent, returned, kept.drop grown.seq fun _ _ held => held⟩
  unissued := grown.unissued
  tasks client network task isTask :=
    (stored.tasks client network task isTask).mono grown
      fun _ _ => Option.some_ne_none _ ∘ Eq.symm
  files client := (stored.files client).mono grown
  uploaded entry member := (stored.uploaded entry member).mono grown
  downloaded entry member := (stored.downloaded entry member).mono grown

variable [DecidableEq ι]

/-- A call of a client gets on, which may write the attachment that the client
has the ticket for. -/
theorem Stored.progressed
    (stored : Stored store uploads downloads system)
    (client : ι) (network : NetworkAccess)
    {progress : AttachmentProgress} {server : FakeVoxServer}
    {written : Option QString}
    (grown : Grown written system.server server)
    (own : ∀ attachmentId, written = some attachmentId →
      (system.clients client).held = some attachmentId)
    (tickets : ∀ spent, uploads.map Prod.fst = spent.map attachmentIdOf →
      Tickets.Kept system.server.m_attachmentSeq (Holds system.clients)
          spent →
        ∃ more,
          (progress.report.bind AttachmentReport.upload).toList.map Prod.fst =
              more.map attachmentIdOf ∧
            Tickets.Kept server.m_attachmentSeq
              (Holds (system.progressed client network progress
                server).2.clients) (spent ++ more))
    (task : ∀ task, progress.task = some task → task.Sound server)
    (files : FilesSound store server progress.disk)
    (upload : ∀ entry, progress.report.bind AttachmentReport.upload =
      some entry → IsOriginal server entry)
    (download : ∀ entry, progress.report.bind AttachmentReport.download =
      some entry → IsCopy server entry) :
    Stored store
      (uploads ++ (progress.report.bind AttachmentReport.upload).toList)
      (downloads ++ (progress.report.bind AttachmentReport.download).toList)
      (system.progressed client network progress server).2 where
  tickets := by
    obtain ⟨spent, returned, kept⟩ := stored.tickets
    obtain ⟨more, newReturned, newKept⟩ := tickets spent returned kept
    refine ⟨spent ++ more, ?_, newKept⟩
    rw [List.map_append, List.map_append, returned, newReturned]
  unissued := grown.unissued
  tasks other otherNetwork otherTask isTask := by
    change (Function.update system.clients client _ other).work = _ at isTask
    by_cases same : other = client
    · rw [same, Function.update_self] at isTask
      obtain ⟨found, isFound, equal⟩ := Option.map_eq_some_iff.mp isTask
      obtain ⟨rfl, rfl⟩ := Prod.mk.inj equal
      exact task found isFound
    · rw [Function.update_of_ne same] at isTask
      refine (stored.tasks other otherNetwork otherTask isTask).mono grown ?_
      intro attachmentId otherHolds isWritten
      have otherSound := stored.tasks other otherNetwork otherTask isTask
      obtain ⟨number, rfl⟩ := otherSound.numbered otherHolds
      obtain ⟨spent, _, kept⟩ := stored.tickets
      refine same (kept.holder other client number ?_ (own _ isWritten))
      rw [Holds, AttachmentClient.held, isTask]
      exact otherHolds
  files other := by
    change FilesSound store server
      (Function.update system.clients client _ other).disk
    by_cases same : other = client
    · rw [same, Function.update_self]
      exact files
    · rw [Function.update_of_ne same]
      exact (stored.files other).mono grown
  uploaded entry member := by
    rcases List.mem_append.mp member with old | new
    · exact (stored.uploaded entry old).mono grown
    · exact upload entry (Option.mem_toList.mp new)
  downloaded entry member := by
    rcases List.mem_append.mp member with old | new
    · exact (stored.downloaded entry old).mono grown
    · exact download entry (Option.mem_toList.mp new)

/-- A call gets on without returning an id, and at most keeps its ticket. -/
theorem Stored.progressed_quiet
    (stored : Stored store uploads downloads system)
    (client : ι) (network : NetworkAccess)
    {progress : AttachmentProgress} {server : FakeVoxServer}
    {written : Option QString}
    (grown : Grown written system.server server)
    (own : ∀ attachmentId, written = some attachmentId →
      (system.clients client).held = some attachmentId)
    (noUpload : progress.report.bind AttachmentReport.upload = none)
    (holds : ∀ attachmentId, progress.held = some attachmentId →
      (system.clients client).held = some attachmentId)
    (task : ∀ task, progress.task = some task → task.Sound server)
    (files : FilesSound store server progress.disk)
    (download : ∀ entry, progress.report.bind AttachmentReport.download =
      some entry → IsCopy server entry) :
    Stored store
      (uploads ++ (progress.report.bind AttachmentReport.upload).toList)
      (downloads ++ (progress.report.bind AttachmentReport.download).toList)
      (system.progressed client network progress server).2 := by
  refine stored.progressed client network grown own ?_ task files ?_ download
  · intro spent _ kept
    rw [noUpload]
    refine ⟨[], rfl, ?_⟩
    rw [List.append_nil]
    refine kept.drop grown.seq fun agent number held => ?_
    rcases holds_progressed held with ⟨rfl, isHeld⟩ | ⟨_, before⟩
    · exact holds _ isHeld
    · exact before
  · rw [noUpload]
    exact nofun

end Invariant

end Integration
end VoxDesktop
