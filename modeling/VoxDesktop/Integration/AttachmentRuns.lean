import VoxDesktop.Crypto.AttachmentCrypto
import VoxDesktop.Integration.AttachmentTickets

/-!
# Attachments over whole runs

However the requests of uploads and downloads are mixed, lost and broken off:
no two uploads get one id, and what is downloaded under an id is what has been
uploaded under it, or nothing when it is asked for too early.
-/

namespace VoxDesktop
namespace Integration

open Library Qt Crypto Network Storage Services FakeVoxServer

/-! ## Steps -/

/-- Nobody else writes under an id that the server hands out, before it does or
after, and an id that is asked for has no slash. -/
def AttachmentEvent.Allowed {ι : Type} : AttachmentEvent ι → Prop
  | .server (.request request _) =>
      ∀ number, chunkTarget request ≠ some (attachmentIdOf number)
  | .download _ _ attachmentId _ => (0x2F : UInt16) ∉ attachmentId
  | _ => True

section Steps

variable {json : QJsonDocument} {sha256 : QByteArray → QByteArray}
  {store : FileStore} {ι : Type}
  {uploads downloads : List (QString × QByteArray)}
  {system : AttachmentSystem ι}

theorem Stored.server
    (stored : Stored store uploads downloads system) {event : ServerEvent}
    (allowed : (AttachmentEvent.server event : AttachmentEvent ι).Allowed) :
    Grown none system.server (serverStep json system.server event).2 := by
  cases event with
  | request request moment => exact grown_handle stored.unissued allowed
  | forceUnauthorized value =>
      exact ⟨Nat.le_refl _, stored.unissued, fun _ => Or.inl rfl⟩
  | failNextSend value =>
      exact ⟨Nat.le_refl _, stored.unissued, fun _ => Or.inl rfl⟩

variable [DecidableEq ι]

theorem Stored.upload
    (stored : Stored store uploads downloads system)
    (client : ι) (network : NetworkAccess) (conversationId : QString)
    (ciphertext : QByteArray) (mimeHint : QString) :
    let progress := beginUpload (system.clients client).disk conversationId
      ciphertext mimeHint
    Stored store
      (uploads ++ (progress.report.bind AttachmentReport.upload).toList)
      (downloads ++ (progress.report.bind AttachmentReport.download).toList)
      (system.progressed client network progress system.server).2 := by
  intro progress
  have same : Grown none system.server system.server := .refl stored.unissued
  unfold progress beginUpload
  by_cases empty : conversationId = [] ∨ ciphertext = []
  · rw [if_pos empty]
    exact stored.progressed_quiet client network same
      of_none rfl of_none of_none (stored.files client) of_none
  · rw [if_neg empty]
    refine stored.progressed_quiet client network same
      of_none rfl of_none ?_ (stored.files client) of_none
    intro task isTask
    obtain rfl := Option.some.inj isTask
    exact fun isEmpty => empty (Or.inr isEmpty)

theorem Stored.download
    (stored : Stored store uploads downloads system)
    (client : ι) (network : NetworkAccess) {attachmentId : QString}
    (plain : (0x2F : UInt16) ∉ attachmentId) (opens : Bool) :
    let progress := beginDownload store (system.clients client).disk
      attachmentId opens
    Stored store
      (uploads ++ (progress.report.bind AttachmentReport.upload).toList)
      (downloads ++ (progress.report.bind AttachmentReport.download).toList)
      (system.progressed client network progress system.server).2 := by
  intro progress
  have same : Grown none system.server system.server := .refl stored.unissued
  unfold progress beginDownload
  cases isRead : store.readEncryptedAttachment (system.clients client).disk
      attachmentId opens with
  | none =>
      refine stored.progressed_quiet client network same
        of_none rfl of_none ?_ (stored.files client) of_none
      intro task isTask
      obtain rfl := Option.some.inj isTask
      exact plain
  | some bytes =>
      refine stored.progressed_quiet client network same
        of_none rfl of_none of_none (stored.files client) ?_
      intro entry isEntry number named
      obtain rfl := Option.some.inj isEntry
      dsimp only at named ⊢
      rw [FileStore.readEncryptedAttachment] at isRead
      split at isRead
      · exact stored.files client number bytes (named ▸ isRead)
      · contradiction

/-- A reservation is answered. -/
theorem Stored.initiating
    (roundTrips : json.RoundTrips)
    (stored : Stored store uploads downloads system)
    {client : ι} {network : NetworkAccess}
    {conversationId mimeHint : QString} {ciphertext : QByteArray}
    (isWork : (system.clients client).work =
      some (network, .initiating conversationId ciphertext mimeHint))
    (exchange : Exchange) (saved : Storage.SaveOutcome) :
    let task :=
      AttachmentTask.initiating conversationId ciphertext mimeHint
    let result := exchanged json system.server network
      (task.request json network sha256) exchange
    let progress := task.resume json store (system.clients client).disk
      result.1 saved
    Stored store
      (uploads ++ (progress.report.bind AttachmentReport.upload).toList)
      (downloads ++ (progress.report.bind AttachmentReport.download).toList)
      (system.progressed client network progress result.2).2 := by
  intro task result progress
  obtain ⟨grown, reserved⟩ := exchanged_uploadInit roundTrips stored.unissued
    network ⟨conversationId, ciphertext.length, mimeHint⟩ exchange
  have nonempty : ciphertext ≠ [] := stored.tasks client network task isWork
  have files := (stored.files client).mono grown
  unfold progress AttachmentTask.resume
  dsimp only [task]
  cases accepted : (AttachmentsApi.uploadInit json result.1).accepted with
  | none =>
      exact stored.progressed_quiet client network grown of_none rfl of_none
        of_none files of_none
  | some init =>
      obtain ⟨named, later⟩ := reserved init accepted
      obtain ⟨_, blobPath⟩ := init
      dsimp only at named
      subst named
      refine stored.progressed client network grown of_none ?_ ?_ files of_none
        of_none
      · intro spent _ kept
        refine ⟨[], rfl, ?_⟩
        rw [List.append_nil]
        refine @Tickets.Kept.take _ _ _ _ _ kept _ later client ?_
        intro agent number held
        rcases holds_progressed held with ⟨same, isHeld⟩ | ⟨_, before⟩
        · exact Or.inr ⟨same,
            (attachmentIdOf_injective (Option.some.inj isHeld)).symm⟩
        · exact Or.inl before
      · intro next isNext
        obtain rfl := Option.some.inj isNext
        refine ⟨nonempty, _, later, rfl, ?_⟩
        have nothing := stored.unissued system.server.m_attachmentSeq le_rfl
        rcases grown.blobs system.server.m_attachmentSeq with same | ⟨_, _⟩
        · exact same.trans nothing
        · contradiction

/-- A chunk that has been put is answered. -/
theorem Stored.sending
    (stored : Stored store uploads downloads system)
    {client : ι} {network : NetworkAccess}
    {ciphertext : QByteArray} {attachmentId : QString}
    (isWork : (system.clients client).work =
      some (network, .sending ciphertext attachmentId))
    (exchange : Exchange) (saved : Storage.SaveOutcome) :
    let task := AttachmentTask.sending ciphertext attachmentId
    let result := exchanged json system.server network
      (task.request json network sha256) exchange
    let progress := task.resume json store (system.clients client).disk
      result.1 saved
    Stored store
      (uploads ++ (progress.report.bind AttachmentReport.upload).toList)
      (downloads ++ (progress.report.bind AttachmentReport.download).toList)
      (system.progressed client network progress result.2).2 := by
  intro task result progress
  obtain ⟨nonempty, number, issued, rfl, nothing⟩ :=
    stored.tasks client network task isWork
  obtain ⟨grown, isWritten⟩ := exchanged_uploadChunk stored.unissued network
    issued nothing ciphertext exchange
  have files := (stored.files client).mono grown
  have holding : (system.clients client).held =
      some (attachmentIdOf number) := by
    rw [AttachmentClient.held, isWork]
    rfl
  have own : ∀ written, some (attachmentIdOf number) = some written →
      (system.clients client).held = some written :=
    fun _ same => holding.trans same
  unfold progress AttachmentTask.resume
  dsimp only [task]
  split
  · exact stored.progressed_quiet client network grown own rfl of_none of_none
      files of_none
  · rename_i works
    refine stored.progressed_quiet client network grown own rfl own ?_ files
      of_none
    intro next isNext
    obtain rfl := Option.some.inj isNext
    exact ⟨nonempty, number, Nat.lt_of_lt_of_le issued grown.seq, rfl,
      isWritten (Bool.not_eq_false _ ▸ works)⟩

/-- The end of an upload is answered. -/
theorem Stored.finalizing
    (stored : Stored store uploads downloads system)
    {client : ι} {network : NetworkAccess}
    {ciphertext : QByteArray} {attachmentId : QString}
    (isWork : (system.clients client).work =
      some (network, .finalizing ciphertext attachmentId))
    (exchange : Exchange) (saved : Storage.SaveOutcome) :
    let task := AttachmentTask.finalizing ciphertext attachmentId
    let result := exchanged json system.server network
      (task.request json network sha256) exchange
    let progress := task.resume json store (system.clients client).disk
      result.1 saved
    Stored store
      (uploads ++ (progress.report.bind AttachmentReport.upload).toList)
      (downloads ++ (progress.report.bind AttachmentReport.download).toList)
      (system.progressed client network progress result.2).2 := by
  intro task result progress
  obtain ⟨nonempty, number, issued, rfl, isStored⟩ :=
    stored.tasks client network task isWork
  have grown : Grown none system.server result.2 := by
    refine grown_exchanged stored.unissued (fun _ => ?_) exchange
    rw [chunkTarget_of_ne (show QString.literal "POST" ≠
      QString.literal "PUT" by decide)]
    exact (Option.some_ne_none _).symm
  have stillStored : result.2.blob (attachmentIdOf number) = ciphertext := by
    rw [grown.kept (by rw [isStored]; exact nonempty), isStored]
  have files := (stored.files client).mono grown
  unfold progress AttachmentTask.resume
  dsimp only [task]
  split
  · exact stored.progressed_quiet client network grown of_none rfl of_none
      of_none files of_none
  have isBlob : ∀ other, attachmentIdOf number = attachmentIdOf other →
      ciphertext = [] ∨ ciphertext = result.2.blob (attachmentIdOf other) :=
    fun _ same => Or.inr (same ▸ stillStored.symm)
  have saves := files.written (slash_notMem_attachmentIdOf number) isBlob
    saved
  split
  · rename_i isSaved
    refine stored.progressed client network grown of_none ?_ of_none saves ?_
      of_none
    · intro spent _ kept
      refine ⟨[number], rfl, ?_⟩
      have holding : Holds system.clients client number := by
        rw [Holds, AttachmentClient.held, isWork]
        rfl
      refine (kept.spend holding fun agent other held => ?_).drop grown.seq
        fun _ _ held => held
      rcases holds_progressed held with ⟨_, isHeld⟩ | ⟨different, before⟩
      · contradiction
      · refine ⟨before, ?_⟩
        rintro rfl
        exact different (kept.holder agent client _ before holding)
    · intro entry isEntry
      obtain rfl := Option.some.inj isEntry
      exact ⟨nonempty, number, rfl, stillStored⟩
  · exact stored.progressed_quiet client network grown of_none rfl of_none
      of_none saves of_none

/-- A download is answered. -/
theorem Stored.fetching
    (stored : Stored store uploads downloads system)
    {client : ι} {network : NetworkAccess} {attachmentId : QString}
    (isWork : (system.clients client).work =
      some (network, .fetching attachmentId))
    (exchange : Exchange) (saved : Storage.SaveOutcome) :
    let task := AttachmentTask.fetching attachmentId
    let result := exchanged json system.server network
      (task.request json network sha256) exchange
    let progress := task.resume json store (system.clients client).disk
      result.1 saved
    Stored store
      (uploads ++ (progress.report.bind AttachmentReport.upload).toList)
      (downloads ++ (progress.report.bind AttachmentReport.download).toList)
      (system.progressed client network progress result.2).2 := by
  intro task result progress
  have plain : (0x2F : UInt16) ∉ attachmentId :=
    stored.tasks client network task isWork
  have grown : Grown none system.server result.2 := by
    refine grown_exchanged stored.unissued (fun _ => ?_) exchange
    rw [chunkTarget_of_ne (show QString.literal "GET" ≠
      QString.literal "PUT" by decide)]
    exact (Option.some_ne_none _).symm
  have files := (stored.files client).mono grown
  unfold progress AttachmentTask.resume
  dsimp only [task]
  cases accepted : (AttachmentsApi.download json result.1).accepted with
  | none =>
      exact stored.progressed_quiet client network grown of_none rfl of_none
        of_none files of_none
  | some bytes =>
      have isCopy : IsCopy result.2 (attachmentId, bytes) := by
        intro number named
        dsimp only at named ⊢
        subst named
        exact grown.stored (Or.inr
          (exchanged_download network number exchange bytes accepted))
      refine stored.progressed_quiet client network grown of_none rfl of_none
        of_none
        (files.written plain (fun number named => isCopy number named) saved)
        ?_
      intro entry isEntry
      dsimp only at isEntry
      split at isEntry
      · obtain rfl := Option.some.inj isEntry
        exact isCopy
      · contradiction

/-- An event keeps the invariant. -/
theorem Stored.step
    (roundTrips : json.RoundTrips)
    (stored : Stored store uploads downloads system)
    {event : AttachmentEvent ι} (allowed : event.Allowed) :
    let result := attachmentStep json sha256 store system event
    Stored store
      (uploads ++ (result.1.bind AttachmentReport.upload).toList)
      (downloads ++ (result.1.bind AttachmentReport.download).toList)
      result.2 := by
  have unchanged : Stored store (uploads ++ []) (downloads ++ []) system := by
    rw [List.append_nil, List.append_nil]
    exact stored
  intro result
  unfold result
  cases event with
  | server event => exact unchanged.grown (stored.server allowed)
  | upload client network conversationId ciphertext mimeHint =>
      unfold attachmentStep
      dsimp only
      cases (system.clients client).work with
      | some work => exact unchanged
      | none =>
          exact stored.upload client network conversationId ciphertext
            mimeHint
  | download client network attachmentId opens =>
      unfold attachmentStep
      dsimp only
      cases (system.clients client).work with
      | some work => exact unchanged
      | none => exact stored.download client network allowed opens
  | exchange client exchange saved =>
      unfold attachmentStep
      dsimp only
      cases isWork : (system.clients client).work with
      | none => exact unchanged
      | some work =>
          obtain ⟨network, task⟩ := work
          cases task with
          | initiating _ _ _ =>
              exact stored.initiating roundTrips isWork exchange saved
          | sending _ _ => exact stored.sending isWork exchange saved
          | finalizing _ _ => exact stored.finalizing isWork exchange saved
          | fetching _ => exact stored.fetching isWork exchange saved
  | stopped client =>
      let progress : AttachmentProgress :=
        { disk := (system.clients client).disk }
      have same : Grown none system.server system.server :=
        .refl stored.unissued
      have stopped : Stored store _ _
          (system.progressed client ⟨[], []⟩ progress system.server).2 :=
        stored.progressed_quiet client ⟨[], []⟩ same of_none rfl of_none of_none
          (stored.files client) of_none
      exact stopped

end Steps

/-! ## Runs -/

/-- The client that an event belongs to, if to any. -/
def AttachmentEvent.client {ι : Type} : AttachmentEvent ι → Option ι
  | .server _ => none
  | .upload client _ _ _ _ => some client
  | .download client _ _ _ => some client
  | .exchange client _ _ => some client
  | .stopped client => some client

section Runs

variable (json : QJsonDocument) (sha256 : QByteArray → QByteArray)
  (store : FileStore) {ι : Type} [DecidableEq ι]

/-- The ids that uploads of a run have returned, each with what has been
uploaded. -/
def uploadsOf (starts : ι → Disk) (events : List (AttachmentEvent ι)) :
    List (QString × QByteArray) :=
  Machine.observed
    (fun system event =>
      (attachmentStep json sha256 store system event).1.bind
        AttachmentReport.upload)
    (attachmentStep json sha256 store)
    { clients := fun client => { disk := starts client } } events

/-- What downloads of a run have returned, each with its id. -/
def downloadsOf (starts : ι → Disk) (events : List (AttachmentEvent ι)) :
    List (QString × QByteArray) :=
  Machine.observed
    (fun system event =>
      (attachmentStep json sha256 store system event).1.bind
        AttachmentReport.download)
    (attachmentStep json sha256 store)
    { clients := fun client => { disk := starts client } } events

variable {json sha256 store} {starts : ι → Disk}

theorem attachmentsAfter_append (first second : List (AttachmentEvent ι)) :
    attachmentsAfter json sha256 store starts (first ++ second) =
      Machine.run (attachmentStep json sha256 store)
        (attachmentsAfter json sha256 store starts first) second :=
  Machine.run_append _ _ _ _

theorem stored_attachmentsAfter
    (roundTrips : json.RoundTrips)
    (noFiles : ∀ client number,
      starts client
        (fileAt (store.encryptedAttachmentPath (attachmentIdOf number))) =
        none)
    {events : List (AttachmentEvent ι)}
    (allowed : ∀ event ∈ events, event.Allowed) :
    Stored store (uploadsOf json sha256 store starts events)
      (downloadsOf json sha256 store starts events)
      (attachmentsAfter json sha256 store starts events) := by
  induction events using List.reverseRecOn with
  | nil => exact stored_start noFiles
  | append_singleton earlier event inductionHypothesis =>
      have before := inductionHypothesis
        fun event member => allowed event (List.mem_append_left _ member)
      have uploads : uploadsOf json sha256 store starts
          (earlier ++ [event]) = _ := Machine.observed_concat _ _ _
      have downloads : downloadsOf json sha256 store starts
          (earlier ++ [event]) = _ := Machine.observed_concat _ _ _
      rw [attachmentsAfter_append, uploads, downloads]
      exact before.step roundTrips
        (allowed event (List.mem_append_right _ (List.mem_singleton_self _)))

/-- Events of others leave a client alone. -/
theorem attachmentStep_clients_of_ne
    (system : AttachmentSystem ι) {client : ι} {event : AttachmentEvent ι}
    (other : event.client ≠ some client) :
    (attachmentStep json sha256 store system event).2.clients client =
      system.clients client := by
  have aside : ∀ {actor : ι}, some actor ≠ some client →
      ∀ after, Function.update system.clients actor after client =
        system.clients client :=
    fun different after => Function.update_of_ne
      (fun same => different (congrArg some same.symm)) _ _
  cases event with
  | server event => rfl
  | upload actor network conversationId ciphertext mimeHint =>
      unfold attachmentStep
      dsimp only
      split
      · rfl
      · exact aside other _
  | download actor network attachmentId opens =>
      unfold attachmentStep
      dsimp only
      split
      · rfl
      · exact aside other _
  | exchange actor exchange saved =>
      unfold attachmentStep
      dsimp only
      split
      · rfl
      · exact aside other _
  | stopped actor => exact aside other _

theorem run_clients_of_others
    (system : AttachmentSystem ι) {client : ι}
    {events : List (AttachmentEvent ι)}
    (others : ∀ event ∈ events, event.client ≠ some client) :
    (Machine.run (attachmentStep json sha256 store) system events).clients
        client = system.clients client := by
  refine Machine.run_invariant_of_eachStep
    (fun reached : AttachmentSystem ι => reached.clients client = _)
    (fun _ event => event.client ≠ some client) ?_ rfl
    (Machine.eachStep_of_forall _ (fun event member _ => others event member)
      _)
  intro reached event same other
  rw [attachmentStep_clients_of_ne reached other, same]

end Runs

/-! ## Results -/

/-- Over every run in which nobody else writes under the ids that are handed out
sooner or later: no two uploads return one id, and whatever a download of the id of
an upload returns, before the upload is over or after, and whatever a client
has in its file, is what has been uploaded or is empty. -/
theorem downloads_bring_uploads
    {ι : Type} [DecidableEq ι]
    (json : QJsonDocument)
    (sha256 : QByteArray → QByteArray)
    (store : FileStore)
    (starts : ι → Disk)
    (events : List (AttachmentEvent ι))
    (roundTrips : json.RoundTrips)
    (noFiles : ∀ client number,
      starts client
        (fileAt (store.encryptedAttachmentPath (attachmentIdOf number))) =
        none)
    (allowed : ∀ event ∈ events, event.Allowed) :
    let uploads := uploadsOf json sha256 store starts events
    let downloads := downloadsOf json sha256 store starts events
    let system := attachmentsAfter json sha256 store starts events
    (uploads.map Prod.fst).Nodup ∧
      ∀ upload ∈ uploads,
        (∀ download ∈ downloads, download.1 = upload.1 →
          download.2 = [] ∨ download.2 = upload.2) ∧
        ∀ client bytes,
          (system.clients client).disk
              (fileAt (store.encryptedAttachmentPath upload.1)) =
              some bytes →
            bytes = [] ∨ bytes = upload.2 := by
  intro uploads downloads system
  have stored : Stored store uploads downloads system :=
    stored_attachmentsAfter roundTrips noFiles allowed
  constructor
  · obtain ⟨spent, returned, kept⟩ := stored.tickets
    rw [returned]
    exact kept.distinct.map attachmentIdOf_injective
  · intro upload isUpload
    obtain ⟨_, number, named, original⟩ := stored.uploaded upload isUpload
    rw [named] at original ⊢
    constructor
    · intro download isDownload same
      rw [← original]
      exact stored.downloaded download isDownload number same
    · intro client bytes isFile
      rw [← original]
      exact stored.files client number bytes isFile

section Examples

namespace ReferenceAttachments

def store : FileStore := ⟨QString.literal "/data"⟩

def network : NetworkAccess :=
  ⟨QString.literal "http://s", QString.literal "acc_usr_1"⟩

def moment : Moment := ⟨1, 2, 3, id, List.Perm.refl⟩

/-- Alice registers. -/
def registering : AttachmentEvent Bool :=
  .server (.request
    ⟨QString.literal "POST", QString.literal "/v1/register",
      ReferenceJson.json.toJson
        [stringMember "username" (QString.literal "alice"),
          stringMember "password_derived_value" (QString.literal "p"),
          stringMember "device_id" (QString.literal "d")], []⟩ moment)

def answering (client : Bool) : AttachmentEvent Bool :=
  .exchange client ⟨moment, .delivered⟩ ⟨true, true⟩

def downloading : AttachmentEvent Bool :=
  .download true network (QString.literal "att_1") true

def key32 : QByteArray := List.replicate kChaCha20KeyBytes 7

def drawn : List.Vector UInt8 kChaCha20NonceBytes :=
  List.Vector.replicate kChaCha20NonceBytes 1

def plaintext : QByteArray := QByteArray.literal "hi"

def digest (_ : QByteArray) : List.Vector UInt8 kSha256Bytes :=
  List.Vector.replicate kSha256Bytes 0

def chunk : EncryptedAttachmentChunk where
  nonce := drawn.toList
  ciphertext :=
    CryptoHelpers.aeadEncrypt ReferenceSodium.sodium key32 drawn.toList
      plaintext []
  sha256 := List.replicate kSha256Bytes 0

/-- One client uploads the chunk. -/
def uploading : List (AttachmentEvent Bool) :=
  [registering,
    .upload false network (QString.literal "c1") chunk.ciphertext [],
    answering false, answering false, answering false]

def noFiles (_ : Bool) : Disk := fun _ => none

theorem allowed_registering : registering.Allowed := by
  intro number
  rw [chunkTarget_of_ne (show QString.literal "POST" ≠
    QString.literal "PUT" by decide)]
  exact nofun

theorem allowed_uploading : ∀ event ∈ uploading, event.Allowed := by
  intro event member
  simp only [uploading, List.mem_cons, List.not_mem_nil, or_false] at member
  rcases member with rfl | rfl | rfl | rfl | rfl
  · exact allowed_registering
  all_goals trivial

end ReferenceAttachments

open ReferenceAttachments

/-- The upload has the first id, and the other client gets what has been
uploaded. -/
theorem first_upload_comes_back :
    uploadsOf ReferenceJson.json id store noFiles
        (uploading ++ [downloading, answering true]) =
        [(QString.literal "att_1", chunk.ciphertext)] ∧
      ∀ download ∈ downloadsOf ReferenceJson.json id store noFiles
          (uploading ++ [downloading, answering true]),
        download.1 = QString.literal "att_1" →
          download.2 = [] ∨ download.2 = chunk.ciphertext := by
  have uploads : uploadsOf ReferenceJson.json id store noFiles
      (uploading ++ [downloading, answering true]) =
        [(QString.literal "att_1", chunk.ciphertext)] := by decide +kernel
  refine ⟨uploads, ?_⟩
  have allowed : ∀ event ∈ uploading ++ [downloading, answering true],
      event.Allowed := by
    intro event member
    rcases List.mem_append.mp member with old | new
    · exact allowed_uploading event old
    · simp only [List.mem_cons, List.not_mem_nil, or_false] at new
      rcases new with rfl | rfl
      · exact (by decide : (0x2F : UInt16) ∉ QString.literal "att_1")
      · trivial
  refine ((downloads_bring_uploads ReferenceJson.json id store noFiles _
    ReferenceJson.json_roundTrips (fun _ _ => rfl) allowed).2
    (QString.literal "att_1", chunk.ciphertext) ?_).1
  rw [uploads]
  exact List.mem_singleton_self _

end Examples

section Deliveries

variable {json : QJsonDocument} {sha256 : QByteArray → QByteArray}
  {store : FileStore} {ι : Type} [DecidableEq ι]
  {system : AttachmentSystem ι} {client : ι} {network : NetworkAccess}

/-- A download either ends with the file of the client or asks the server. -/
theorem attachmentStep_download
    (idle : (system.clients client).work = none)
    (attachmentId : QString) (opens : Bool) :
    let result := attachmentStep json sha256 store system
      (.download client network attachmentId opens)
    (∃ bytes,
        (system.clients client).disk
            (fileAt (store.encryptedAttachmentPath attachmentId)) =
            some bytes ∧
          result.1 = some (.downloaded attachmentId (some bytes))) ∨
      result.1 = none ∧
        (result.2.clients client).work =
          some (network, .fetching attachmentId) := by
  intro result
  unfold result attachmentStep
  dsimp only
  rw [idle]
  dsimp only [AttachmentSystem.progressed]
  rw [Function.update_self, beginDownload]
  cases isRead : store.readEncryptedAttachment (system.clients client).disk
      attachmentId opens with
  | none => exact Or.inr ⟨rfl, rfl⟩
  | some bytes =>
      rw [FileStore.readEncryptedAttachment] at isRead
      split at isRead
      · exact Or.inl ⟨bytes, isRead, rfl⟩
      · contradiction

/-- A download whose request and answer get through brings what is stored. -/
theorem attachmentStep_fetching
    {number : ℕ}
    (isWork : (system.clients client).work =
      some (network, .fetching (attachmentIdOf number)))
    (authorized : system.server.authUserFromHeaders
      (AttachmentsApi.downloadRequest network
        (attachmentIdOf number)).1.headers ≠ [])
    (moment : Moment) {saved : Storage.SaveOutcome}
    (saves : (saved.opened && saved.committed) = true) :
    (attachmentStep json sha256 store system
      (.exchange client ⟨moment, .delivered⟩ saved)).1 =
      some (.downloaded (attachmentIdOf number)
        (some (system.server.blob (attachmentIdOf number)))) := by
  have answered : exchanged json system.server network
      (AttachmentsApi.downloadRequest network (attachmentIdOf number))
      ⟨moment, .delivered⟩ =
        (⟨kHttpOk, system.server.blob (attachmentIdOf number), []⟩,
          system.server) := by
    refine (handle_download number).trans ?_
    rw [if_neg authorized]
  unfold attachmentStep
  dsimp only
  rw [isWork]
  dsimp only [AttachmentTask.request, AttachmentSystem.progressed]
  rw [answered]
  have written : ∀ disk bytes, (store.writeEncryptedAttachment disk
      (attachmentIdOf number) bytes saved).1 = true := by
    intro disk bytes
    rw [FileStore.writeEncryptedAttachment, FileStore.saveFile, if_pos saves]
  have accepted : (AttachmentsApi.download json
      ⟨kHttpOk, system.server.blob (attachmentIdOf number), []⟩).accepted =
        some (system.server.blob (attachmentIdOf number)) := rfl
  dsimp only [AttachmentTask.resume]
  rw [accepted]
  dsimp only
  rw [if_pos (written _ _)]

end Deliveries

/-- Over every run: an encrypted chunk has been uploaded, and the upload has
returned.  Whatever the others do, a client that has not asked too early and
has no call under way downloads it: from its file, or from the server when its
request is recognised and gets through and the file can be written.  What it
gets opens to what has been encrypted. -/
theorem uploaded_chunk_opens_elsewhere
    {ι : Type} [DecidableEq ι]
    (json : QJsonDocument)
    (sodium : Sodium)
    (hash : QByteArray → List.Vector UInt8 kSha256Bytes)
    (sha256 : QByteArray → QByteArray)
    (store : FileStore)
    (starts : ι → Disk)
    (earlier between : List (AttachmentEvent ι))
    (client : ι)
    (network : NetworkAccess)
    (attachmentId : QString)
    (opens : Bool)
    (moment : Moment)
    (saved : Storage.SaveOutcome)
    (drawn : List.Vector UInt8 kChaCha20NonceBytes)
    (key32 plaintext ad : QByteArray)
    (chunk : EncryptedAttachmentChunk)
    (roundTrips : json.RoundTrips)
    (correct : sodium.AeadCorrect)
    (noFiles : ∀ client number,
      starts client
        (fileAt (store.encryptedAttachmentPath (attachmentIdOf number))) =
        none)
    (allowed : ∀ event ∈
      earlier ++ .download client network attachmentId opens :: between,
        event.Allowed)
    (encrypted : AttachmentCrypto.encryptChunk sodium hash drawn key32
      plaintext ad = some chunk)
    (returned : (attachmentId, chunk.ciphertext) ∈
      uploadsOf json sha256 store starts earlier)
    (idle : ((attachmentsAfter json sha256 store starts earlier).clients
      client).work = none)
    (notEarly : ((attachmentsAfter json sha256 store starts earlier).clients
      client).disk (fileAt (store.encryptedAttachmentPath attachmentId)) ≠
        some [])
    (others : ∀ event ∈ between, event.client ≠ some client)
    (authorized :
      (attachmentsAfter json sha256 store starts
        (earlier ++ .download client network attachmentId opens ::
          between)).server.authUserFromHeaders
        (AttachmentsApi.downloadRequest network attachmentId).1.headers ≠ [])
    (saves : (saved.opened && saved.committed) = true) :
    let first := (attachmentStep json sha256 store
      (attachmentsAfter json sha256 store starts earlier)
      (.download client network attachmentId opens)).1
    let last := (attachmentStep json sha256 store
      (attachmentsAfter json sha256 store starts
        (earlier ++ .download client network attachmentId opens :: between))
      (.exchange client ⟨moment, .delivered⟩ saved)).1
    ∃ bytes,
      (first = some (.downloaded attachmentId (some bytes)) ∨
        first = none ∧
          last = some (.downloaded attachmentId (some bytes))) ∧
        AttachmentCrypto.decryptChunk sodium key32 chunk.nonce bytes ad =
          some plaintext := by
  intro first last
  refine ⟨chunk.ciphertext, ?_,
    (AttachmentCrypto.decryptChunk_of_encryptChunk correct encrypted).2⟩
  have allowedEarlier : ∀ event ∈ earlier, event.Allowed :=
    fun event member => allowed event (List.mem_append_left _ member)
  have stored := @stored_attachmentsAfter json sha256 store ι _ starts
    roundTrips noFiles earlier allowedEarlier
  have storedLater := @stored_attachmentsAfter json sha256 store ι _ starts
    roundTrips noFiles _ allowed
  have stillReturned : (attachmentId, chunk.ciphertext) ∈
      uploadsOf json sha256 store starts
        (earlier ++ .download client network attachmentId opens ::
          between) := by
    rw [uploadsOf, Machine.observed_append]
    exact List.mem_append_left _ returned
  obtain ⟨_, number, named, original⟩ := stored.uploaded _ returned
  obtain ⟨_, _, _, originalLater⟩ := storedLater.uploaded _ stillReturned
  dsimp only at named original originalLater
  subst named
  rcases @attachmentStep_download json sha256 store ι _ _ client network idle
      (attachmentIdOf number) opens with
    ⟨bytes, isFile, isFirst⟩ | ⟨isFirst, isWork⟩
  · left
    rcases stored.files client number bytes isFile with rfl | rfl
    · exact absurd isFile notEarly
    · rw [original] at isFirst
      exact isFirst
  · right
    refine ⟨isFirst, ?_⟩
    rw [← originalLater]
    refine attachmentStep_fetching ?_ authorized moment saves
    rw [attachmentsAfter_append, Machine.run_cons,
      run_clients_of_others _ others]
    exact isWork

section Examples

open ReferenceAttachments

theorem encrypted_chunk :
    AttachmentCrypto.encryptChunk ReferenceSodium.sodium digest drawn key32
      plaintext [] = some chunk := by
  rfl

/-- The other client downloads the chunk and reads the text. -/
theorem chunk_opens_elsewhere :
    ∃ bytes,
      (attachmentStep ReferenceJson.json id store
        (attachmentsAfter ReferenceJson.json id store noFiles
          (uploading ++
            .download true network (QString.literal "att_1") true :: []))
        (.exchange true ⟨moment, .delivered⟩ ⟨true, true⟩)).1 =
          some (.downloaded (QString.literal "att_1") (some bytes)) ∧
        AttachmentCrypto.decryptChunk ReferenceSodium.sodium key32
          chunk.nonce bytes [] = some plaintext := by
  have returned : (QString.literal "att_1", chunk.ciphertext) ∈
      uploadsOf ReferenceJson.json id store noFiles uploading := by
    decide +kernel
  have idle : ((attachmentsAfter ReferenceJson.json id store noFiles
      uploading).clients true).work.isNone = true := by decide +kernel
  have noFile : ((attachmentsAfter ReferenceJson.json id store noFiles
      uploading).clients true).disk (fileAt
        (store.encryptedAttachmentPath (QString.literal "att_1"))) ≠
          some [] := by decide +kernel
  have authorized : (attachmentsAfter ReferenceJson.json id store noFiles
      (uploading ++ .download true network (QString.literal "att_1") true ::
        [])).server.authUserFromHeaders
        (AttachmentsApi.downloadRequest network
          (QString.literal "att_1")).1.headers ≠ [] := by decide +kernel
  have asks : (attachmentStep ReferenceJson.json id store
      (attachmentsAfter ReferenceJson.json id store noFiles uploading)
      (.download true network (QString.literal "att_1")
        true)).1.isNone = true := by decide +kernel
  have allowed : ∀ event ∈
      uploading ++ .download true network (QString.literal "att_1") true ::
        [], event.Allowed := by
    intro event member
    rcases List.mem_append.mp member with old | new
    · exact allowed_uploading event old
    · rw [List.mem_singleton.mp new]
      exact (by decide : (0x2F : UInt16) ∉ QString.literal "att_1")
  obtain ⟨bytes, isFirst | ⟨_, isLast⟩, opened⟩ :=
    uploaded_chunk_opens_elsewhere ReferenceJson.json ReferenceSodium.sodium
      digest id store noFiles uploading [] true network
      (QString.literal "att_1") true moment ⟨true, true⟩ drawn key32 plaintext
      [] chunk ReferenceJson.json_roundTrips
      ReferenceSodium.sodium_aeadCorrect (fun _ _ => rfl) allowed
      encrypted_chunk returned (Option.isNone_iff_eq_none.mp idle) noFile
      nofun authorized rfl
  · rw [isFirst] at asks
    exact absurd asks (by simp)
  · exact ⟨bytes, isLast, opened⟩

end Examples

end Integration
end VoxDesktop
