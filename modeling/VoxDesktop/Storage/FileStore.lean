import Mathlib.Data.Set.Function
import VoxDesktop.Library.LexicalPath
import VoxDesktop.Qt.Text

/-!
# The files of attachments

`storage/FileStore`: the encrypted attachments and the decrypted previews, each
in a directory of its own.  A file is known by its path after normalisation,
with `/` as the separator; whether it can be opened and committed is an
argument.
-/

namespace VoxDesktop
namespace Storage

open Qt Library.LexicalPath

/-- The contents of the files, each under its path. -/
abbrev Disk : Type := Path UInt16 → Option QByteArray

/-- The file that a path denotes. -/
def fileAt (path : QString) : Path UInt16 := normalize 0x2F 0x2E path

/-- What happens to a `QSaveFile`. -/
structure SaveOutcome where
  opened : Bool
  committed : Bool

structure FileStore where
  m_rootPath : QString

namespace FileStore

variable (store : FileStore) (disk : Disk)

def directoryPath (directory : String) : QString :=
  store.m_rootPath ++ QString.literal "/" ++ QString.literal directory

/-- The path of an attachment in one of the directories. -/
def attachmentPath (directory : String) (attachmentId : QString) : QString :=
  store.directoryPath directory ++ QString.literal "/" ++ attachmentId ++
    QString.literal ".bin"

def encryptedAttachmentPath (attachmentId : QString) : QString :=
  store.attachmentPath "encrypted" attachmentId

def decryptedPreviewPath (attachmentId : QString) : QString :=
  store.attachmentPath "preview" attachmentId

/-- Open a `QSaveFile`, write it and commit it. -/
def saveFile (path : QString) (bytes : QByteArray) (outcome : SaveOutcome) :
    Bool × Disk :=
  if outcome.opened && outcome.committed then
    (true, Function.update disk (fileAt path) (some bytes))
  else (false, disk)

def writeEncryptedAttachment
    (attachmentId : QString) (bytes : QByteArray) (outcome : SaveOutcome) :
    Bool × Disk :=
  saveFile disk (store.encryptedAttachmentPath attachmentId) bytes outcome

/-- The file, if it is there and `opens`. -/
def readEncryptedAttachment (attachmentId : QString) (opens : Bool) :
    Option QByteArray :=
  if opens then disk (fileAt (store.encryptedAttachmentPath attachmentId))
  else none

def writeDecryptedPreview
    (attachmentId : QString) (bytes : QByteArray) (outcome : SaveOutcome) :
    Bool × Disk :=
  saveFile disk (store.decryptedPreviewPath attachmentId) bytes outcome

/-- Nothing is removed where there is no file. -/
def removeDecryptedPreview (attachmentId : QString) (permitted : Bool) :
    Bool × Disk :=
  let file := fileAt (store.decryptedPreviewPath attachmentId)
  if permitted && (disk file).isSome then
    (true, Function.update disk file none)
  else (false, disk)

/-- A file other than the saved one stays. -/
theorem saveFile_of_ne
    {path : QString} {file : Path UInt16} (other : file ≠ fileAt path)
    (bytes : QByteArray) (outcome : SaveOutcome) :
    (saveFile disk path bytes outcome).2 file = disk file := by
  unfold saveFile
  split
  · exact Function.update_of_ne other _ _
  · rfl

/-- A file other than the removed one stays. -/
theorem removeDecryptedPreview_of_ne
    {attachmentId : QString} {file : Path UInt16}
    (other : file ≠ fileAt (store.decryptedPreviewPath attachmentId))
    (permitted : Bool) :
    (store.removeDecryptedPreview disk attachmentId permitted).2 file =
      disk file := by
  unfold removeDecryptedPreview
  dsimp only
  split
  · exact Function.update_of_ne other _ _
  · rfl

/-! ## Where the files are -/

/-- A directory of the store as a path. -/
def directoryAt (directory : String) : Path UInt16 :=
  fileAt (store.directoryPath directory)

/-- The names of the two directories. -/
inductive IsDirectory : String → Prop
  | encrypted : IsDirectory "encrypted"
  | preview : IsDirectory "preview"

theorem IsDirectory.isName {directory : String} (is : IsDirectory directory) :
    IsName 0x2E (QString.literal directory) ∧
      0x2F ∉ QString.literal directory := by
  cases is <;> refine ⟨⟨?_, ?_, ?_⟩, ?_⟩ <;> decide

/-- A name that ends in `.bin` goes down. -/
theorem isName_bin (name : QString) :
    IsName 0x2E (name ++ QString.literal ".bin") := by
  have long : 4 ≤ (name ++ QString.literal ".bin").length := by
    rw [List.length_append]
    exact Nat.le_add_left 4 _
  refine ⟨?_, ?_, ?_⟩ <;> intro same <;> rw [same] at long <;>
    revert long <;> decide

/-- The file of an attachment, below where the directories of its id lead. -/
theorem fileAt_attachmentPath
    (directory : String) (attachmentId : QString) :
    fileAt (store.attachmentPath directory attachmentId) =
      (walk 0x2E (store.directoryAt directory)
        (directories 0x2F attachmentId)).child
        (fileName 0x2F attachmentId ++ QString.literal ".bin") := by
  have nonempty : store.directoryPath directory ≠ [] := by
    rw [directoryPath, List.append_assoc]
    exact List.append_ne_nil_of_right_ne_nil _ (List.cons_ne_nil _ _)
  have text :
      store.attachmentPath directory attachmentId =
        store.directoryPath directory ++
          0x2F :: (attachmentId ++ QString.literal ".bin") := by
    rw [attachmentPath, List.append_assoc, List.append_assoc]
    rfl
  rw [text]
  exact normalize_file nonempty (by decide) (isName_bin _)

/-- The two directories are children of the root. -/
theorem directoryAt_eq {directory : String} (is : IsDirectory directory) :
    store.directoryAt directory =
      (fileAt (store.m_rootPath ++ [0x2F])).child
        (QString.literal directory) := by
  rw [directoryAt, directoryPath, List.append_assoc]
  exact normalize_child is.isName.1 is.isName.2 _

/-- The file of an attachment is in the directory exactly if the directories
of its id lead back to it. -/
theorem isInside_iff (directory : String) (attachmentId : QString) :
    IsInside 0x2E (store.directoryAt directory)
        (fileAt (store.attachmentPath directory attachmentId)) ↔
      walk 0x2E (store.directoryAt directory)
          (directories 0x2F attachmentId) =
        store.directoryAt directory := by
  rw [fileAt_attachmentPath, isInside_child_iff (isName_bin _)]

/-- Both files of an attachment are in their directories exactly if its id
leads nowhere. -/
theorem isInside_both_iff (attachmentId : QString) :
    (IsInside 0x2E (store.directoryAt "encrypted")
          (fileAt (store.encryptedAttachmentPath attachmentId)) ∧
        IsInside 0x2E (store.directoryAt "preview")
          (fileAt (store.decryptedPreviewPath attachmentId))) ↔
      LeadsNowhere 0x2F 0x2E attachmentId := by
  have different :
      QString.literal "encrypted" ≠ QString.literal "preview" := by
    decide
  rw [encryptedAttachmentPath, decryptedPreviewPath, isInside_iff,
    isInside_iff, store.directoryAt_eq .encrypted,
    store.directoryAt_eq .preview]
  exact walk_siblings_iff different _ _

/-- The file of an attachment whose id leads nowhere. -/
theorem fileAt_of_leadsNowhere
    {attachmentId : QString}
    (nowhere : LeadsNowhere 0x2F 0x2E attachmentId) (directory : String) :
    fileAt (store.attachmentPath directory attachmentId) =
      (store.directoryAt directory).child
        (fileName 0x2F attachmentId ++ QString.literal ".bin") := by
  rw [fileAt_attachmentPath, nowhere.walk_eq]

/-- Among ids that lead nowhere, those with one file have one name. -/
theorem injOn_attachmentPath_iff
    {ids : Set QString}
    (nowhere : ∀ attachmentId ∈ ids, LeadsNowhere 0x2F 0x2E attachmentId)
    (directory : String) :
    (ids.InjOn fun attachmentId =>
        fileAt (store.attachmentPath directory attachmentId)) ↔
      ids.InjOn (fileName 0x2F) := by
  have same : ∀ first ∈ ids, ∀ second ∈ ids,
      (fileAt (store.attachmentPath directory first) =
          fileAt (store.attachmentPath directory second) ↔
        fileName 0x2F first = fileName 0x2F second) := by
    intro first firstIn second secondIn
    rw [store.fileAt_of_leadsNowhere (nowhere first firstIn),
      store.fileAt_of_leadsNowhere (nowhere second secondIn)]
    constructor
    · intro equal
      exact List.append_cancel_right (Path.child_injective equal).2
    · intro equal
      rw [equal]
  constructor
  · intro apart first firstIn second secondIn equal
    exact apart firstIn secondIn
      ((same first firstIn second secondIn).mpr equal)
  · intro apart first firstIn second secondIn equal
    exact apart firstIn secondIn
      ((same first firstIn second secondIn).mp equal)

end FileStore
end Storage
end VoxDesktop
