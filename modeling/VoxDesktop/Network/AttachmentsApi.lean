import VoxDesktop.Network.ConversationsApi
import VoxDesktop.Network.SyncApi

/-!
# The attachments interface

`network/AttachmentsApi`: each call puts one request on the wire and turns the
response, which is an argument here, into a result.
-/

namespace VoxDesktop
namespace Network

open Qt

namespace ApiPaths

def kAttachmentsUploadInit : QString :=
  QString.literal "/v1/attachments/upload-init"
def kAttachmentsPrefix : QString := QString.literal "/v1/attachments/"

end ApiPaths

structure AttachmentUploadInitRequest where
  conversationId : QString
  fileSize : ℤ
  mimeHint : QString

def AttachmentUploadInitRequest.toJson
    (request : AttachmentUploadInitRequest) : QJsonObject :=
  .ofMembers <|
    [stringMember "conversation_id" request.conversationId,
      (QString.literal "file_size", .double request.fileSize)] ++
    if request.mimeHint = [] then []
    else [stringMember "mime_hint" request.mimeHint]

structure AttachmentUploadInitResponse where
  attachmentId : QString
  blobPath : QString

def parseAttachmentUploadInitResponse
    (object : QJsonObject) : Option AttachmentUploadInitResponse := do
  let attachmentId ← getString object "attachment_id"
  let blobPath ← getString object "blob_path"
  return ⟨attachmentId, blobPath⟩

namespace AttachmentsApi

section Requests

variable (json : QJsonDocument) (network : NetworkAccess)

def uploadInitRequest (request : AttachmentUploadInitRequest) : HttpRequest :=
  network.postJson ApiPaths.kAttachmentsUploadInit
    (JsonCodec.toBytes json request.toJson)

def uploadChunkRequest
    (attachmentId : QString) (offset : ℤ) (ciphertextChunk : QByteArray) :
    HttpRequest × QUrlQuery :=
  network.putBytes
    (ApiPaths.kAttachmentsPrefix ++ attachmentId ++ QString.literal "/chunk")
    ciphertextChunk [(QString.literal "offset", QString.number offset)]

def finalizeRequest (attachmentId ciphertextHash : QString) : HttpRequest :=
  network.postJson
    (ApiPaths.kAttachmentsPrefix ++ attachmentId ++
      QString.literal "/finalize")
    (JsonCodec.toBytes json
      (.ofMembers [stringMember "ciphertext_hash" ciphertextHash]))

def downloadRequest (attachmentId : QString) : HttpRequest × QUrlQuery :=
  network.get (ApiPaths.kAttachmentsPrefix ++ attachmentId) []

end Requests

section Results

variable (json : QJsonDocument) (response : NetworkResponse)

/-- The result of `uploadInit`. -/
def uploadInit : ApiResult AttachmentUploadInitResponse :=
  ConversationsApi.parseResult json parseAttachmentUploadInitResponse
    "Invalid attachment upload-init response" response

/-- The result of `uploadChunk`, which reads its response as `putRecord`
does. -/
def uploadChunk : VoidResult := SyncApi.putRecord json response

/-- The result of `finalize`, which reads its response in the same way. -/
def finalize : VoidResult := SyncApi.putRecord json response

/-- The result of `download`. -/
def download : ApiResult QByteArray :=
  if response.ok then ⟨true, response.statusCode, [], some response.body⟩
  else
    let error :=
      match JsonCodec.parseObject json response.body with
      | .error parseError => parseError
      | .ok object =>
          match parseApiError object with
          | some apiError => apiError.message
          | none => []
    ⟨false, response.statusCode,
      if error = [] then response.errorMessage else error, none⟩

end Results

end AttachmentsApi
end Network
end VoxDesktop
