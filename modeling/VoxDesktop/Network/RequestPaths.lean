import VoxDesktop.Library.Segments
import VoxDesktop.Network.AttachmentsApi
import VoxDesktop.Network.ConversationQueries
import VoxDesktop.Qt.PercentEncoding
import VoxDesktop.Qt.ReferenceJson

/-!
# Identifiers in request paths

Fifteen calls of the interfaces write identifiers into the path of their
request.  They write them as they are: an identifier stays in its place in the
path exactly if a URL reads nothing but itself in it.  Whether escapes are read
depends on the whole URL, which `QUrl` corrects if a percent sign begins no
escape.
-/

namespace VoxDesktop
namespace Network

open Qt Library.Segments

/-! ## The calls and their endpoints -/

/-- A call with identifiers in its path, with all of its arguments. -/
inductive IdentifiedCall where
  | userByUsername (username : QString)
  | userById (userId : QString)
  | userDevices (userId : QString)
  | conversation (conversationId : QString)
  | members (conversationId : QString)
  | addMember (conversationId userId role : QString)
  | removeMember (conversationId userId : QString)
  | subscribe (conversationId : QString)
  | unsubscribe (conversationId : QString)
  | conversationEnvelopes
      (conversationId : QString) (limit : ℤ) (cursor : QString)
      (since : Option ℤ)
  | uploadChunk
      (attachmentId : QString) (offset : ℤ) (ciphertextChunk : QByteArray)
  | finalize (attachmentId ciphertextHash : QString)
  | download (attachmentId : QString)
  | putRecord (record : SyncRecordDto)
  | deleteRecord (collection recordId : QString)

inductive Endpoint where
  | userByUsername
  | userById
  | userDevices
  | conversation
  | members
  | addMember
  | removeMember
  | subscribe
  | unsubscribe
  | conversationEnvelopes
  | uploadChunk
  | finalize
  | download
  | putRecord
  | deleteRecord
deriving DecidableEq

/-- A fixed segment. -/
def fixed (segment : String) : Option QString :=
  some (QString.literal segment)

/-- The segments of an endpoint; nothing stands where an identifier goes. -/
def Endpoint.template : Endpoint → List (Option QString)
  | .userByUsername => [fixed "v1", fixed "users", fixed "by-username", none]
  | .userById => [fixed "v1", fixed "users", none]
  | .userDevices => [fixed "v1", fixed "users", none, fixed "devices"]
  | .conversation => [fixed "v1", fixed "conversations", none]
  | .members => [fixed "v1", fixed "conversations", none, fixed "members"]
  | .addMember => [fixed "v1", fixed "conversations", none, fixed "members"]
  | .removeMember =>
      [fixed "v1", fixed "conversations", none, fixed "members", none]
  | .subscribe => [fixed "v1", fixed "conversations", none, fixed "subscribe"]
  | .unsubscribe =>
      [fixed "v1", fixed "conversations", none, fixed "unsubscribe"]
  | .conversationEnvelopes =>
      [fixed "v1", fixed "conversations", none, fixed "envelopes"]
  | .uploadChunk => [fixed "v1", fixed "attachments", none, fixed "chunk"]
  | .finalize => [fixed "v1", fixed "attachments", none, fixed "finalize"]
  | .download => [fixed "v1", fixed "attachments", none]
  | .putRecord => [fixed "v1", fixed "sync", fixed "records", none, none]
  | .deleteRecord => [fixed "v1", fixed "sync", fixed "records", none, none]

/-- A template with identifiers in its free places, from left to right. -/
def fill {Part : Type*} : List (Option Part) → List Part → List Part
  | [], _ => []
  | some segment :: template, identifiers =>
      segment :: fill template identifiers
  | none :: template, identifier :: identifiers =>
      identifier :: fill template identifiers
  | none :: _, [] => []

namespace IdentifiedCall

def endpoint : IdentifiedCall → Endpoint
  | .userByUsername _ => .userByUsername
  | .userById _ => .userById
  | .userDevices _ => .userDevices
  | .conversation _ => .conversation
  | .members _ => .members
  | .addMember .. => .addMember
  | .removeMember .. => .removeMember
  | .subscribe _ => .subscribe
  | .unsubscribe _ => .unsubscribe
  | .conversationEnvelopes .. => .conversationEnvelopes
  | .uploadChunk .. => .uploadChunk
  | .finalize .. => .finalize
  | .download _ => .download
  | .putRecord _ => .putRecord
  | .deleteRecord .. => .deleteRecord

/-- The identifiers that go into the path. -/
def identifiers : IdentifiedCall → List QString
  | .userByUsername username => [username]
  | .userById userId => [userId]
  | .userDevices userId => [userId]
  | .conversation conversationId => [conversationId]
  | .members conversationId => [conversationId]
  | .addMember conversationId _ _ => [conversationId]
  | .removeMember conversationId userId => [conversationId, userId]
  | .subscribe conversationId => [conversationId]
  | .unsubscribe conversationId => [conversationId]
  | .conversationEnvelopes conversationId _ _ _ => [conversationId]
  | .uploadChunk attachmentId _ _ => [attachmentId]
  | .finalize attachmentId _ => [attachmentId]
  | .download attachmentId => [attachmentId]
  | .putRecord record => [record.collection, record.recordId]
  | .deleteRecord collection recordId => [collection, recordId]

/-- The request that a call puts on the wire. -/
def request (json : QJsonDocument) (network : NetworkAccess) :
    IdentifiedCall → HttpRequest
  | .userByUsername username =>
      (DirectoryApi.userByUsernameRequest network username).1
  | .userById userId => (DirectoryApi.userByIdRequest network userId).1
  | .userDevices userId => (DirectoryApi.userDevicesRequest network userId).1
  | .conversation conversationId =>
      (ConversationsApi.conversationRequest network conversationId).1
  | .members conversationId =>
      (ConversationsApi.membersRequest network conversationId).1
  | .addMember conversationId userId role =>
      ConversationsApi.addMemberRequest json network conversationId userId role
  | .removeMember conversationId userId =>
      ConversationsApi.removeMemberRequest network conversationId userId
  | .subscribe conversationId =>
      ConversationsApi.subscribeRequest json network conversationId
  | .unsubscribe conversationId =>
      ConversationsApi.unsubscribeRequest json network conversationId
  | .conversationEnvelopes conversationId limit cursor since =>
      (ConversationsApi.conversationEnvelopesRequest network conversationId
        limit cursor since).1
  | .uploadChunk attachmentId offset ciphertextChunk =>
      (AttachmentsApi.uploadChunkRequest network attachmentId offset
        ciphertextChunk).1
  | .finalize attachmentId ciphertextHash =>
      AttachmentsApi.finalizeRequest json network attachmentId ciphertextHash
  | .download attachmentId =>
      (AttachmentsApi.downloadRequest network attachmentId).1
  | .putRecord record => SyncApi.putRecordRequest json network record
  | .deleteRecord collection recordId =>
      SyncApi.deleteRecordRequest network collection recordId

/-- The URL that `QUrl` parses. -/
def url
    (json : QJsonDocument) (network : NetworkAccess)
    (call : IdentifiedCall) : QString :=
  (call.request json network).url

/-- What follows the base URL in the request of a call. -/
def path
    (json : QJsonDocument) (network : NetworkAccess)
    (call : IdentifiedCall) : QString :=
  (call.url json network).drop network.m_baseUrl.length

/-- `QUrl` escapes every percent sign of the URL: one in the base URL or in an
identifier begins no escape. -/
def corrected (network : NetworkAccess) (call : IdentifiedCall) : Bool :=
  hasLonePercent network.m_baseUrl || call.identifiers.any hasLonePercent

/-- The parts that a path should have as its segments. -/
def parts (call : IdentifiedCall) : List QString :=
  fill call.endpoint.template call.identifiers

end IdentifiedCall

/-- A path that begins with a slash follows the base URL as it is. -/
theorem NetworkAccess.url_execute
    (network : NetworkAccess)
    {path : QString}
    (slash : path.head? = some 0x2F)
    (method : QString)
    (body : QByteArray)
    (contentType : QString) :
    (network.execute method path body contentType).url =
      network.m_baseUrl ++ path := by
  simp only [NetworkAccess.execute, slash, if_true]

/-- The URL has the parts one after the other, each after a slash. -/
theorem IdentifiedCall.url_eq
    (json : QJsonDocument) (network : NetworkAccess)
    (call : IdentifiedCall) :
    call.url json network =
      network.m_baseUrl ++ joined 0x2F call.parts := by
  cases call <;>
    refine (network.url_execute rfl _ _ _).trans
      (congrArg (network.m_baseUrl ++ ·) ?_) <;>
    simp only [parts, endpoint, identifiers, Endpoint.template, fill, fixed,
      joined, List.flatMap_cons, List.flatMap_nil, List.append_nil,
      List.append_assoc] <;>
    rfl

theorem IdentifiedCall.path_eq
    (json : QJsonDocument) (network : NetworkAccess)
    (call : IdentifiedCall) :
    call.path json network = joined 0x2F call.parts := by
  rw [path, url_eq, List.drop_left]

/-! ## Filled templates -/

section Fill

variable {Part : Type*} {template : List (Option Part)}
  {identifiers others : List Part}

/-- What holds of the fixed segments holds of all parts if it holds of the
identifiers. -/
theorem forall_mem_fill_iff
    {holds : Part → Prop}
    (fixed : ∀ part, some part ∈ template → holds part)
    (size : identifiers.length = template.countP Option.isNone) :
    (∀ part ∈ fill template identifiers, holds part) ↔
      ∀ identifier ∈ identifiers, holds identifier := by
  induction template generalizing identifiers with
  | nil =>
      rw [List.countP_nil, List.length_eq_zero_iff] at size
      simp [fill, size]
  | cons place template inductionHypothesis =>
      have rest := fun identifiers : List Part =>
        @inductionHypothesis identifiers fun part member =>
          fixed part (List.mem_cons_of_mem _ member)
      cases place with
      | some segment =>
          rw [List.countP_cons_of_neg (by simp)] at size
          rw [fill, List.forall_mem_cons, rest identifiers size,
            and_iff_right (fixed segment List.mem_cons_self)]
      | none =>
          rw [List.countP_cons_of_pos rfl] at size
          cases identifiers with
          | nil => cases size
          | cons identifier identifiers =>
              rw [fill, List.forall_mem_cons, List.forall_mem_cons,
                rest identifiers (Nat.succ.inj size)]

/-- The parts tell the identifiers. -/
theorem fill_injective
    (size : identifiers.length = template.countP Option.isNone)
    (otherSize : others.length = template.countP Option.isNone)
    (same : fill template identifiers = fill template others) :
    identifiers = others := by
  induction template generalizing identifiers others with
  | nil =>
      rw [List.countP_nil, List.length_eq_zero_iff] at size otherSize
      rw [size, otherSize]
  | cons place template inductionHypothesis =>
      cases place with
      | some segment =>
          rw [List.countP_cons_of_neg (by simp)] at size otherSize
          exact inductionHypothesis size otherSize (List.cons.inj same).2
      | none =>
          rw [List.countP_cons_of_pos rfl] at size otherSize
          cases identifiers with
          | nil => cases size
          | cons identifier identifiers =>
              cases others with
              | nil => cases otherSize
              | cons other others =>
                  obtain ⟨head, tail⟩ := List.cons.inj same
                  rw [head, inductionHypothesis (Nat.succ.inj size)
                    (Nat.succ.inj otherSize) tail]

end Fill

/-- A call has an identifier for each free place of its endpoint. -/
theorem IdentifiedCall.length_identifiers (call : IdentifiedCall) :
    call.identifiers.length =
      call.endpoint.template.countP Option.isNone := by
  cases call <;> rfl

/-! ## What a URL reads in a path -/

/-- The segments that are no names but steps in the hierarchy. -/
def IsDotSegment (segment : QString) : Prop :=
  segment = QString.literal "." ∨ segment = QString.literal ".."

instance : DecidablePred IsDotSegment := fun segment =>
  inferInstanceAs
    (Decidable (segment = QString.literal "." ∨ segment = QString.literal ".."))

/-- A segment of a URL that is read as a text. -/
structure ReadsAs (url segment text : QString) : Prop where
  notDots : ¬IsDotSegment segment
  decoded : readInUrl url segment = toUtf8 text

/-- The path of a URL fills an endpoint with identifiers: neither a query nor
a fragment begins in it, and its segments are read as the fixed ones and, in
the free places, as the identifiers. -/
structure FillsEndpoint
    (endpoint : Endpoint) (identifiers : List QString) (url path : QString) :
    Prop where
  noQuery : 0x3F ∉ path
  noFragment : 0x23 ∉ path
  segments :
    List.Forall₂ (ReadsAs url) (segments 0x2F path)
      (fill endpoint.template identifiers)

/-- A text in which a URL, corrected or not, reads nothing but the text
itself. -/
@[mk_iff]
structure StaysInPlace (corrected : Bool) (text : QString) : Prop where
  noSlash : 0x2F ∉ text
  noQuery : 0x3F ∉ text
  noFragment : 0x23 ∉ text
  notDots : ¬IsDotSegment text
  noEscape : corrected = true ∨ hasEscape (toUtf8 text) = false

instance (corrected : Bool) : DecidablePred (StaysInPlace corrected) :=
  fun text => decidable_of_iff _ (staysInPlace_iff corrected text).symm

theorem readsAs_self_iff (url text : QString) :
    ReadsAs url text text ↔
      ¬IsDotSegment text ∧
        (hasLonePercent url = true ∨ hasEscape (toUtf8 text) = false) := by
  rw [← readInUrl_eq_iff]
  exact ⟨fun reads => ⟨reads.notDots, reads.decoded⟩,
    fun ⟨notDots, decoded⟩ => ⟨notDots, decoded⟩⟩

/-- A lone percent sign of a URL is in what comes first or in a part. -/
theorem hasLonePercent_joined (base : QString) (parts : List QString) :
    hasLonePercent (base ++ joined 0x2F parts) =
      (hasLonePercent base || parts.any hasLonePercent) := by
  induction parts generalizing base with
  | nil => simp [joined]
  | cons part parts inductionHypothesis =>
      have rest := inductionHypothesis part
      rw [joined] at rest
      rw [joined, List.flatMap_cons, List.cons_append,
        hasLonePercent_append_slash, rest, List.any_cons]

/-- A symbol that is no separator is in a joined text if it is in a part. -/
theorem not_mem_joined_iff
    {separator symbol : UInt16} (other : symbol ≠ separator)
    (parts : List QString) :
    symbol ∉ joined separator parts ↔ ∀ part ∈ parts, symbol ∉ part := by
  simp [joined, other]

/-- Parts are read as themselves exactly if each of them stays in place. -/
theorem readsAs_joined_iff (url : QString) (parts : List QString) :
    (0x3F ∉ joined 0x2F parts ∧ 0x23 ∉ joined 0x2F parts ∧
        List.Forall₂ (ReadsAs url) (segments 0x2F (joined 0x2F parts))
          parts) ↔
      ∀ part ∈ parts, StaysInPlace (hasLonePercent url) part := by
  rw [not_mem_joined_iff (by decide), not_mem_joined_iff (by decide)]
  constructor
  · rintro ⟨noQuery, noFragment, reads⟩
    have undivided : ∀ part ∈ parts, 0x2F ∉ part :=
      (length_segments_joined_iff parts).mp reads.length_eq
    rw [segments_joined_eq undivided, List.forall₂_same] at reads
    intro part member
    obtain ⟨notDots, noEscape⟩ :=
      (readsAs_self_iff url part).mp (reads part member)
    exact ⟨undivided part member, noQuery part member,
      noFragment part member, notDots, noEscape⟩
  · intro stay
    rw [segments_joined_eq fun part member => (stay part member).noSlash,
      List.forall₂_same]
    exact ⟨fun part member => (stay part member).noQuery,
      fun part member => (stay part member).noFragment,
      fun part member => (readsAs_self_iff url part).mpr
        ⟨(stay part member).notDots, (stay part member).noEscape⟩⟩

/-- The fixed segments of every endpoint stay in place. -/
theorem Endpoint.staysInPlace_of_fixed
    (endpoint : Endpoint) (corrected : Bool) {segment : QString}
    (member : some segment ∈ endpoint.template) :
    StaysInPlace corrected segment := by
  have all :
      ∀ place ∈ endpoint.template, ∀ segment ∈ place,
        StaysInPlace corrected segment := by
    cases corrected <;> cases endpoint <;> decide
  exact all (some segment) member segment rfl

theorem Endpoint.noLonePercent_of_fixed
    (endpoint : Endpoint) {segment : QString}
    (member : some segment ∈ endpoint.template) :
    hasLonePercent segment = false := by
  have all :
      ∀ place ∈ endpoint.template, ∀ segment ∈ place,
        hasLonePercent segment = false := by
    cases endpoint <;> decide
  exact all (some segment) member segment rfl

/-! ## The identifiers that stay in place -/

namespace IdentifiedCall

variable (json : QJsonDocument) (network : NetworkAccess)

theorem parts_stay_iff (call : IdentifiedCall) (corrected : Bool) :
    (∀ part ∈ call.parts, StaysInPlace corrected part) ↔
      ∀ identifier ∈ call.identifiers, StaysInPlace corrected identifier :=
  forall_mem_fill_iff
    (fun _ member => call.endpoint.staysInPlace_of_fixed corrected member)
    call.length_identifiers

/-- The URL of a call is corrected for its base or for an identifier. -/
theorem hasLonePercent_url (call : IdentifiedCall) :
    hasLonePercent (call.url json network) = call.corrected network := by
  have noneFixed :
      (∀ part ∈ call.parts, hasLonePercent part = false) ↔
        ∀ identifier ∈ call.identifiers, hasLonePercent identifier = false :=
    forall_mem_fill_iff
      (fun _ member => call.endpoint.noLonePercent_of_fixed member)
      call.length_identifiers
  have sameAny :
      call.parts.any hasLonePercent =
        call.identifiers.any hasLonePercent := by
    rw [Bool.eq_iff_iff, ← not_iff_not, Bool.not_eq_true, Bool.not_eq_true,
      List.any_eq_false, List.any_eq_false]
    simpa only [Bool.not_eq_true] using noneFixed
  rw [call.url_eq, hasLonePercent_joined, sameAny, corrected]

end IdentifiedCall
end Network
end VoxDesktop
