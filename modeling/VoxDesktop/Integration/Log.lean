import VoxDesktop.Application.Envelopes
import VoxDesktop.Integration.Accounts
import VoxDesktop.Integration.Answers

/-!
# The log of the server

Envelopes are appended to one list, which is never changed otherwise, each of
them under the user of the token that its request has carried.  The list of
pending envelopes that a client reads is this list.
-/

namespace VoxDesktop
namespace Integration

open Qt Network Application FakeVoxServer

namespace FakeVoxServer

/-! ## What a request appends -/

def sendRoute : QString := QString.literal "/v1/messages/send"

/-- The envelope that a request appends, if it appends one. -/
def acceptedEnvelope
    (json : QJsonDocument) (server : FakeVoxServer)
    (request : ServerRequest) (moment : Moment) : Option Envelope :=
  let userId := server.authUserFromHeaders request.headers
  if trimQuery request.path = sendRoute ∧
      request.method = QString.literal "POST" ∧ userId ≠ [] ∧
      server.m_failNextSend = false then
    (parseJson json request.body).map
      (server.receivedEnvelope userId moment)
  else none

section Handled

variable {json : QJsonDocument} {server : FakeVoxServer}
  {request : ServerRequest} {moment : Moment}

theorem handleSession_envelopes_of_other
    {userId route : QString}
    (other : ¬(route = sendRoute ∧
      request.method = QString.literal "POST")) :
    (server.handleSession json userId request moment
      route).2.m_envelopes = server.m_envelopes := by
  have written : (server.handleChunk json request route).2.m_envelopes =
      server.m_envelopes := by
    unfold handleChunk
    dsimp only
    split <;> rfl
  let same : NetworkResponse × FakeVoxServer → Prop :=
    fun handled => handled.2.m_envelopes = server.m_envelopes
  change same _
  unfold handleSession
  refine iteInduction (fun _ => rfl) fun _ => ?_
  refine iteInduction (fun isSend => absurd isSend other) fun _ => ?_
  iterate 3 refine iteInduction (fun _ => rfl) fun _ => ?_
  refine iteInduction (fun _ => written) fun _ => ?_
  iterate 9 refine iteInduction (fun _ => rfl) fun _ => ?_
  rfl

theorem IsRefusal.envelopes
    {handled : NetworkResponse × FakeVoxServer}
    (refusal : IsRefusal json server handled) :
    handled.2.m_envelopes = server.m_envelopes := by
  obtain ⟨_, _, _, _, rfl⟩ := refusal
  rfl

/-- Another route appends nothing. -/
theorem handle_envelopes_of_other
    (other : ¬(trimQuery request.path = sendRoute ∧
      request.method = QString.literal "POST")) :
    (server.handle json request moment).2.m_envelopes =
      server.m_envelopes := by
  unfold handle
  dsimp only
  split
  · rfl
  split
  · rcases @handleRegister_cases json server request with
      refusal | ⟨_, _, _, _, result⟩
    · exact refusal.envelopes
    · rw [result]
      rfl
  split
  · rcases @handleLogin_cases json server request moment with
      refusal | ⟨_, _, _, _, _, result⟩
    · exact refusal.envelopes
    · rw [result]
      rfl
  split
  · rcases @handleRefresh_cases json server request with
      refusal | ⟨_, _, _, _, result⟩
    · exact refusal.envelopes
    · rw [result]
      rfl
  split
  · rfl
  split
  · rfl
  split
  · rfl
  split
  · rfl
  · exact handleSession_envelopes_of_other other

/-- A send needs a user. -/
theorem handle_send
    (isSend : trimQuery request.path = sendRoute)
    (isPost : request.method = QString.literal "POST") :
    server.handle json request moment =
      if server.authUserFromHeaders request.headers = [] then
        (unauthorized json, server)
      else
        server.handleSend json
          (server.authUserFromHeaders request.headers) request moment := by
  have session : ∀ userId,
      server.handleSession json userId request moment sendRoute =
        server.handleSend json userId request moment := by
    intro userId
    unfold handleSession
    dsimp only
    rw [if_neg fun facts => absurd facts.1 (by decide), if_pos ⟨rfl, isPost⟩]
  unfold handle
  dsimp only
  rw [isSend]
  iterate 6 rw [if_neg fun facts => absurd facts.1 (by decide)]
  rw [session]
  split
  · rename_i forced
    rw [authUserFromHeaders, if_pos forced, if_pos rfl]
  · rfl

/-- The log grows by the envelope that is accepted. -/
theorem handle_envelopes :
    (server.handle json request moment).2.m_envelopes =
      server.m_envelopes ++
        (server.acceptedEnvelope json request moment).toList := by
  by_cases isSend : trimQuery request.path = sendRoute ∧
      request.method = QString.literal "POST"
  · rw [handle_send isSend.1 isSend.2, acceptedEnvelope]
    by_cases noUser : server.authUserFromHeaders request.headers = []
    · rw [if_pos noUser, if_neg fun facts => facts.2.2.1 noUser]
      exact (List.append_nil _).symm
    rw [if_neg noUser, handleSend]
    by_cases failing : server.m_failNextSend = true
    · rw [if_pos failing, if_neg fun facts => by simp [failing] at facts]
      exact (List.append_nil _).symm
    · rw [if_neg failing,
        if_pos ⟨isSend.1, isSend.2, noUser, Bool.not_eq_true _ ▸ failing⟩]
      cases parseJson json request.body with
      | none => exact (List.append_nil _).symm
      | some object => rfl
  · rw [handle_envelopes_of_other isSend, acceptedEnvelope]
    rw [if_neg fun facts => isSend ⟨facts.1, facts.2.1⟩]
    exact (List.append_nil _).symm

/-- A send that succeeds is in the log. -/
theorem accepted_of_send_ok
    (isSend : trimQuery request.path = sendRoute)
    (isPost : request.method = QString.literal "POST")
    (works : (server.handle json request moment).1.ok = true) :
    ∃ envelope, server.acceptedEnvelope json request moment =
      some envelope := by
  rw [handle_send isSend isPost] at works
  split at works
  · rw [unauthorized, errorResponse_not_ok _ _ (Or.inr (by decide))] at works
    contradiction
  rename_i signedIn
  rw [handleSend] at works
  split at works
  · rw [errorResponse_not_ok _ _ (Or.inr (by decide))] at works
    contradiction
  rename_i working
  rw [acceptedEnvelope]
  rw [if_pos ⟨isSend, isPost, signedIn, Bool.not_eq_true _ ▸ working⟩]
  split at works
  · rw [invalidJson, errorResponse_not_ok _ _ (Or.inr (by decide))] at works
    contradiction
  · rename_i object parsed
    rw [parsed]
    exact ⟨_, rfl⟩

end Handled

end FakeVoxServer

/-! ## What a client reads -/

/-- The envelope as a client reads it. -/
def Envelope.listed (envelope : Envelope) : ListedEnvelopeDto where
  envelopeId := envelope.envelopeId
  conversationId := envelope.conversationId
  senderUserId := envelope.senderUserId
  senderDeviceId := envelope.senderDeviceId
  ciphertext := envelope.ciphertext
  serverTimestamp := envelope.serverTimestamp
  envelopeType := envelope.envelopeType
  orderingEpoch := none

/-- An envelope that is written without loss. -/
structure Envelope.IsWritable (envelope : Envelope) : Prop where
  envelopeId : IsUtf16 envelope.envelopeId
  conversationId : IsUtf16 envelope.conversationId
  senderUserId : IsUtf16 envelope.senderUserId
  senderDeviceId : IsUtf16 envelope.senderDeviceId
  ciphertext : IsUtf16 envelope.ciphertext
  serverTimestamp : envelope.serverTimestamp < 9007199254740992
  envelopeType : 0 ≤ envelope.envelopeType ∧
    envelope.envelopeType < 2147483648

section Readings

variable {json : QJsonDocument} {server : FakeVoxServer}

theorem getString_sorted
    {object : QJsonObject} (distinct : object.keys.Nodup) (field : String) :
    getString object.sorted field = getString object field := by
  simp only [getString, QJsonObject.value_sorted distinct,
    QJsonValue.isString_sorted, QJsonValue.toString_sorted]

theorem getInteger_sorted
    {object : QJsonObject} (distinct : object.keys.Nodup) (field : String) :
    getInteger object.sorted field = getInteger object field := by
  simp only [getInteger, QJsonObject.value_sorted distinct,
    QJsonValue.isDouble_sorted, QJsonValue.toInteger_sorted]

theorem toInteger_double
    {number : ℤ} (lower : -9223372036854775808 ≤ number)
    (upper : number < 9223372036854775808) :
    QJsonValue.toInteger (.double number) = number := by
  simp [QJsonValue.toInteger, lower, upper]

/-- The keys of an envelope. -/
def envelopeFields : List QString :=
  [QString.literal "envelope_id", QString.literal "conversation_id",
    QString.literal "sender_user_id", QString.literal "sender_device_id",
    QString.literal "ciphertext", QString.literal "server_timestamp",
    QString.literal "envelope_type"]

theorem keys_envelopeObject (envelope : Envelope) :
    (envelopeObject envelope).keys = envelopeFields := rfl

theorem nodup_keys_envelopeObject (envelope : Envelope) :
    (envelopeObject envelope).keys.Nodup := by
  rw [keys_envelopeObject]
  decide

theorem composed_envelopeObject
    {envelope : Envelope} (writable : envelope.IsWritable) :
    Composed IsWritable 1 (.object (envelopeObject envelope)) := by
  refine .object (nodup_keys_envelopeObject envelope) ?_ ?_
  · rw [keys_envelopeObject]
    have ascii : ∀ key ∈ envelopeFields, IsAsciiText key := by decide
    exact fun key member => .string (ascii key member).isUtf16
  · obtain ⟨natural, sameType⟩ :=
      Int.eq_ofNat_of_zero_le writable.envelopeType.1
    have small := writable.envelopeType.2
    simp only [envelopeObject, List.forall_mem_cons, List.not_mem_nil,
      false_implies, implies_true, and_true, stringMember, numberMember,
      sameType]
    exact ⟨.leaf (.string writable.envelopeId),
      .leaf (.string writable.conversationId),
      .leaf (.string writable.senderUserId),
      .leaf (.string writable.senderDeviceId),
      .leaf (.string writable.ciphertext),
      .leaf (.double writable.serverTimestamp),
      .leaf (.double (by omega))⟩

/-- An envelope is read back from its object. -/
theorem parseEnvelopeDto_envelopeObject
    {envelope : Envelope} (writable : envelope.IsWritable) :
    parseEnvelopeDto (envelopeObject envelope).sorted =
      some envelope.listed := by
  have distinct := nodup_keys_envelopeObject envelope
  have text : ∀ (field : String) (text : QString),
      stringMember field text ∈ envelopeObject envelope →
        getString (envelopeObject envelope).sorted field = some text :=
    fun field text within => (getString_sorted distinct field).trans
      (getString_of_mem distinct within)
  have time : getInteger (envelopeObject envelope).sorted
      "server_timestamp" = some (envelope.serverTimestamp : ℤ) := by
    have within : (QString.literal "server_timestamp",
        QJsonValue.double ((envelope.serverTimestamp : ℤ) : ℚ)) ∈
          envelopeObject envelope := by
      simp [envelopeObject, numberMember]
    have value := QJsonObject.value_of_mem distinct within
    have small := writable.serverTimestamp
    rw [getInteger_sorted distinct, getInteger, value]
    exact congrArg some
      (toInteger_double (by omega : -9223372036854775808 ≤ _) (by omega))
  have kind : ((envelopeObject envelope).sorted.value
      (QString.literal "envelope_type")).toInt 0 = envelope.envelopeType := by
    rw [QJsonObject.value_sorted distinct, QJsonValue.toInt_sorted,
      QJsonObject.value_of_mem distinct (show
        (QString.literal "envelope_type", .double envelope.envelopeType) ∈
          envelopeObject envelope by simp [envelopeObject, numberMember])]
    exact QJsonValue.toInt_double 0 (by have := writable.envelopeType; omega)
      writable.envelopeType.2
  have noEpoch : QString.literal "ordering_epoch" ∉
      (envelopeObject envelope).sorted.keys := by
    rw [(QJsonObject.keys_sorted_perm _).mem_iff, keys_envelopeObject]
    decide
  rw [parseEnvelopeDto, text _ _ (.head _), text _ _ (.tail _ (.head _)),
    text _ _ (.tail _ (.tail _ (.head _))),
    text _ _ (.tail _ (.tail _ (.tail _ (.head _)))),
    text _ _ (.tail _ (.tail _ (.tail _ (.tail _ (.head _))))), time]
  simp only [Option.bind_eq_bind, Option.bind_some, kind, noEpoch,
    false_and, if_false]
  rfl

theorem mapM_map_eq_some
    {α β γ : Type} {made : α → β} {read : β → Option γ} {result : α → γ}
    {elements : List α}
    (each : ∀ element ∈ elements, read (made element) = some (result element)) :
    (elements.map made).mapM read = some (elements.map result) := by
  induction elements with
  | nil => rfl
  | cons element elements inductionHypothesis =>
      rw [List.map_cons, List.mapM_cons, each element List.mem_cons_self,
        inductionHypothesis fun later within =>
          each later (List.mem_cons_of_mem _ within)]
      rfl

theorem keys_pendingObject :
    (server.pendingObject).keys =
      [QString.literal "envelopes", QString.literal "next_cursor",
        QString.literal "has_more"] := rfl

theorem nodup_keys_pendingObject : (server.pendingObject).keys.Nodup := by
  rw [keys_pendingObject]
  decide

theorem composed_pendingObject
    (writable : ∀ envelope ∈ server.m_envelopes, envelope.IsWritable) :
    Composed IsWritable 3 (.object server.pendingObject) := by
  refine .object nodup_keys_pendingObject ?_ ?_
  · rw [keys_pendingObject]
    have ascii : ∀ key ∈ [QString.literal "envelopes",
        QString.literal "next_cursor", QString.literal "has_more"],
        IsAsciiText key := by decide
    exact fun key member => .string (ascii key member).isUtf16
  · simp only [pendingObject, lastPage, List.forall_mem_cons,
      List.not_mem_nil, false_implies, implies_true, and_true, stringMember]
    refine ⟨.array ?_, .leaf (.string (IsAsciiText.isUtf16 (by decide))),
      .leaf (.bool false)⟩
    intro element member
    obtain ⟨envelope, within, rfl⟩ := List.mem_map.mp member
    exact composed_envelopeObject (writable envelope within)

/-- A client that gets the pending envelopes reads the whole log. -/
theorem accepted_pendingEnvelopes
    (nested : json.RoundTripsNested)
    (writable : ∀ envelope ∈ server.m_envelopes, envelope.IsWritable) :
    (ConversationsApi.pendingEnvelopes json
        (okResponse json server.pendingObject)).accepted =
      some ⟨server.m_envelopes.map Envelope.listed, [], false⟩ := by
  have whole : Composed IsWritable kNestingLimit
      (.object server.pendingObject) :=
    (composed_pendingObject writable).mono (by decide)
  have distinct := @nodup_keys_pendingObject server
  have success : (okResponse json server.pendingObject).ok = true := rfl
  have envelopes : ((server.pendingObject).sorted.value
      (QString.literal "envelopes")).toArray.mapM (fun item =>
        parseEnvelopeDto item.toObject) =
      some (server.m_envelopes.map Envelope.listed) := by
    rw [QJsonObject.value_sorted distinct, QJsonValue.toArray_sorted,
      QJsonObject.value_of_mem distinct (.head _)]
    dsimp only [QJsonValue.toArray]
    rw [List.map_map]
    apply mapM_map_eq_some
    intro envelope within
    rw [Function.comp_apply, QJsonValue.toObject_sorted]
    exact parseEnvelopeDto_envelopeObject (writable envelope within)
  have cursor : ((server.pendingObject).sorted.value
      (QString.literal "next_cursor")).toString = [] := by
    rw [QJsonObject.value_sorted distinct, QJsonValue.toString_sorted,
      QJsonObject.value_of_mem distinct (.tail _ (.head _))]
    rfl
  have more : ((server.pendingObject).sorted.value
      (QString.literal "has_more")).toBool false = false := by
    rw [QJsonObject.value_sorted distinct, QJsonValue.toBool_sorted,
      QJsonObject.value_of_mem distinct (.tail _ (.tail _ (.head _)))]
    rfl
  rw [ConversationsApi.pendingEnvelopes, ConversationsApi.parseResult,
    JsonCodec.parseObject]
  rw [show json.parse (okResponse json server.pendingObject).body = _ from
    nested _ whole]
  dsimp only
  rw [if_pos success]
  simp only [ApiResult.accepted, parseEnvelopeBatchResponse, envelopes,
    cursor, more, Option.bind_eq_bind, Option.bind_some]
  rfl

end Readings

end Integration
end VoxDesktop
