import VoxDesktop.Application.Envelopes
import VoxDesktop.Qt.ReferenceJson
import VoxDesktop.Qt.Utf8

/-!
# What a submitted message shows

The handler of `sendMessageSubmitted` hands the text to the message service
together with its transport form, which is the base-64 of its UTF-8 octets
behind a fixed prefix.  No key takes part, so whoever sees the request reads
the text.  The display decoder reads it too, except for a byte order mark in
front.
-/

namespace VoxDesktop
namespace Application

open Qt Network Services Storage MessageSendService

/-! ## The handler -/

/-- What the handler reads of the conversation that the server returns. -/
structure PostingRules where
  type : ℤ
  myRole : QString

/-- The test for a channel one may not post to fails. -/
def canSend
    (toLower : QString → QString) : Option PostingRules → Bool
  | none => true
  | some rules =>
      let myRole := toLower rules.myRole
      rules.type ≠ 2 || myRole = QString.literal "owner" ||
        myRole = QString.literal "admin"

/-- `sendMessageSubmitted`, up to the result of `sendMessage`.  `network` is
the HTTP access of the message service, if there is one, and `rules` what the
server answers about the conversation. -/
def submitMessage
    (json : QJsonDocument) (toLower : QString → QString)
    (network : Option NetworkAccess) (auth : Option AuthContext)
    (selectedConversationId : QString) (rules : Option PostingRules)
    (tables : Tables) (text : QString) (outcome : SendOutcome) :
    Option HttpRequest × Bool × Tables :=
  match auth with
  | none => (none, false, tables)
  | some context =>
      if selectedConversationId = [] ∨ canSend toLower rules = false then
        (none, false, tables)
      else
        let ciphertext := encryptForTransport text
        match network with
        | none => (none, false, tables)
        | some network =>
            sendMessage json tables selectedConversationId context.deviceId
              ciphertext network text 0 outcome

/-- The request of a submission, as the message service fills it in. -/
def submittedEnvelope
    (context : AuthContext)
    (selectedConversationId text envelopeId : QString) :
    SendEnvelopeRequest where
  deviceId := context.deviceId
  conversationId := selectedConversationId
  ciphertext := encryptForTransport text
  envelopeId := envelopeId
  envelopeType := 0

theorem submitMessage_request
    {json : QJsonDocument} {toLower : QString → QString}
    {network : Option NetworkAccess} {auth : Option AuthContext}
    {selectedConversationId : QString} {rules : Option PostingRules}
    {tables : Tables} {text : QString} {outcome : SendOutcome}
    {sent : HttpRequest}
    (made :
      (submitMessage json toLower network auth selectedConversationId rules
        tables text outcome).1 = some sent) :
    ∃ context access,
      auth = some context ∧ network = some access ∧
        sent =
          ConversationsApi.sendEnvelopeRequest json access
            (submittedEnvelope context selectedConversationId text
              outcome.envelopeId) := by
  unfold submitMessage at made
  split at made
  · contradiction
  split at made
  · contradiction
  dsimp only at made
  split at made
  · contradiction
  unfold sendMessage at made
  split at made
  · contradiction
  split at made
  · contradiction
  exact ⟨_, _, rfl, rfl, (Option.some.inj made).symm⟩

/-! ## Reading the transport form -/

/-- Octets of the prefix. -/
def transportPrefixOctets : QByteArray := QByteArray.literal "vox1:"

theorem transportOctets_ascii (text : QString) :
    IsAscii (transportPrefixOctets ++
      toBase64 ⟨false, false⟩ (toUtf8 text)) := by
  have prefixAscii : ∀ octet ∈ transportPrefixOctets, octet.toNat < 0x80 := by
    decide +kernel
  intro octet within
  rcases List.mem_append.mp within with ofPrefix | ofText
  · exact prefixAscii octet ofPrefix
  · exact toBase64_ascii _ _ octet ofText

theorem encryptForTransport_eq (text : QString) :
    encryptForTransport text =
      fromUtf8 (transportPrefixOctets ++
        toBase64 ⟨false, false⟩ (toUtf8 text)) := by
  rw [encryptForTransport, fromUtf8_ascii (toBase64_ascii _ _),
    fromUtf8_ascii (transportOctets_ascii text), List.map_append]
  rfl

theorem toUtf8_encryptForTransport (text : QString) :
    toUtf8 (encryptForTransport text) =
      transportPrefixOctets ++ toBase64 ⟨false, false⟩ (toUtf8 text) := by
  rw [encryptForTransport_eq,
    toUtf8_fromUtf8_ascii (transportOctets_ascii text)]

/-- The text of a transport form. -/
def recoverText (ciphertext : QString) : QString :=
  fromUtf8Loop 0 (fromBase64 false ((toUtf8 ciphertext).drop 5))

theorem decoded_encryptForTransport (text : QString) :
    fromBase64 false ((toUtf8 (encryptForTransport text)).drop 5) =
      toUtf8 text := by
  rw [toUtf8_encryptForTransport]
  exact fromBase64_toBase64 ⟨false, false⟩ (toUtf8 text)

/-- Every well-formed text is recovered. -/
theorem recoverText_encryptForTransport
    {text : QString} (wellFormed : IsUtf16 text) :
    recoverText (encryptForTransport text) = text := by
  rw [recoverText, decoded_encryptForTransport,
    fromUtf8Loop_toUtf8 wellFormed]

/-- The display decoder gives back every nonempty text that does not begin
with a byte order mark. -/
theorem decryptForUi_encryptForTransport_iff
    {text : QString} (wellFormed : IsUtf16 text) (nonempty : text ≠ []) :
    decryptForUi (encryptForTransport text) = some text ↔
      text.head? ≠ some 0xFEFF := by
  have shown : ¬(encryptForTransport text).all isSpace = true := by
    intro blank
    have first := List.all_eq_true.mp blank 0x76 List.mem_cons_self
    exact absurd first (by decide)
  have prefixed : transportPrefix.isPrefixOf (encryptForTransport text) :=
    List.isPrefixOf_iff_prefix.mpr (List.prefix_append _ _)
  rw [decryptForUi, if_neg shown]
  dsimp only
  rw [decoded_encryptForTransport,
    if_pos ⟨prefixed, toUtf8_ne_nil nonempty⟩, Option.some.injEq]
  exact fromUtf8_toUtf8_iff wellFormed

/-! ## Secrecy -/

/-- No function of the ciphertext alone gives back every nonempty well-formed
text that is submitted. -/
def HidesText (context : AuthContext) (selectedConversationId : QString) :
    Prop :=
  ¬∃ recover : QString → QString,
    ∀ text envelopeId, IsUtf16 text → text ≠ [] →
      recover (submittedEnvelope context selectedConversationId text
        envelopeId).ciphertext = text

theorem recoverText_submittedEnvelope
    (context : AuthContext) (selectedConversationId : QString) :
    ∀ text envelopeId, IsUtf16 text → text ≠ [] →
      recoverText (submittedEnvelope context selectedConversationId text
        envelopeId).ciphertext = text :=
  fun _ _ wellFormed _ => recoverText_encryptForTransport wellFormed

/-- Every request of the handler carries the transport form of its text, and
whoever is signed in and whatever is selected, one function reads all of
them. -/
theorem submitMessage_not_hidesText
    (json : QJsonDocument)
    (toLower : QString → QString)
    (network : Option NetworkAccess)
    (auth : Option AuthContext)
    (selectedConversationId : QString)
    (rules : Option PostingRules)
    (tables : Tables)
    (text : QString)
    (outcome : SendOutcome) :
    (∀ sent,
      (submitMessage json toLower network auth selectedConversationId rules
        tables text outcome).1 = some sent →
      ∃ context access,
        auth = some context ∧ network = some access ∧
          sent =
            ConversationsApi.sendEnvelopeRequest json access
              (submittedEnvelope context selectedConversationId text
                outcome.envelopeId)) ∧
      ∀ context, ¬HidesText context selectedConversationId :=
  ⟨fun _ made => submitMessage_request made, fun context =>
    not_not.mpr ⟨recoverText, recoverText_submittedEnvelope context _⟩⟩

/-- A text in a direct message is on the wire in a form that is read without
any key. -/
theorem submitMessage_shows_hi :
    let context : AuthContext :=
      ⟨QString.literal "u1", QString.literal "alice", QString.literal "d1",
        QString.literal "token", QString.literal "refresh"⟩
    let envelope :=
      submittedEnvelope context (QString.literal "c1") (QString.literal "hi")
        (QString.literal "e1")
    (submitMessage ReferenceJson.json id
        (some ⟨QString.literal "https://vox", QString.literal "token"⟩)
        (some context) (QString.literal "c1") none
        ⟨Library.Table.empty, ⟨[], 0⟩⟩ (QString.literal "hi")
        ⟨QString.literal "e1", ⟨200, [], []⟩, 0, true, 0, true⟩).1 =
      some (ConversationsApi.sendEnvelopeRequest ReferenceJson.json
        ⟨QString.literal "https://vox", QString.literal "token"⟩ envelope) ∧
      envelope.ciphertext = QString.literal "vox1:aGk=" ∧
      recoverText envelope.ciphertext = QString.literal "hi" ∧
      ¬HidesText context (QString.literal "c1") := by
  intro context envelope
  exact ⟨rfl, by decide, by decide,
    not_not.mpr ⟨recoverText, recoverText_submittedEnvelope context _⟩⟩

end Application
end VoxDesktop
