import VoxDesktop.Storage.DevicesRepository
import VoxDesktop.Storage.MessagesRepository

/-!
# Reading back what was stored

The upserts of messages and devices insert every column but update only some
of them.  Over a row that is there already, the others keep what the first
write gave them, so a message or device is read back as it was written only if
it agrees with the stored row there.  A device without a valid time gets one.
-/

namespace VoxDesktop
namespace Storage

open Qt Library Domain

/-! ## Messages -/

namespace MessagesRepository

/-- The limit cuts nothing off the listing of a conversation. -/
def SufficientLimit
    (table : MessageTable) (conversationId : QString) (limit : ℤ) : Prop :=
  limit < 0 ∨ (conversationRows table conversationId).length ≤ limit

theorem mem_listConversationMessages
    {table : MessageTable} {conversationId : QString} {limit : ℤ}
    (sufficient : SufficientLimit table conversationId limit)
    (message : Message) :
    message ∈ listConversationMessages table conversationId limit true ↔
      message.conversationId = conversationId ∧
        ∃ row ∈ table.rows, readMessage row = message := by
  have uncut :
      limitRows (sortRows (conversationRows table conversationId)) limit =
        sortRows (conversationRows table conversationId) := by
    rw [limitRows]
    split
    · rfl
    · rename_i nonnegative
      refine List.take_of_length_le ?_
      rw [sortRows, List.length_insertionSort]
      have bounded := sufficient.resolve_left nonnegative
      omega
  rw [listConversationMessages, if_pos rfl, uncut]
  simp only [sortRows, conversationRows, List.mem_map, List.mem_insertionSort,
    List.mem_filter, decide_eq_true_eq]
  constructor
  · rintro ⟨row, ⟨within, ofConversation⟩, rfl⟩
    exact ⟨ofConversation, row, within, rfl⟩
  · rintro ⟨ofConversation, row, within, rfl⟩
    exact ⟨row, ⟨within, ofConversation⟩, rfl⟩

/-- Without a row of its id, a message is read back unless it replies to the
empty id; with one, if it has the conversation, sequence number, kind, reply
and sender key epoch that are read from the row. -/
def ReadsBack (table : MessageTable) (message : Message) : Prop :=
  match table.lookup message.messageId with
  | none => message.replyToMessageId ≠ some []
  | some row =>
      let stored := readMessage row
      stored.conversationId = message.conversationId ∧
        stored.serverSeq = message.serverSeq ∧
        stored.contentKind = message.contentKind ∧
        stored.replyToMessageId = message.replyToMessageId ∧
        stored.senderKeyEpoch = message.senderKeyEpoch

/-- A message inserted is the one read, but for a reply to the empty id. -/
theorem readMessage_rowOf_iff (message : Message) :
    readMessage (rowOf message) = message ↔
      message.replyToMessageId ≠ some [] := by
  constructor
  · intro same empty
    have reply := congrArg Message.replyToMessageId same
    rw [readMessage, rowOf, empty] at reply
    contradiction
  · exact readMessage_rowOf

/-- A message written over a row is read with the columns that the update
leaves alone. -/
theorem readMessage_updateRow_iff
    {row : MessageRow} {message : Message}
    (sameId : row.messageId = message.messageId) :
    let stored := readMessage row
    readMessage (updateRow row (rowOf message)) = message ↔
      stored.conversationId = message.conversationId ∧
        stored.serverSeq = message.serverSeq ∧
        stored.contentKind = message.contentKind ∧
        stored.replyToMessageId = message.replyToMessageId ∧
        stored.senderKeyEpoch = message.senderKeyEpoch := by
  intro stored
  obtain ⟨_, _, _, _, _, _, _, _, _, _, _, isOutgoing, _, _⟩ := message
  cases isOutgoing <;>
    simp [stored, readMessage, updateRow, rowOf,
      show row.messageId = _ from sameId]

theorem readsBack_iff (table : MessageTable) (message : Message) :
    readMessage
        ((table.lookup message.messageId).elim (rowOf message) fun stored =>
          updateRow stored (rowOf message)) = message ↔
      ReadsBack table message := by
  rw [ReadsBack]
  cases found : table.lookup message.messageId with
  | none => exact readMessage_rowOf_iff message
  | some row =>
      exact readMessage_updateRow_iff
        ((Table.lookup_eq_some_iff _ _ _).mp found).2

theorem mem_list_upsertMessage_iff
    {table : MessageTable} {message : Message} {limit : ℤ}
    (sufficient :
      SufficientLimit (upsertMessage table message true).2
        message.conversationId limit) :
    message ∈ listConversationMessages (upsertMessage table message true).2
        message.conversationId limit true ↔
      ReadsBack table message := by
  rw [mem_listConversationMessages sufficient, ← readsBack_iff]
  refine (and_iff_right rfl).trans
    (Table.exists_mem_upsert_iff table keepsKey_updateRow (rowOf message)
      readMessage ?_)
  rintro stored rfl
  rfl

end MessagesRepository

/-! ## Devices -/

namespace DevicesRepository

/-- The time the device was last seen is valid, and there is no row with its
id or one with its user, server and identity keys. -/
def ReadsBack (table : DeviceTable) (device : Device) : Prop :=
  device.lastSeen ≠ none ∧
    match table.lookup device.deviceId with
    | none => True
    | some row =>
        row.userId = device.userId ∧ row.serverId = device.serverId ∧
          row.identitySignPub = device.identitySignPub ∧
          row.identityDhPub = device.identityDhPub

/-- What is written is a number, and is read as a valid time. -/
theorem some_toMSecsSinceEpoch_iff (time : Option ℤ) :
    some (toMSecsSinceEpoch time) = time ↔ time ≠ none := by
  cases time with
  | none => simp
  | some msecs => simp [toMSecsSinceEpoch]

theorem readsBack_iff (table : DeviceTable) (device : Device) :
    readDevice
        ((table.lookup device.deviceId).elim (rowOf device) fun stored =>
          updateRow stored (rowOf device)) = device ↔
      ReadsBack table device := by
  rw [ReadsBack]
  cases found : table.lookup device.deviceId with
  | none =>
      rw [and_iff_left trivial, ← some_toMSecsSinceEpoch_iff]
      obtain ⟨_, _, _, _, _, _, _, _⟩ := device
      simp [readDevice, rowOf]
  | some row =>
      have sameId : row.deviceId = device.deviceId :=
        ((Table.lookup_eq_some_iff _ _ _).mp found).2
      rw [← some_toMSecsSinceEpoch_iff, and_comm]
      obtain ⟨_, _, _, _, _, _, _, _⟩ := device
      simp [readDevice, updateRow, rowOf, show row.deviceId = _ from sameId,
        and_assoc]

theorem lookup_upsertDevice_of_ne
    (table : DeviceTable) {device : Device} (executed : Bool)
    {deviceId : QString} (other : deviceId ≠ device.deviceId) :
    (upsertDevice table device executed).2.lookup deviceId =
      table.lookup deviceId := by
  cases executed with
  | false => rfl
  | true =>
      exact Table.lookup_upsert_of_ne table keepsKey_updateRow
        (show deviceId ≠ (rowOf device).deviceId from other)

theorem mem_list_upsertDevice_iff
    (table : DeviceTable) (device : Device) :
    device ∈ listDevicesByUser (upsertDevice table device true).2
        device.userId true ↔
      ReadsBack table device := by
  rw [mem_listDevicesByUser, ← readsBack_iff]
  refine (and_iff_right rfl).trans
    (Table.exists_mem_upsert_iff table keepsKey_updateRow (rowOf device)
      readDevice ?_)
  rintro stored rfl
  rfl

end DevicesRepository

/-- After an upsert that returns true, the listing has the message or device
that was written exactly if it agrees with the stored row in the columns that
are not updated, and what is written has a reading of its own; rows of other
ids are as before. -/
theorem upsert_read_back_iff
    (messages : MessageTable)
    (devices : DeviceTable)
    (message : Message)
    (device : Device)
    (limit : ℤ)
    (messageExecuted deviceExecuted : Bool)
    (messageReturned :
      (MessagesRepository.upsertMessage messages message
        messageExecuted).1 = true)
    (deviceReturned :
      (DevicesRepository.upsertDevice devices device
        deviceExecuted).1 = true)
    (sufficient :
      MessagesRepository.SufficientLimit
        (MessagesRepository.upsertMessage messages message
          messageExecuted).2 message.conversationId limit) :
    let messagesAfter :=
      (MessagesRepository.upsertMessage messages message messageExecuted).2
    let devicesAfter :=
      (DevicesRepository.upsertDevice devices device deviceExecuted).2
    ((message ∈ MessagesRepository.listConversationMessages messagesAfter
        message.conversationId limit true ↔
      MessagesRepository.ReadsBack messages message) ∧
      ∀ messageId, messageId ≠ message.messageId →
        messagesAfter.lookup messageId = messages.lookup messageId) ∧
    (device ∈ DevicesRepository.listDevicesByUser devicesAfter
        device.userId true ↔
      DevicesRepository.ReadsBack devices device) ∧
      ∀ deviceId, deviceId ≠ device.deviceId →
        devicesAfter.lookup deviceId = devices.lookup deviceId := by
  intro messagesAfter devicesAfter
  cases messageExecuted with
  | false => contradiction
  | true =>
      cases deviceExecuted with
      | false => contradiction
      | true =>
          refine ⟨⟨MessagesRepository.mem_list_upsertMessage_iff sufficient,
            fun messageId other => ?_⟩,
            DevicesRepository.mem_list_upsertDevice_iff devices device,
            fun deviceId other => ?_⟩
          · exact MessagesRepository.lookup_upsertMessage_of_ne messages true
              other
          · exact DevicesRepository.lookup_upsertDevice_of_ne devices true
              other

section Examples

/-- A message of a conversation with a sequence number and a ciphertext. -/
def sequencedMessage (serverSeq : ℤ) (octet : UInt8) : Message where
  messageId := QString.literal "e"
  conversationId := QString.literal "c"
  senderUserId := QString.literal "u"
  senderDeviceId := QString.literal "d"
  serverSeq := serverSeq
  ciphertextBlob := [octet]

/-- A device with an identity and a level of trust. -/
def trustedDevice (octet : UInt8) (trustLevel : TrustLevel) : Device where
  deviceId := QString.literal "d"
  userId := QString.literal "u"
  serverId := QString.literal "s"
  label := QString.literal "laptop"
  identitySignPub := [octet]
  identityDhPub := [octet]
  trustLevel := trustLevel
  lastSeen := some 0

/-- What is inserted is read back. -/
theorem upsert_read_back_inserted :
    let message := sequencedMessage 1 1
    let device := trustedDevice 1 .unverified
    message ∈ MessagesRepository.listConversationMessages
        (MessagesRepository.upsertMessage Table.empty message true).2
        message.conversationId 10 true ∧
      device ∈ DevicesRepository.listDevicesByUser
        (DevicesRepository.upsertDevice Table.empty device true).2
        device.userId true := by
  intro message device
  obtain ⟨⟨ofMessage, _⟩, ofDevice, _⟩ :=
    upsert_read_back_iff Table.empty Table.empty message device 10 true true
      rfl rfl (Or.inr (by decide))
  have reply : message.replyToMessageId ≠ some [] := by decide
  have seen : device.lastSeen ≠ none := by decide
  exact ⟨ofMessage.mpr reply, ofDevice.mpr ⟨seen, trivial⟩⟩

/-- Written twice, a message is read with the new ciphertext and the old
sequence number, a device with the new trust and the old identity keys. -/
theorem upsert_mixes_two_writes :
    let messages :=
      (MessagesRepository.upsertMessage
        (MessagesRepository.upsertMessage Table.empty (sequencedMessage 1 1)
          true).2 (sequencedMessage 2 2) true).2
    let devices :=
      (DevicesRepository.upsertDevice
        (DevicesRepository.upsertDevice Table.empty
          (trustedDevice 1 .unverified) true).2 (trustedDevice 2 .verified)
          true).2
    MessagesRepository.listConversationMessages messages
        (QString.literal "c") 10 true =
          [{ sequencedMessage 2 2 with serverSeq := 1 }] ∧
      sequencedMessage 2 2 ∉ MessagesRepository.listConversationMessages
        messages (QString.literal "c") 10 true ∧
      DevicesRepository.listDevicesByUser devices (QString.literal "u") true =
        [{ trustedDevice 2 .verified with
          identitySignPub := [1]
          identityDhPub := [1] }] ∧
      trustedDevice 2 .verified ∉ DevicesRepository.listDevicesByUser devices
        (QString.literal "u") true := by
  decide +kernel

end Examples

end Storage
end VoxDesktop
