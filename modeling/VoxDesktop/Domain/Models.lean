import Mathlib.Data.Int.Notation
import VoxDesktop.Qt.Text

/-!
# Messages

The part of `domain/Models` that belongs to messages: the states of delivery,
the kinds of content, their names in the database, and the message itself.
-/

namespace VoxDesktop
namespace Domain

open Qt

inductive DeliveryState
  | draft
  | queued
  | encrypting
  | uploadingAttachments
  | sending
  | sentToServer
  | deliveredToPeerDevices
  | readLocal
  | failed
deriving DecidableEq

inductive ContentKind
  | text
  | attachment
  | system
deriving DecidableEq

namespace DeliveryState

/-- Position in the order of the enumeration. -/
def rank : DeliveryState → ℕ
  | draft => 0
  | queued => 1
  | encrypting => 2
  | uploadingAttachments => 3
  | sending => 4
  | sentToServer => 5
  | deliveredToPeerDevices => 6
  | readLocal => 7
  | failed => 8

def toString : DeliveryState → QString
  | draft => QString.literal "Draft"
  | queued => QString.literal "Queued"
  | encrypting => QString.literal "Encrypting"
  | uploadingAttachments => QString.literal "UploadingAttachments"
  | sending => QString.literal "Sending"
  | sentToServer => QString.literal "SentToServer"
  | deliveredToPeerDevices => QString.literal "DeliveredToPeerDevices"
  | readLocal => QString.literal "ReadLocal"
  | failed => QString.literal "Failed"

/-- The entries of the table `deliveryStateFromString` searches. -/
def table : List DeliveryState :=
  [draft, queued, encrypting, uploadingAttachments, sending, sentToServer,
    deliveredToPeerDevices, readLocal, failed]

/-- `deliveryStateFromString`. -/
def fromString (state : QString) : Option DeliveryState :=
  table.find? fun entry => entry.toString = state

@[simp] theorem fromString_toString (state : DeliveryState) :
    fromString state.toString = some state := by
  cases state <;> decide

end DeliveryState

namespace ContentKind

def toString : ContentKind → QString
  | text => QString.literal "text"
  | attachment => QString.literal "attachment"
  | system => QString.literal "system"

/-- The entries of the table `contentKindFromString` searches. -/
def table : List ContentKind := [text, attachment, system]

/-- `contentKindFromString`. -/
def fromString (kind : QString) : Option ContentKind :=
  table.find? fun entry => entry.toString = kind

@[simp] theorem fromString_toString (kind : ContentKind) :
    fromString kind.toString = some kind := by
  cases kind <;> decide

end ContentKind

structure Message where
  messageId : QString
  conversationId : QString
  senderUserId : QString
  senderDeviceId : QString
  serverSeq : ℤ := 0
  clientCreatedAtMs : ℤ := 0
  serverReceivedAtMs : ℤ := 0
  contentKind : ContentKind := .text
  ciphertextBlob : QByteArray
  plaintextCacheCiphertext : QByteArray := []
  deliveryState : DeliveryState := .draft
  isOutgoing : Bool := false
  replyToMessageId : Option QString := none
  senderKeyEpoch : ℤ := 0
deriving DecidableEq

end Domain
end VoxDesktop
