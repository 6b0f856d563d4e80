import Mathlib.Data.Int.Notation
import VoxDesktop.Qt.Text

/-!
# Conversations

The part of `domain/Models` that belongs to conversations.  The type of a
conversation is cast from a number of the server, which may be none of the
enumeration.
-/

namespace VoxDesktop
namespace Domain

open Qt

inductive ConversationType
  | dm
  | group
  | channel
  /-- A number without a name in the enumeration. -/
  | other (number : ℤ)
deriving DecidableEq

namespace ConversationType

/-- `static_cast<ConversationType>(number)`. -/
def ofInt (number : ℤ) : ConversationType :=
  if number = 0 then dm
  else if number = 1 then group
  else if number = 2 then channel
  else other number

def toString : ConversationType → QString
  | dm => QString.literal "dm"
  | group => QString.literal "group"
  | channel => QString.literal "channel"
  | other _ => QString.literal "dm"

/-- The entries of the table `conversationTypeFromString` searches. -/
def table : List ConversationType := [dm, group, channel]

/-- `conversationTypeFromString`. -/
def fromString (type : QString) : Option ConversationType :=
  table.find? fun entry => entry.toString = type

end ConversationType

/-- A conversation; the time of its last message in milliseconds. -/
structure Conversation where
  conversationId : QString
  serverId : QString
  type : ConversationType := .dm
  title : QString
  lastMessageAt : ℤ
  muted : Bool := false
  pinRank : ℤ := 0
  epoch : ℤ := 0
deriving DecidableEq

end Domain
end VoxDesktop
