import Mathlib.Data.Int.Notation
import VoxDesktop.Qt.Text

/-!
# Devices

The part of `domain/Models` that belongs to devices: the levels of trust,
their names in the database, and the device itself.
-/

namespace VoxDesktop
namespace Domain

open Qt

inductive TrustLevel
  | unknown
  | unverified
  | verified
  | blocked
deriving DecidableEq

namespace TrustLevel

def toString : TrustLevel → QString
  | unknown => QString.literal "unknown"
  | unverified => QString.literal "unverified"
  | verified => QString.literal "verified"
  | blocked => QString.literal "blocked"

/-- The entries of the table `trustLevelFromString` searches. -/
def table : List TrustLevel := [unknown, unverified, verified, blocked]

/-- `trustLevelFromString`. -/
def fromString (state : QString) : Option TrustLevel :=
  table.find? fun entry => entry.toString = state

@[simp] theorem fromString_toString (level : TrustLevel) :
    fromString level.toString = some level := by
  cases level <;> decide

end TrustLevel

/-- A device; the time it was last seen in milliseconds, none for a
`QDateTime` that is not valid. -/
structure Device where
  deviceId : QString
  userId : QString
  serverId : QString
  label : QString
  identitySignPub : QByteArray
  identityDhPub : QByteArray
  trustLevel : TrustLevel := .unknown
  lastSeen : Option ℤ := none
deriving DecidableEq

end Domain
end VoxDesktop
