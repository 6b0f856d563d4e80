import Mathlib.Data.List.Sort
import VoxDesktop.Domain.Devices
import VoxDesktop.Library.Table

/-!
# The table of devices

`SqlDevicesRepository` over the rows of `devices`, whose primary key is the
device id.  The columns of the signed prekey are always bound empty.  Whether
a statement executes is an argument.
-/

namespace VoxDesktop
namespace Storage

open Qt Library Domain

structure DeviceRow where
  deviceId : QString
  userId : QString
  serverId : QString
  label : QString
  identitySignPub : QByteArray
  identityDhPub : QByteArray
  signedPrekeyPub : QByteArray
  signedPrekeyId : ℤ
  signedPrekeySig : QByteArray
  lastSeenMs : ℤ
  trustState : QString
deriving DecidableEq

abbrev DeviceTable : Type := Table DeviceRow.deviceId

namespace DevicesRepository

/-- `QDateTime::toMSecsSinceEpoch`; a time that is not valid gives a number
too. -/
def toMSecsSinceEpoch (time : Option ℤ) : ℤ := time.getD 0

/-- The values bound for a device. -/
def rowOf (device : Device) : DeviceRow where
  deviceId := device.deviceId
  userId := device.userId
  serverId := device.serverId
  label := device.label
  identitySignPub := device.identitySignPub
  identityDhPub := device.identityDhPub
  signedPrekeyPub := []
  signedPrekeyId := 0
  signedPrekeySig := []
  lastSeenMs := toMSecsSinceEpoch device.lastSeen
  trustState := device.trustLevel.toString

/-- The columns that `ON CONFLICT(device_id) DO UPDATE` sets. -/
def updateRow (stored excluded : DeviceRow) : DeviceRow :=
  { stored with
    label := excluded.label
    lastSeenMs := excluded.lastSeenMs
    trustState := excluded.trustState }

theorem keepsKey_updateRow :
    Table.KeepsKey DeviceRow.deviceId updateRow :=
  fun _ _ same => same

def upsertDevice
    (table : DeviceTable) (device : Device) (executed : Bool) :
    Bool × DeviceTable :=
  if executed then
    (true, table.upsert updateRow keepsKey_updateRow (rowOf device))
  else (false, table)

/-- The device read from a row. -/
def readDevice (row : DeviceRow) : Device where
  deviceId := row.deviceId
  userId := row.userId
  serverId := row.serverId
  label := row.label
  identitySignPub := row.identitySignPub
  identityDhPub := row.identityDhPub
  trustLevel := (TrustLevel.fromString row.trustState).getD .unknown
  lastSeen := some row.lastSeenMs

/-- `WHERE user_id = ? ORDER BY last_seen_ms DESC`; the sorter keeps equal
rows in the order of the table. -/
def listDevicesByUser
    (table : DeviceTable) (userId : QString) (executed : Bool) :
    List Device :=
  if executed then
    ((table.rows.filter fun row => row.userId = userId).insertionSort
      fun first second => second.lastSeenMs ≤ first.lastSeenMs).map readDevice
  else []

/-- The listing has the devices of the user that are in the table. -/
theorem mem_listDevicesByUser
    (table : DeviceTable) (userId : QString) (device : Device) :
    device ∈ listDevicesByUser table userId true ↔
      device.userId = userId ∧ ∃ row ∈ table.rows, readDevice row = device := by
  simp only [listDevicesByUser, if_true, List.mem_map, List.mem_insertionSort,
    List.mem_filter, decide_eq_true_eq]
  constructor
  · rintro ⟨row, ⟨within, owned⟩, rfl⟩
    exact ⟨owned, row, within, rfl⟩
  · rintro ⟨owned, row, within, rfl⟩
    exact ⟨row, ⟨within, owned⟩, rfl⟩

end DevicesRepository
end Storage
end VoxDesktop
