import SensorFirmware.Checksum

/-!
# Detection events

The packed 24-byte record of `DetectionEvent.h`.  Counters are natural numbers
that the operations truncate where the source does; flags and reserved bytes
are bit vectors.
-/

namespace SensorFirmware

structure DetectionEvent where
  id : ℕ
  timestampMs : ℕ
  bootCount : ℕ
  durationMs : ℕ
  timestamp : ℕ
  flags : Byte
  reserved : Vector Byte 5
  deriving DecidableEq, Repr

namespace DetectionEvent

def isSynced (event : DetectionEvent) : Bool :=
  event.flags &&& 0x01#8 != 0#8

def setSynced (event : DetectionEvent) : DetectionEvent :=
  { event with flags := event.flags ||| 0x01#8 }

def wasOverflow (event : DetectionEvent) : Bool :=
  event.flags &&& 0x02#8 != 0#8

def setOverflow (event : DetectionEvent) : DetectionEvent :=
  { event with flags := event.flags ||| 0x02#8 }

def isTimeEstimated (event : DetectionEvent) : Bool :=
  event.flags &&& 0x04#8 != 0#8

def setTimeEstimated (event : DetectionEvent) : DetectionEvent :=
  { event with flags := event.flags ||| 0x04#8 }

def clearFlags (event : DetectionEvent) : DetectionEvent :=
  { event with flags := 0#8 }

/-- The all-zero record that `memset` leaves in a slot. -/
def zero : DetectionEvent where
  id := 0
  timestampMs := 0
  bootCount := 0
  durationMs := 0
  timestamp := 0
  flags := 0#8
  reserved := Vector.replicate 5 0#8

def toBytes (event : DetectionEvent) : List Byte :=
  leBytes 4 event.id ++ leBytes 4 event.timestampMs ++
    leBytes 4 event.bootCount ++ leBytes 2 event.durationMs ++
    leBytes 4 event.timestamp ++ [event.flags] ++ event.reserved.toList

theorem length_toBytes (event : DetectionEvent) :
    event.toBytes.length = 24 := by
  simp [toBytes]

/-- The identifier is the first word of the record. -/
theorem leNat_take_toBytes (event : DetectionEvent) :
    leNat (event.toBytes.take 4) = u32 event.id := by
  have htake : event.toBytes.take 4 = leBytes 4 event.id := by
    simp only [toBytes, List.append_assoc]
    exact List.take_left' (length_leBytes 4 event.id)
  rw [htake, leNat_leBytes]
  rfl

private theorem synced_bit (flags : Byte) :
    ((flags ||| 0x01#8) &&& 0x01#8 != 0#8) = true := by
  revert flags
  decide

private theorem synced_keeps_overflow (flags : Byte) :
    (flags ||| 0x01#8) &&& 0x02#8 = flags &&& 0x02#8 := by
  revert flags
  decide

private theorem synced_keeps_estimated (flags : Byte) :
    (flags ||| 0x01#8) &&& 0x04#8 = flags &&& 0x04#8 := by
  revert flags
  decide

private theorem synced_again (flags : Byte) :
    (flags &&& 0x01#8 != 0#8) = true → flags ||| 0x01#8 = flags := by
  revert flags
  decide

@[simp] theorem isSynced_setSynced (event : DetectionEvent) :
    event.setSynced.isSynced = true :=
  synced_bit event.flags

theorem setSynced_of_isSynced {event : DetectionEvent}
    (hsynced : event.isSynced = true) : event.setSynced = event := by
  have hflags := synced_again event.flags hsynced
  simp [setSynced, hflags]

@[simp] theorem wasOverflow_setSynced (event : DetectionEvent) :
    event.setSynced.wasOverflow = event.wasOverflow := by
  simp [wasOverflow, setSynced, synced_keeps_overflow]

@[simp] theorem isTimeEstimated_setSynced (event : DetectionEvent) :
    event.setSynced.isTimeEstimated = event.isTimeEstimated := by
  simp [isTimeEstimated, setSynced, synced_keeps_estimated]

@[simp] theorem id_setSynced (event : DetectionEvent) :
    event.setSynced.id = event.id := rfl

@[simp] theorem bootCount_setSynced (event : DetectionEvent) :
    event.setSynced.bootCount = event.bootCount := rfl

end DetectionEvent

end SensorFirmware
