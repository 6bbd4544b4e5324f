import SensorFirmware.Checksum

/-!
# The settable system clock

One microsecond counter stands for the clock behind `gettimeofday`.  It keeps
running in deep sleep, `settimeofday` replaces it, and both the wall-clock
time and the system uptime are read from it.
-/

namespace SensorFirmware

/-- Value of the clock in microseconds. -/
abbrev ClockMicros := ℕ

namespace ClockMicros

def tvSec (clock : ClockMicros) : ℕ := clock / 1000000

def tvUsec (clock : ClockMicros) : ℕ := clock % 1000000

def settimeofday (tvSec tvUsec : ℕ) : ClockMicros :=
  tvSec * 1000000 + tvUsec

/-- `time(NULL)` as the firmware stores it, in a 32-bit word. -/
def time (clock : ClockMicros) : ℕ := u32 clock.tvSec

end ClockMicros

/-- `HAL::getSystemUptime`: every operation is on 32-bit words. -/
def getSystemUptime (clock : ClockMicros) : ℕ :=
  u32 (u32 (u32 clock.tvSec * 1000) + u32 (clock.tvUsec / 1000))

/-- The uptime is the clock in whole milliseconds, truncated once. -/
theorem getSystemUptime_eq (clock : ClockMicros) :
    getSystemUptime clock = clock / 1000 % 2 ^ 32 := by
  simp only [getSystemUptime, ClockMicros.tvSec, ClockMicros.tvUsec, u32]
  omega

end SensorFirmware
