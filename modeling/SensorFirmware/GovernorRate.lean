import SensorFirmware.PumpGovernor
import SensorFirmware.SlidingRate

/-!
# The rate that the governor allows

The governor counts in windows that open one after the other, and a sliding
window of the same length may take the end of one and the beginning of the
next.  Times are milliseconds since boot; the code reads them as 32-bit words.
-/

namespace SensorFirmware

open FixedWindow GuardedRun

/-- A call of `sendDetectionEvent` without the bypass. -/
structure DetectionCall where
  time : ℕ
  connected : Bool
  link : BleLink
  locked : Bool
  event : DetectionEvent
  deriving DecidableEq, Repr

/-- The handler, and the times of the calls that got past the governor. -/
structure GovernedCalls where
  handler : ProtocolHandler
  admitted : List ℕ

def GovernedCalls.step (calls : GovernedCalls) (call : DetectionCall) :
    GovernedCalls where
  handler := (calls.handler.sendDetectionEvent call.connected call.link
    call.locked (u32 call.time) call.event false).handler
  admitted :=
    if calls.handler.governorDrops (u32 call.time) then calls.admitted
    else calls.admitted ++ [call.time]

/-- The limit of the governor on the time since boot. -/
def uptimeLimit : Limit where
  elapsed now start := u32 (now - start)
  width := Protocol.detectionRateWindowMs
  budget := Protocol.maxDetectionsPerWindow

/-- The window as the code keeps it. -/
def readWindow (window : Window) : Window := ⟨u32 window.start, window.calls⟩

theorem renew_readWindow {window : Window} {now : ℕ}
    (hstart : window.start ≤ now) :
    detectionLimit.renew (readWindow window) (u32 now) =
      readWindow (uptimeLimit.renew window now) := by
  have helapsed : sub32 (u32 now) (u32 window.start) =
      u32 (now - window.start) := sub32_u32 hstart
  have hopens : detectionLimit.width <
      detectionLimit.elapsed (u32 now) (readWindow window).start ↔
        uptimeLimit.width < uptimeLimit.elapsed now window.start := by
    change _ < sub32 (u32 now) (u32 window.start) ↔ _
    rw [helapsed]
    rfl
  unfold Limit.renew
  rw [if_congr hopens rfl rfl]
  split <;> rfl

theorem governor_sendDetectionEvent (handler : ProtocolHandler)
    (call : DetectionCall) (now : ℕ) :
    (handler.sendDetectionEvent call.connected call.link call.locked now
        call.event false).handler.governor =
      if detectionLimit.Admits handler.governor now then
        detectionLimit.count handler.governor now
      else detectionLimit.renew handler.governor now := by
  rw [ProtocolHandler.sendDetectionEvent_governed]
  by_cases hadmits : detectionLimit.Admits handler.governor now
  · have hkept : ¬handler.governorDrops now = true := by
      rw [ProtocolHandler.governorDrops_iff]
      exact not_not_intro hadmits
    rw [if_neg hkept, if_pos hadmits, ProtocolHandler.governor_sendMessage,
      ProtocolHandler.governor_countDetection hadmits]
  · rw [if_pos (ProtocolHandler.governorDrops_iff.mpr hadmits),
      if_neg hadmits]
    exact ProtocolHandler.governor_renewWindow

/-- The handler keeps the window of a limiter that admits the same calls. -/
structure GovernedCalls.Refines (calls : GovernedCalls) (limiter : Limiter) :
    Prop where
  window : calls.handler.governor = readWindow limiter.window
  admitted : calls.admitted = limiter.admitted

theorem GovernedCalls.Refines.step {calls : GovernedCalls} {limiter : Limiter}
    (hrefines : calls.Refines limiter) {call : DetectionCall}
    (hstart : limiter.window.start ≤ call.time) :
    (calls.step call).Refines (uptimeLimit.call limiter call.time) := by
  have hrenew := renew_readWindow hstart
  have hadmits : detectionLimit.Admits calls.handler.governor
      (u32 call.time) ↔ uptimeLimit.Admits limiter.window call.time := by
    unfold Limit.Admits
    rw [hrefines.window, hrenew]
    rfl
  have hnext := governor_sendDetectionEvent calls.handler call (u32 call.time)
  rw [if_congr hadmits rfl rfl] at hnext
  unfold Limit.call
  by_cases hhere : uptimeLimit.Admits limiter.window call.time
  · have hkept : ¬calls.handler.governorDrops (u32 call.time) = true := by
      rw [ProtocolHandler.governorDrops_iff]
      exact not_not_intro (hadmits.mpr hhere)
    rw [if_pos hhere]
    constructor
    · rw [if_pos hhere] at hnext
      rw [GovernedCalls.step, hnext, Limit.count, hrefines.window, hrenew]
      rfl
    · rw [GovernedCalls.step, if_neg hkept, hrefines.admitted]
  · have hdrops := ProtocolHandler.governorDrops_iff.mpr
      (mt hadmits.mp hhere)
    rw [if_neg hhere]
    constructor
    · rw [if_neg hhere] at hnext
      rw [GovernedCalls.step, hnext, hrefines.window, hrenew]
    · rw [GovernedCalls.step, if_pos hdrops, hrefines.admitted]

theorem GovernedCalls.Refines.run {calls : GovernedCalls} {limiter : Limiter}
    {group : Grouping} {clock : ℕ} (hrefines : calls.Refines limiter)
    (htracks : uptimeLimit.Tracks limiter group clock)
    {inputs : List DetectionCall}
    (hsorted : (clock :: inputs.map DetectionCall.time).Pairwise (· ≤ ·)) :
    (GuardedRun.run GovernedCalls.step calls inputs).Refines
      (GuardedRun.run uptimeLimit.call limiter
        (inputs.map DetectionCall.time)) := by
  induction inputs generalizing calls limiter group clock with
  | nil => exact hrefines
  | cons call inputs ih =>
      obtain ⟨hbefore, hrest⟩ := List.pairwise_cons.mp hsorted
      have hnow : clock ≤ call.time := hbefore _ (.head _)
      have hstart : limiter.window.start ≤ call.time := by
        rw [htracks.window]
        exact htracks.start_le.trans hnow
      have helapsed : uptimeLimit.elapsed call.time group.start ≤
          call.time - group.start := Nat.mod_le _ _
      exact ih (hrefines.step hstart) (htracks.call helapsed hnow).1 hrest

/-- The governor bounds the rate in every interval exactly if no call that is
among the first five of its window comes within the width after its counterpart
in the window before. -/
theorem governor_bounds_rate_iff {handler : ProtocolHandler}
    (hstart : handler.governor = ⟨0, 0⟩) {calls : List DetectionCall}
    (hsorted : (calls.map DetectionCall.time).Pairwise (· ≤ ·)) :
    (∀ first, ((run GovernedCalls.step ⟨handler, []⟩ calls).admitted.filter
        fun time => first ≤ time ∧
          time ≤ first + Protocol.detectionRateWindowMs).length ≤
        Protocol.maxDetectionsPerWindow) ↔
      Guarded uptimeLimit.place uptimeLimit.Spread ⟨0, [], []⟩
        (calls.map DetectionCall.time) := by
  have htracks := uptimeLimit.tracks_start (le_refl 0)
  have hall : (0 :: calls.map DetectionCall.time).Pairwise (· ≤ ·) :=
    List.pairwise_cons.mpr ⟨fun time _ => Nat.zero_le time, hsorted⟩
  have hrefines : GovernedCalls.Refines ⟨handler, []⟩ ⟨⟨0, 0⟩, []⟩ :=
    ⟨hstart, rfl⟩
  have hadmitted := (hrefines.run htracks hall).admitted
  have hbounded := htracks.rateBounded_iff
    (fun now start _ => Nat.mod_le (now - start) (2 ^ 32)) hall
  have hnone : uptimeLimit.RateBounded [] := fun _ => Nat.zero_le _
  rw [hadmitted]
  exact hbounded.trans (and_iff_right hnone)

/-- Calls of the pump at the given times, with all slots free at first. -/
def pumpCalls (times : List ℕ) : List DetectionCall :=
  times.map fun time => ⟨time, true, ⟨true, true⟩, true, .zero⟩

theorem calls_each_150_ms_within_rate :
    (∀ first, ((run GovernedCalls.step ⟨.construct, []⟩
        (pumpCalls [5000, 5150, 5300, 5450, 5600, 5750, 5900, 6050])).admitted
          |>.filter fun time => first ≤ time ∧
            time ≤ first + Protocol.detectionRateWindowMs).length ≤
        Protocol.maxDetectionsPerWindow) ↔
      Guarded uptimeLimit.place uptimeLimit.Spread ⟨0, [], []⟩
        [5000, 5150, 5300, 5450, 5600, 5750, 5900, 6050] :=
  governor_bounds_rate_iff rfl
    (by decide : ((pumpCalls [5000, 5150, 5300, 5450, 5600, 5750, 5900,
      6050]).map DetectionCall.time).Pairwise (· ≤ ·))

/-- Seven calls are let through within 901 ms, none less than 150 ms after the
one before it. -/
theorem seven_calls_around_a_new_window :
    ¬∀ first, ((run GovernedCalls.step ⟨.construct, []⟩
        (pumpCalls [5000, 5400, 5550, 5700, 5850, 6001, 6151, 6301])).admitted
          |>.filter fun time => first ≤ time ∧
            time ≤ first + Protocol.detectionRateWindowMs).length ≤
        Protocol.maxDetectionsPerWindow := by
  intro hall
  have hhere := hall 5400
  revert hhere
  decide +kernel

end SensorFirmware
