import SensorFirmware.Checksum
import SensorFirmware.GuardedRun

/-!
# Suppressed detections

A request suppresses detections for some milliseconds.  `Sensor_HAL` keeps one
deadline, of the request made last, as a value of the 32-bit millisecond
counter, and a flag that the first query at or after the deadline clears.
-/

namespace SensorFirmware

open GuardedRun

structure HitSuppression where
  hitsSuppressed : Bool
  suppressEndTime : ℕ
  deriving DecidableEq

namespace HitSuppression

def suppressDetections (millis durationMs : ℕ) : HitSuppression where
  hitsSuppressed := true
  suppressEndTime := u32 (millis + durationMs)

/-- An expired suppression is cleared. -/
def areHitsSuppressed (sensor : HitSuppression) (now : ℕ) :
    Bool × HitSuppression :=
  if !sensor.hitsSuppressed then (false, sensor)
  else if sensor.suppressEndTime ≤ now then
    (false, { sensor with hitsSuppressed := false })
  else (true, sensor)

/-- The flag is left as the query answered, and up only if it was. -/
theorem areHitsSuppressed_spec (sensor : HitSuppression) (now : ℕ) :
    (sensor.areHitsSuppressed now).2.hitsSuppressed =
        (sensor.areHitsSuppressed now).1 ∧
      (sensor.areHitsSuppressed now).2.suppressEndTime =
        sensor.suppressEndTime ∧
      ((sensor.areHitsSuppressed now).1 = true →
        sensor.hitsSuppressed = true) := by
  unfold areHitsSuppressed
  cases hflag : sensor.hitsSuppressed with
  | false => simp [hflag]
  | true =>
      by_cases hle : sensor.suppressEndTime ≤ now
      · simp [hle]
      · simp [hle, hflag]

/-- A query while the flag is up compares with the deadline. -/
theorem areHitsSuppressed_raised {sensor : HitSuppression} {deadline : ℕ}
    (hraised : sensor.hitsSuppressed = true)
    (hdeadline : sensor.suppressEndTime = deadline) (now : ℕ) :
    (sensor.areHitsSuppressed now).1 = true ↔ now < deadline := by
  unfold HitSuppression.areHitsSuppressed
  rw [hraised, hdeadline]
  by_cases hlt : now < deadline
  · simp [hlt, not_le.mpr hlt]
  · simp [hlt, not_lt.mp hlt]

theorem areHitsSuppressed_cleared {sensor : HitSuppression}
    (hcleared : sensor.hitsSuppressed = false) (now : ℕ) :
    sensor.areHitsSuppressed now = (false, sensor) := by
  simp [HitSuppression.areHitsSuppressed, hcleared]

end HitSuppression

/-- A request, in milliseconds that are not reduced to 32 bits. -/
structure SuppressRequest where
  start : ℕ
  durationMs : UInt32
  deriving DecidableEq

namespace SuppressRequest

def finish (request : SuppressRequest) : ℕ :=
  request.start + request.durationMs.toNat

/-- The window `[start, start + durationMs)`. -/
def Covers (request : SuppressRequest) (time : ℕ) : Prop :=
  request.start ≤ time ∧ time < request.finish

instance (request : SuppressRequest) (time : ℕ) :
    Decidable (request.Covers time) :=
  inferInstanceAs (Decidable (_ ∧ _))

theorem finish_lt (request : SuppressRequest) :
    request.finish < request.start + 2 ^ 32 :=
  Nat.add_lt_add_left request.durationMs.toNat_lt request.start

end SuppressRequest

/-- The calls, each so many milliseconds after the one before. -/
inductive SuppressCall where
  | suppress (after : ℕ) (durationMs : UInt32)
  | query (after : ℕ)
  deriving DecidableEq

/-- The sensor, the time that `millis` is the low 32 bits of, and the requests
so far, newest first. -/
structure SuppressHistory where
  sensor : HitSuppression
  time : ℕ
  requests : List SuppressRequest
  deriving DecidableEq

namespace SuppressHistory

/-- The deadline is not initialised. -/
def boot (suppressEndTime time : ℕ) : SuppressHistory where
  sensor := ⟨false, suppressEndTime⟩
  time := time
  requests := []

def step (history : SuppressHistory) : SuppressCall → SuppressHistory
  | .suppress after durationMs =>
      { sensor := .suppressDetections (u32 (history.time + after))
          durationMs.toNat
        time := history.time + after
        requests := ⟨history.time + after, durationMs⟩ :: history.requests }
  | .query after =>
      { history with
        sensor :=
          (history.sensor.areHitsSuppressed (u32 (history.time + after))).2
        time := history.time + after }

/-- Some request's window covers the time. -/
def Suppressed (history : SuppressHistory) (time : ℕ) : Prop :=
  ∃ request ∈ history.requests, request.Covers time

instance (history : SuppressHistory) (time : ℕ) :
    Decidable (history.Suppressed time) :=
  inferInstanceAs (Decidable (∃ request ∈ history.requests, _))

/-- A query answers whether some window covers its time. -/
def Exact (history : SuppressHistory) : SuppressCall → Prop
  | .suppress _ _ => True
  | .query after =>
      (history.sensor.areHitsSuppressed
          (u32 (history.time + after))).1 = true ↔
        history.Suppressed (history.time + after)

instance (history : SuppressHistory) :
    (call : SuppressCall) → Decidable (history.Exact call)
  | .suppress _ _ => isTrue trivial
  | .query _ => inferInstanceAs (Decidable (_ ↔ _))

/-- The counter has not wrapped between the two times. -/
def SamePeriod (left right : ℕ) : Prop := left / 2 ^ 32 = right / 2 ^ 32

/-- While the flag is up: inside a window, the end of the newest request is
still to come in the same period of the counter, or lies behind in an earlier
one; outside all windows, the counter is not below the end. -/
def InTime (history : SuppressHistory) : SuppressCall → Prop
  | .suppress _ _ => True
  | .query after =>
      history.sensor.hitsSuppressed = true →
        ∀ newest ∈ history.requests.head?,
          if history.Suppressed (history.time + after) then
            (history.time + after < newest.finish ↔
              SamePeriod (history.time + after) newest.finish)
          else u32 newest.finish ≤ u32 (history.time + after)

/-! ## What the flag and the deadline stand for -/

structure Tracks (history : SuppressHistory) : Prop where
  past : ∀ request ∈ history.requests, request.start ≤ history.time
  latest : ∀ newest ∈ history.requests.head?,
    ∀ request ∈ history.requests, request.start ≤ newest.start
  raised : history.sensor.hitsSuppressed = true →
    ∃ newest, history.requests.head? = some newest ∧
      history.sensor.suppressEndTime = u32 newest.finish
  cleared : history.sensor.hitsSuppressed = false →
    ∀ later, history.time ≤ later → ¬history.Suppressed later

theorem tracks_boot (suppressEndTime time : ℕ) :
    (boot suppressEndTime time).Tracks where
  past := by simp [boot]
  latest := by simp [boot]
  raised := by simp [boot]
  cleared := by simp [boot, Suppressed]

/-- Less than a period apart, the counter compares two times rightly exactly
if it has not wrapped between them. -/
theorem u32_lt_iff {time finish : ℕ} (hbefore : finish < time + 2 ^ 32)
    (hafter : time < finish + 2 ^ 32) :
    u32 time < u32 finish ↔ (time < finish ↔ SamePeriod time finish) := by
  unfold u32 SamePeriod
  omega

theorem exact_iff_inTime {history : SuppressHistory}
    (htracks : history.Tracks) (call : SuppressCall) :
    history.Exact call ↔ history.InTime call := by
  cases call with
  | suppress after durationMs => exact Iff.rfl
  | query after =>
      have hlater : history.time ≤ history.time + after :=
        Nat.le_add_right _ _
      cases hflag : history.sensor.hitsSuppressed with
      | false =>
          have hnone := htracks.cleared hflag _ hlater
          have hanswer := HitSuppression.areHitsSuppressed_cleared hflag
          simp [Exact, InTime, hanswer, hflag, hnone]
      | true =>
          obtain ⟨newest, hnewest, hdeadline⟩ := htracks.raised hflag
          have hanswer := HitSuppression.areHitsSuppressed_raised hflag
            hdeadline (u32 (history.time + after))
          simp only [Exact, InTime, hflag, hnewest, Option.mem_some_iff,
            forall_eq', forall_const, hanswer]
          split
          next hcovered =>
            rw [iff_true_intro hcovered, iff_true]
            obtain ⟨request, hrequest, -, hbefore⟩ := hcovered
            have hold := htracks.latest newest hnewest request hrequest
            have hstart := htracks.past newest (List.mem_of_head? hnewest)
            have hfinish := newest.finish_lt
            have hrequested := request.finish_lt
            have hend : newest.start ≤ newest.finish := Nat.le_add_right _ _
            exact u32_lt_iff (by omega) (by omega)
          next hcovered =>
            rw [iff_false_intro hcovered, iff_false, not_lt]

theorem not_suppressed_later {history : SuppressHistory} {time later : ℕ}
    (hpast : ∀ request ∈ history.requests, request.start ≤ time)
    (hnone : ¬history.Suppressed time) (hle : time ≤ later) :
    ¬history.Suppressed later := by
  rintro ⟨request, hrequest, -, hbefore⟩
  exact hnone ⟨request, hrequest, hpast request hrequest,
    hle.trans_lt hbefore⟩

theorem tracks_suppress {history : SuppressHistory}
    (htracks : history.Tracks) (after : ℕ) (durationMs : UInt32) :
    (history.step (.suppress after durationMs)).Tracks where
  past := by
    intro request hrequest
    rcases List.mem_cons.mp hrequest with rfl | hold
    · exact le_rfl
    · exact (htracks.past request hold).trans (Nat.le_add_right _ _)
  latest := by
    intro newest hnewest request hrequest
    cases Option.some.inj hnewest
    rcases List.mem_cons.mp hrequest with rfl | hold
    · exact le_rfl
    · exact (htracks.past request hold).trans (Nat.le_add_right _ _)
  raised := by
    intro _
    refine ⟨_, rfl, ?_⟩
    simp only [step, HitSuppression.suppressDetections,
      SuppressRequest.finish, u32]
    omega
  cleared := by
    intro hflag
    cases hflag

theorem tracks_query {history : SuppressHistory} (htracks : history.Tracks)
    {after : ℕ} (hexact : history.Exact (.query after)) :
    (history.step (.query after)).Tracks := by
  have hlater : history.time ≤ history.time + after := Nat.le_add_right _ _
  have hpast : ∀ request ∈ history.requests,
      request.start ≤ history.time + after :=
    fun request hrequest => (htracks.past request hrequest).trans hlater
  obtain ⟨hflag, hdeadline, hraised⟩ :=
    history.sensor.areHitsSuppressed_spec (u32 (history.time + after))
  refine ⟨hpast, htracks.latest, ?_, ?_⟩
  · intro hstill
    obtain ⟨newest, hnewest, hend⟩ := htracks.raised
      (hraised (hflag.symm.trans hstill))
    exact ⟨newest, hnewest, hdeadline.trans hend⟩
  · intro hcleared later hle
    have hfalse := hflag.symm.trans hcleared
    have hnone : ¬history.Suppressed (history.time + after) := by
      intro hcovered
      rw [hexact.mpr hcovered] at hfalse
      cases hfalse
    exact not_suppressed_later hpast hnone hle

theorem tracks_step (history : SuppressHistory) (call : SuppressCall)
    (htracks : history.Tracks) (hexact : history.Exact call) :
    (history.step call).Tracks := by
  cases call with
  | suppress after durationMs => exact tracks_suppress htracks after durationMs
  | query after => exact tracks_query htracks hexact

/-! ## Runs -/

/-- Over every run of requests and queries at any times: all answers are exact
if and only if every query that meets the flag is in time. -/
theorem suppression_exact_iff (suppressEndTime time : ℕ)
    (calls : List SuppressCall) :
    Guarded step Exact (boot suppressEndTime time) calls ↔
      Guarded step InTime (boot suppressEndTime time) calls := by
  have hsame : ∀ (history : SuppressHistory) (call : SuppressCall),
      history.Tracks → (history.Exact call ↔ history.InTime call) :=
    fun _ call htracks => exact_iff_inTime htracks call
  exact guarded_iff_of_invariant tracks_step hsame
    (tracks_boot suppressEndTime time) calls

/-- No request ends before an earlier one, and no wrap lies between the end of
the newest and a query that meets the flag. -/
def Calm (history : SuppressHistory) : SuppressCall → Prop
  | .suppress after durationMs =>
      ∀ request ∈ history.requests,
        request.finish ≤ history.time + after + durationMs.toNat
  | .query after =>
      history.sensor.hitsSuppressed = true →
        ∀ newest ∈ history.requests.head?,
          SamePeriod (history.time + after) newest.finish

/-- The end of the newest request is the end of them all. -/
def EndsLast (history : SuppressHistory) : Prop :=
  ∀ newest ∈ history.requests.head?, ∀ request ∈ history.requests,
    request.finish ≤ newest.finish

theorem inTime_of_calm {history : SuppressHistory} {call : SuppressCall}
    (htracks : history.Tracks) (hlast : history.EndsLast)
    (hcalm : history.Calm call) : history.InTime call := by
  cases call with
  | suppress after durationMs => trivial
  | query after =>
      intro hflag newest hnewest
      have hperiod := hcalm hflag newest hnewest
      split
      next hcovered =>
        obtain ⟨request, hrequest, -, hbefore⟩ := hcovered
        have hend := hlast newest hnewest request hrequest
        exact iff_of_true (hbefore.trans_le hend) hperiod
      next hcovered =>
        have hmem := List.mem_of_head? hnewest
        have hstart : newest.start ≤ history.time + after :=
          (htracks.past newest hmem).trans (Nat.le_add_right _ _)
        have hpassed : newest.finish ≤ history.time + after := by
          by_contra hbefore
          exact hcovered ⟨newest, hmem, hstart, not_le.mp hbefore⟩
        unfold SamePeriod at hperiod
        unfold u32
        omega

theorem endsLast_step {history : SuppressHistory} {call : SuppressCall}
    (hlast : history.EndsLast) (hcalm : history.Calm call) :
    (history.step call).EndsLast := by
  cases call with
  | suppress after durationMs =>
      intro newest hnewest request hrequest
      cases Option.some.inj hnewest
      rcases List.mem_cons.mp hrequest with rfl | hold
      · exact le_rfl
      · exact hcalm request hold
  | query after => exact hlast

/-- Requests that are not cut short and queries without a wrap are answered
exactly. -/
theorem exact_of_calm (suppressEndTime time : ℕ)
    {calls : List SuppressCall}
    (hcalm : Guarded step Calm (boot suppressEndTime time) calls) :
    Guarded step Exact (boot suppressEndTime time) calls := by
  have hgood : ∀ (history : SuppressHistory) (call : SuppressCall),
      history.Tracks ∧ history.EndsLast → history.Calm call →
        history.Exact call := by
    intro history call hinv hcall
    exact (exact_iff_inTime hinv.1 call).mpr
      (inTime_of_calm hinv.1 hinv.2 hcall)
  have hstep : ∀ (history : SuppressHistory) (call : SuppressCall),
      history.Tracks ∧ history.EndsLast → history.Calm call →
        (history.step call).Tracks ∧ (history.step call).EndsLast := by
    intro history call hinv hcall
    exact ⟨tracks_step history call hinv.1 (hgood history call hinv hcall),
      endsLast_step hinv.2 hcall⟩
  have hboot : (boot suppressEndTime time).EndsLast := by
    intro newest hnewest
    cases hnewest
  exact guarded_of_invariant hstep hgood
    ⟨tracks_boot suppressEndTime time, hboot⟩ hcalm

/-- A second's suppression that a shorter request ends, one that ends at once
because its end has wrapped, and one that is still on a second after its end
because no query came before the wrap. -/
theorem suppression_inexact :
    ¬Guarded step Exact (boot 0 0)
        [.suppress 5 1000, .suppress 100 500, .query 600] ∧
      ¬Guarded step Exact (boot 0 0)
        [.suppress (2 ^ 32 - 100) 500, .query 50] ∧
      ¬Guarded step Exact (boot 0 0)
        [.suppress (2 ^ 32 - 1000) 500, .query 1500] := by
  refine ⟨?_, ?_, ?_⟩
  · decide +kernel
  · decide +kernel
  · decide +kernel

end SuppressHistory

end SensorFirmware
