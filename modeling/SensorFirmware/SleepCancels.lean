import SensorFirmware.OtaSleepGuard

/-!
# How often the sensor cancels sleep

Each step of the device is a list of operations of the power manager.  Each of
them leaves a mark where it enters `ACTIVE` or `DEEP_SLEEP`, and where the
sensor task's branch cancels a sleep.  The counter of the cancelled sleeps
bounds the cancels in a row.
-/

namespace SensorFirmware

open GuardedRun

inductive PowerOp where
  | transitionTo (state : PowerState)
  | requestSleep
  | notifyActivity (connected : Bool)
  | checkIdleTimeout (connected : Bool) (bondCount : ℕ)
  | cancelOnActivity (connected elevated : Bool)
  | keepAwake
  | deferSleep
  deriving DecidableEq, Repr

namespace PowerOp

def apply (timing : PowerTiming) (ms : ℕ) (power : PowerManager) :
    PowerOp → PowerManager
  | transitionTo state => power.transitionTo state ms
  | requestSleep => power.requestSleep ms
  | notifyActivity connected => power.notifyActivity connected ms
  | checkIdleTimeout connected bondCount =>
      power.checkIdleTimeout timing connected bondCount ms
  | cancelOnActivity connected elevated =>
      power.cancelOnActivity timing connected elevated ms
  | keepAwake => { power with lastActivityTime := ms }
  | deferSleep =>
      { power with sleepDeferred := true, sleepPrepStartTime := ms }

/-- The sensor task's branch. -/
def isSensor : PowerOp → Bool
  | cancelOnActivity _ _ => true
  | _ => false

end PowerOp

@[simp] theorem PowerManager.currentState_transitionTo (power : PowerManager)
    (state : PowerState) (ms : ℕ) :
    (power.transitionTo state ms).currentState = state := by
  unfold transitionTo
  split
  next hsame => exact hsame
  next hmoves => cases state <;> rfl

/-! ## The operations of a step -/

namespace PoweredDevice

variable {σ : Type*}

def enterDeepSleepOps (device : PoweredDevice σ) (env : SleepTry) :
    List PowerOp :=
  (if device.connected && env.disconnectSeen &&
      device.power.currentState != .sleepPrep then [.transitionTo .wakeMode]
    else []) ++
  match env.outcome with
  | .proximityElevated => [.transitionTo .wakeMode, .keepAwake]
  | .wakePinLow => [.transitionTo .detectionActive, .keepAwake]
  | .asleep => []

def updateOps (timing : PowerTiming) (device : PoweredDevice σ) (ms : ℕ)
    (env : UpdateEnv) : List PowerOp :=
  match device.power.currentState with
  | .wakeMode => [.checkIdleTimeout device.connected env.bondCount]
  | .active =>
      if device.ota.manager.isInProgress || env.flushing then [.keepAwake]
      else if 0 < device.power.lastActivityTime ∧
          timing.connectedIdleTimeoutMs ≤
            sub32 ms device.power.lastActivityTime then [.requestSleep]
      else []
  | .sleepPrep =>
      let forced := device.power.shouldForceSleep timing device.connected ms
      if device.power.getSleepPrepRemaining timing ms = 0 ∨ forced = true then
        if PowerManager.canSafelyEnterSleep env.pendingCount
            device.ota.manager.isInProgress || forced then
          .transitionTo .deepSleep :: { device with
            power := device.power.transitionTo .deepSleep
              ms }.enterDeepSleepOps env.sleep
        else [.deferSleep]
      else []
  | .boot | .detectionActive | .deepSleep => []

def sensorPassOps (device : PoweredDevice σ) (pass : SensorPass) :
    List PowerOp :=
  let connects :=
    device.power.currentState = .wakeMode ∧ device.connected = true
  let state := if connects then .active else device.power.currentState
  (if connects then [.transitionTo .active] else []) ++
    (if state = .active ∨ state = .detectionActive ∨ state = .wakeMode ∨
        state = .sleepPrep then
      pass.detection.toList.map fun moved => .transitionTo moved.powerState
    else []) ++
    (if state = .detectionActive then
      pass.recovery.toList.map fun moved => .transitionTo moved.powerState
    else []) ++
    if state = .sleepPrep then
      [.cancelOnActivity device.connected pass.elevated]
    else []

def receiveOps (device : PoweredDevice σ) : AppMessage → List PowerOp
  | .rejected | .heartbeatOrAck => []
  | .other | .ota _ => [.notifyActivity device.connected]
  | .sleep => [.notifyActivity device.connected, .requestSleep]

def powerOps (timing : PowerTiming) (device : PoweredDevice σ)
    (input : PowerInput) : List PowerOp :=
  let ms := u32 input.ms
  if device.halted then []
  else
    match input.event with
    | .setupDone => [.transitionTo .wakeMode]
    | .bleConnect => [.transitionTo .active]
    | .bleDisconnect =>
        if device.power.currentState ≠ .sleepPrep then
          [.transitionTo .wakeMode]
        else []
    | .received message => device.receiveOps message
    | .sensor pass => device.sensorPassOps pass
    | .update env => device.updateOps timing ms env
    | .otaUpdate => []
    | .checkHeartbeatTimeout detecting bondCount =>
        if device.power.currentState = .active ∧ device.connected = true ∧
            detecting = false ∧ bondCount = 0 ∧
            timing.heartbeatTimeoutMs <
              sub32 ms device.lastHeartbeatReceived then [.requestSleep]
        else []

theorem power_enterDeepSleep (timing : PowerTiming)
    (device : PoweredDevice σ) (ms : ℕ) (env : SleepTry) :
    (device.enterDeepSleep ms env).power =
      run (PowerOp.apply timing ms) device.power
        (device.enterDeepSleepOps env) := by
  unfold enterDeepSleep enterDeepSleepOps
  by_cases hseen : (device.connected && env.disconnectSeen) = true
  · by_cases hprep : device.power.currentState = .sleepPrep
    · cases env.outcome <;>
        simp [hseen, hprep, onBleDisconnect, PowerOp.apply]
    · cases env.outcome <;>
        simp [hseen, hprep, onBleDisconnect, PowerOp.apply]
  · cases env.outcome <;> simp [hseen, PowerOp.apply]

theorem power_update (timing : PowerTiming) (device : PoweredDevice σ)
    (ms : ℕ) (env : UpdateEnv) :
    (device.update timing ms env).power =
      run (PowerOp.apply timing ms) device.power
        (device.updateOps timing ms env) := by
  unfold update updateOps
  cases hstate : device.power.currentState with
  | wakeMode => rfl
  | active =>
      unfold updateActive
      cases device.ota.manager.isInProgress with
      | true => simp [PowerOp.apply]
      | false =>
          cases env.flushing with
          | true => simp [PowerOp.apply]
          | false =>
              simp only [Bool.false_eq_true, if_false, Bool.or_self]
              split <;> rfl
  | sleepPrep =>
      unfold updateSleepPrep
      dsimp only
      split
      · split
        · rw [power_enterDeepSleep timing]
          rfl
        · rfl
      · rfl
  | boot | detectionActive | deepSleep => rfl

theorem power_sensorPass (timing : PowerTiming) (device : PoweredDevice σ)
    (ms : ℕ) (pass : SensorPass) :
    (device.sensorPass timing ms pass).power =
      run (PowerOp.apply timing ms) device.power
        (device.sensorPassOps pass) := by
  have hmoved : ∀ (power : PowerManager) (moved : Option AwakeState),
      power.moveTo ms moved = run (PowerOp.apply timing ms) power
        (moved.toList.map fun moved => .transitionTo moved.powerState) := by
    intro power moved
    cases moved <;> rfl
  unfold sensorPass sensorPassOps
  by_cases hconnects :
      device.power.currentState = .wakeMode ∧ device.connected = true
  · simp [hconnects, hmoved, PowerOp.apply]
  · simp only [if_neg hconnects, hmoved, List.nil_append, run_append]
    split_ifs <;> rfl

theorem power_step (cfg : OtaConfig) (lib : UpdateLibrary σ Byte)
    (timing : PowerTiming) (device : PoweredDevice σ) (input : PowerInput) :
    (device.step cfg lib timing input).power =
      run (PowerOp.apply timing (u32 input.ms)) device.power
        (device.powerOps timing input) := by
  unfold step powerOps
  cases hhalted : device.halted with
  | true => rfl
  | false =>
      simp only [Bool.false_eq_true, if_false]
      cases input.event with
      | setupDone | bleConnect | otaUpdate => rfl
      | bleDisconnect =>
          unfold onBleDisconnect
          dsimp only
          split <;> rfl
      | received message => cases message <;> rfl
      | sensor pass => exact power_sensorPass timing device _ pass
      | update env => exact power_update timing device _ env
      | checkHeartbeatTimeout detecting bondCount =>
          unfold checkHeartbeatTimeout
          dsimp only
          split <;> rfl

end PoweredDevice

/-! ## Marks -/

inductive SleepMark where
  | entered
  | cancelled
  deriving DecidableEq, Repr

def PowerState.resetsCount : PowerState → Bool
  | active | deepSleep => true
  | _ => false

/-- What an operation does that the bound is about, read off the state before
and after it. -/
def PowerOp.marks (timing : PowerTiming) (ms : ℕ) (power : PowerManager)
    (op : PowerOp) : List SleepMark :=
  let after := op.apply timing ms power
  (if op.isSensor = true ∧ power.currentState = .sleepPrep ∧
      after.currentState ≠ .sleepPrep then [.cancelled] else []) ++
  (if after.currentState ≠ power.currentState ∧
      after.currentState.resetsCount = true then [.entered] else [])

def PowerManager.marksOf (timing : PowerTiming) (ms : ℕ) :
    PowerManager → List PowerOp → List SleepMark
  | _, [] => []
  | power, op :: ops =>
      op.marks timing ms power ++ (op.apply timing ms power).marksOf timing ms
        ops

/-- The state changes and the counter is kept, but for the states that reset
it. -/
def PowerManager.KeepsCount (before after : PowerManager) : Prop :=
  after.sleepCancelCount =
    if after.currentState ≠ before.currentState ∧
        after.currentState.resetsCount = true then 0
    else before.sleepCancelCount

namespace PowerManager

theorem KeepsCount.refl (power : PowerManager) : power.KeepsCount power := by
  simp [KeepsCount]

theorem keepsCount_transitionTo (power : PowerManager) (state : PowerState)
    (ms : ℕ) : power.KeepsCount (power.transitionTo state ms) := by
  unfold KeepsCount
  rw [currentState_transitionTo]
  unfold transitionTo
  by_cases hsame : power.currentState = state
  · rw [if_pos hsame, if_neg (by simp [hsame])]
  · rw [if_neg hsame]
    cases state <;> simp [enter, PowerState.resetsCount, Ne.symm hsame]

theorem keepsCount_requestSleep (power : PowerManager) (ms : ℕ) :
    power.KeepsCount (power.requestSleep ms) := by
  unfold requestSleep
  split
  · exact power.keepsCount_transitionTo .sleepPrep ms
  · exact KeepsCount.refl power

theorem keepsCount_cancelSleep (power : PowerManager) (connected : Bool)
    (ms : ℕ) : power.KeepsCount (power.cancelSleep connected ms) := by
  unfold cancelSleep
  split
  · exact keepsCount_transitionTo
      { power with lastSleepCancellationTime := ms } _ ms
  · exact KeepsCount.refl power

theorem keepsCount_notifyActivity (power : PowerManager) (connected : Bool)
    (ms : ℕ) : power.KeepsCount (power.notifyActivity connected ms) := by
  have hkeeps := keepsCount_cancelSleep { power with lastActivityTime := ms }
    connected ms
  unfold notifyActivity
  dsimp only
  split
  · exact hkeeps
  · exact KeepsCount.refl power

theorem keepsCount_checkIdleTimeout (timing : PowerTiming)
    (power : PowerManager) (connected : Bool) (bondCount ms : ℕ) :
    power.KeepsCount
      (power.checkIdleTimeout timing connected bondCount ms) := by
  unfold checkIdleTimeout
  split_ifs
  · exact KeepsCount.refl power
  · exact KeepsCount.refl power
  · exact KeepsCount.refl power
  · exact power.keepsCount_requestSleep ms
  · exact KeepsCount.refl power

/-- Outside the sensor task's branch, the counter changes by a reset only. -/
theorem keepsCount_apply (timing : PowerTiming) (ms : ℕ)
    (power : PowerManager) {op : PowerOp} (hop : op.isSensor = false) :
    power.KeepsCount (op.apply timing ms power) := by
  cases op with
  | transitionTo state => exact power.keepsCount_transitionTo state ms
  | requestSleep => exact power.keepsCount_requestSleep ms
  | notifyActivity connected =>
      exact power.keepsCount_notifyActivity connected ms
  | checkIdleTimeout connected bondCount =>
      exact power.keepsCount_checkIdleTimeout timing connected bondCount ms
  | cancelOnActivity connected elevated => cases hop
  | keepAwake => exact KeepsCount.refl power
  | deferSleep => exact KeepsCount.refl power

end PowerManager

/-- What one operation can do to the counter, with the marks that it leaves. -/
inductive CountStep (limit : ℕ) (before after : ℕ) :
    List SleepMark → Prop where
  | kept (hafter : after = before) : CountStep limit before after []
  | reset (hafter : after = 0) : CountStep limit before after [.entered]
  | counted (hbefore : before < limit) (hafter : after = before + 1) :
      CountStep limit before after []
  | cancelled (hlimit : before + 1 < limit) (hafter : after = before + 1) :
      CountStep limit before after [.cancelled]
  | cancelledConnected (hlimit : before + 1 < limit) (hafter : after = 0) :
      CountStep limit before after [.cancelled, .entered]

theorem countStep_of_keepsCount {timing : PowerTiming} {ms : ℕ}
    {power : PowerManager} {op : PowerOp} (hop : op.isSensor = false) :
    CountStep timing.maxSleepCancelCount power.sleepCancelCount
      (op.apply timing ms power).sleepCancelCount
      (op.marks timing ms power) := by
  have hkeeps := power.keepsCount_apply timing ms hop
  unfold PowerManager.KeepsCount at hkeeps
  unfold PowerOp.marks
  dsimp only
  rw [hop, if_neg (fun h => Bool.noConfusion h.1), List.nil_append]
  split
  next hreset =>
    rw [if_pos hreset] at hkeeps
    exact .reset hkeeps
  next hstays =>
    rw [if_neg hstays] at hkeeps
    exact .kept hkeeps

/-- The sensor branch leaves the power manager alone, counts, or counts and
cancels the sleep that is being prepared. -/
theorem PowerManager.cancelOnActivity_cases {timing : PowerTiming}
    (hlimit : timing.maxSleepCancelCount ≤ 255) (power : PowerManager)
    (connected elevated : Bool) (ms : ℕ) :
    let after := power.cancelOnActivity timing connected elevated ms
    let counted := { power with
      sleepCancelCount := power.sleepCancelCount + 1 }
    after = power ∨
      power.sleepCancelCount < timing.maxSleepCancelCount ∧
        after = counted ∨
      power.currentState = .sleepPrep ∧
        power.sleepCancelCount + 1 < timing.maxSleepCancelCount ∧
        after = { counted with lastSleepCancellationTime := ms }.transitionTo
          (if connected then .active else .wakeMode) ms := by
  intro after counted
  by_cases hforce : power.shouldForceSleep timing connected ms = true
  · exact .inl (if_pos hforce)
  have hbelow : power.sleepCancelCount < timing.maxSleepCancelCount := by
    by_contra hreached
    apply hforce
    rw [PowerManager.shouldForceSleep, if_pos (not_lt.mp hreached)]
  have hcount : u8 (power.sleepCancelCount + 1) =
      power.sleepCancelCount + 1 := Nat.mod_eq_of_lt (by omega)
  have hafter : after = if elevated then
      if timing.maxSleepCancelCount ≤ power.sleepCancelCount + 1 then counted
      else counted.cancelSleep connected ms
    else power := by
    change power.cancelOnActivity timing connected elevated ms = _
    rw [PowerManager.cancelOnActivity, if_neg hforce]
    simp only [PowerManager.incrementSleepCancelCount, hcount,
      decide_eq_true_eq, counted]
  cases elevated with
  | false => exact .inl hafter
  | true =>
      rw [if_pos rfl] at hafter
      by_cases hreached :
          timing.maxSleepCancelCount ≤ power.sleepCancelCount + 1
      · rw [if_pos hreached] at hafter
        exact .inr (.inl ⟨hbelow, hafter⟩)
      rw [if_neg hreached, PowerManager.cancelSleep] at hafter
      by_cases hprep : power.currentState = .sleepPrep
      · have hcounted : counted.currentState = .sleepPrep := hprep
        rw [if_pos hcounted] at hafter
        exact .inr (.inr ⟨hprep, not_le.mp hreached, hafter⟩)
      · have hcounted : ¬counted.currentState = .sleepPrep := hprep
        rw [if_neg hcounted] at hafter
        exact .inr (.inl ⟨hbelow, hafter⟩)

theorem countStep_cancelOnActivity {timing : PowerTiming}
    (hlimit : timing.maxSleepCancelCount ≤ 255) (ms : ℕ)
    (power : PowerManager) (connected elevated : Bool) :
    let op := PowerOp.cancelOnActivity connected elevated
    CountStep timing.maxSleepCancelCount power.sleepCancelCount
      (op.apply timing ms power).sleepCancelCount
      (op.marks timing ms power) := by
  intro op
  have hidle : ∀ after : PowerManager, op.apply timing ms power = after →
      after.currentState = power.currentState →
        op.marks timing ms power = [] := by
    intro after hafter hstate
    simp only [PowerOp.marks, hafter, hstate, ne_eq, and_not_self,
      and_false, not_true_eq_false, false_and, if_false, List.append_nil]
  obtain hafter | ⟨hbelow, hafter⟩ | ⟨hprep, hbelow, hafter⟩ :=
    power.cancelOnActivity_cases hlimit connected elevated ms
  · rw [hidle power hafter rfl]
    exact .kept (congrArg PowerManager.sleepCancelCount hafter)
  · rw [hidle _ hafter rfl]
    exact .counted hbelow (congrArg PowerManager.sleepCancelCount hafter)
  · have hbranch : op.apply timing ms power = _ := hafter
    cases connected with
    | true =>
        have hmarks : op.marks timing ms power = [.cancelled, .entered] := by
          simp [PowerOp.marks, hbranch, hprep, PowerOp.isSensor, op,
            PowerState.resetsCount]
        rw [hmarks, hbranch]
        refine .cancelledConnected hbelow ?_
        rw [PowerManager.keepsCount_transitionTo]
        simp [hprep, PowerState.resetsCount]
    | false =>
        have hmarks : op.marks timing ms power = [.cancelled] := by
          simp [PowerOp.marks, hbranch, hprep, PowerOp.isSensor, op,
            PowerState.resetsCount]
        rw [hmarks, hbranch]
        refine .cancelled hbelow ?_
        rw [PowerManager.keepsCount_transitionTo]
        simp [PowerState.resetsCount]

theorem countStep_apply {timing : PowerTiming}
    (hlimit : timing.maxSleepCancelCount ≤ 255) (ms : ℕ)
    (power : PowerManager) (op : PowerOp) :
    CountStep timing.maxSleepCancelCount power.sleepCancelCount
      (op.apply timing ms power).sleepCancelCount
      (op.marks timing ms power) := by
  cases hop : op.isSensor with
  | false => exact countStep_of_keepsCount hop
  | true =>
      cases op with
      | cancelOnActivity connected elevated =>
          exact countStep_cancelOnActivity hlimit ms power connected elevated
      | transitionTo | requestSleep | notifyActivity | checkIdleTimeout |
        keepAwake | deferSleep => cases hop

/-- The counter bounds the cancels since the last reset, and these have not
reached the limit. -/
structure Tally (limit count : ℕ) (marks : List SleepMark) : Prop where
  within : count ≤ limit
  recent : ∀ n, List.replicate n .cancelled <:+ marks → n ≤ count
  streaks : ∀ n, List.replicate n .cancelled <:+: marks → n < limit

namespace Tally

variable {limit count : ℕ} {marks : List SleepMark}

theorem nil (hlimit : 0 < limit) : Tally limit 0 [] where
  within := hlimit.le
  recent := by
    intro n hn
    have hzero : n = 0 := by simpa using List.suffix_nil.mp hn
    exact hzero.le
  streaks := by
    intro n hn
    have hzero : n = 0 := by simpa using List.infix_nil.mp hn
    rwa [hzero]

theorem counted (htally : Tally limit count marks) (hbefore : count < limit) :
    Tally limit (count + 1) marks where
  within := hbefore
  recent := fun n hn => (htally.recent n hn).trans (Nat.le_succ count)
  streaks := htally.streaks

theorem cancelled (htally : Tally limit count marks)
    (hlimit : count + 1 < limit) :
    Tally limit (count + 1) (marks ++ [.cancelled]) := by
  have hrecent : ∀ n,
      List.replicate n .cancelled <:+ marks ++ [.cancelled] →
        n ≤ count + 1 := by
    intro n hn
    cases n with
    | zero => exact Nat.zero_le _
    | succ n =>
        rw [List.replicate_succ', List.suffix_append_self_iff] at hn
        exact Nat.succ_le_succ (htally.recent n hn)
  refine ⟨hlimit.le, hrecent, ?_⟩
  intro n hn
  obtain hlast | hold := List.infix_concat_iff.mp hn
  · exact (hrecent n hlast).trans_lt hlimit
  · exact htally.streaks n hold

theorem entered (htally : Tally limit count marks) :
    Tally limit 0 (marks ++ [.entered]) := by
  have hrecent : ∀ n,
      List.replicate n .cancelled <:+ marks ++ [.entered] → n = 0 := by
    intro n hn
    cases n with
    | zero => rfl
    | succ n =>
        obtain hempty | ⟨front, hfront, -⟩ := List.suffix_concat_iff.mp hn
        · cases hempty
        · rw [List.replicate_succ'] at hfront
          cases (List.append_inj' hfront rfl).2
  have hlimit : 0 < limit := htally.streaks 0 List.nil_infix
  refine ⟨hlimit.le, fun n hn => (hrecent n hn).le, ?_⟩
  intro n hn
  obtain hlast | hold := List.infix_concat_iff.mp hn
  · rwa [hrecent n hlast]
  · exact htally.streaks n hold

theorem step (htally : Tally limit count marks) {after : ℕ}
    {added : List SleepMark} (hstep : CountStep limit count after added) :
    Tally limit after (marks ++ added) := by
  cases hstep with
  | kept hafter =>
      rw [hafter, List.append_nil]
      exact htally
  | reset hafter =>
      rw [hafter]
      exact htally.entered
  | counted hbefore hafter =>
      rw [hafter, List.append_nil]
      exact htally.counted hbefore
  | cancelled hlimit hafter =>
      rw [hafter]
      exact htally.cancelled hlimit
  | cancelledConnected hlimit hafter =>
      rw [hafter]
      have hboth := (htally.cancelled hlimit).entered
      rwa [List.append_assoc] at hboth

theorem marksOf {timing : PowerTiming} {power : PowerManager}
    (hlimit : timing.maxSleepCancelCount ≤ 255) (ms : ℕ)
    (ops : List PowerOp)
    (htally : Tally timing.maxSleepCancelCount power.sleepCancelCount marks) :
    Tally timing.maxSleepCancelCount
      (run (PowerOp.apply timing ms) power ops).sleepCancelCount
      (marks ++ power.marksOf timing ms ops) := by
  induction ops generalizing power marks with
  | nil =>
      rw [PowerManager.marksOf, List.append_nil]
      exact htally
  | cons op ops ih =>
      have hnext := htally.step (countStep_apply hlimit ms power op)
      rw [PowerManager.marksOf, ← List.append_assoc]
      exact ih hnext

end Tally

/-! ## Runs of the device -/

/-- The device with the marks of its steps. -/
structure SleepLedger (σ : Type*) where
  device : PoweredDevice σ
  marks : List SleepMark

namespace SleepLedger

variable {σ : Type*}

def step (cfg : OtaConfig) (lib : UpdateLibrary σ Byte)
    (timing : PowerTiming) (ledger : SleepLedger σ) (input : PowerInput) :
    SleepLedger σ where
  device := ledger.device.step cfg lib timing input
  marks := ledger.marks ++ ledger.device.power.marksOf timing (u32 input.ms)
    (ledger.device.powerOps timing input)

def start (device : PoweredDevice σ) : SleepLedger σ := ⟨device, []⟩

variable {cfg : OtaConfig} {lib : UpdateLibrary σ Byte} {timing : PowerTiming}

theorem device_run (ledger : SleepLedger σ) (inputs : List PowerInput) :
    (run (step cfg lib timing) ledger inputs).device =
      run (PoweredDevice.step cfg lib timing) ledger.device inputs := by
  induction inputs generalizing ledger with
  | nil => rfl
  | cons input inputs ih => exact ih (ledger.step cfg lib timing input)

def Tallied (timing : PowerTiming) (ledger : SleepLedger σ) : Prop :=
  Tally timing.maxSleepCancelCount ledger.device.power.sleepCancelCount
    ledger.marks

theorem Tallied.step (hlimit : timing.maxSleepCancelCount ≤ 255)
    {ledger : SleepLedger σ} (htally : ledger.Tallied timing)
    (input : PowerInput) : (ledger.step cfg lib timing input).Tallied timing := by
  unfold Tallied SleepLedger.step
  dsimp only
  rw [PoweredDevice.power_step]
  exact Tally.marksOf hlimit _ _ htally

theorem tallied_run (hpos : 0 < timing.maxSleepCancelCount)
    (hlimit : timing.maxSleepCancelCount ≤ 255) (updater : σ)
    (sensorWake : Bool) (ms : ℕ) (inputs : List PowerInput) :
    (run (SleepLedger.step cfg lib timing)
      (start (.setup updater sensorWake ms)) inputs).Tallied timing := by
  have hstep : ∀ (ledger : SleepLedger σ) (input : PowerInput),
      ledger.Tallied timing →
        (ledger.step cfg lib timing input).Tallied timing :=
    fun _ input htally => htally.step hlimit input
  exact invariant_run' hstep inputs (Tally.nil hpos)

/-! ## The forced sleep -/

/-- Once the counter is at the limit, only an entry changes it. -/
theorem count_marksOf (hlimit : timing.maxSleepCancelCount ≤ 255) {ms : ℕ}
    {power : PowerManager} {ops : List PowerOp}
    (hcount : power.sleepCancelCount = timing.maxSleepCancelCount)
    (hquiet : .entered ∉ power.marksOf timing ms ops) :
    (run (PowerOp.apply timing ms) power ops).sleepCancelCount =
      timing.maxSleepCancelCount := by
  induction ops generalizing power with
  | nil => exact hcount
  | cons op ops ih =>
      rw [PowerManager.marksOf, List.mem_append, not_or] at hquiet
      have hstep := countStep_apply hlimit ms power op
      have hsame : (op.apply timing ms power).sleepCancelCount =
          power.sleepCancelCount := by
        generalize op.marks timing ms power = marks at hstep hquiet
        cases hstep with
        | kept hafter => exact hafter
        | reset hafter => exact absurd (List.mem_singleton_self _) hquiet.1
        | counted hbefore => omega
        | cancelled hbelow => omega
        | cancelledConnected hbelow => omega
      exact ih (hsame.trans hcount) hquiet.2

theorem count_run (hlimit : timing.maxSleepCancelCount ≤ 255)
    {device : PoweredDevice σ}
    (hcount : device.power.sleepCancelCount = timing.maxSleepCancelCount)
    (inputs : List PowerInput)
    (hquiet : .entered ∉
      (run (step cfg lib timing) (start device) inputs).marks) :
    (run (PoweredDevice.step cfg lib timing) device
      inputs).power.sleepCancelCount = timing.maxSleepCancelCount := by
  have hinv := @invariant_run' _ _ (step cfg lib timing)
    (fun ledger => .entered ∈ ledger.marks ∨
      ledger.device.power.sleepCancelCount = timing.maxSleepCancelCount)
    (by
      rintro ledger input (hentered | hheld)
      · exact Or.inl (List.mem_append_left _ hentered)
      · by_cases hmark : .entered ∈ ledger.device.power.marksOf timing
            (u32 input.ms) (ledger.device.powerOps timing input)
        · exact Or.inl (List.mem_append_right _ hmark)
        · right
          change (ledger.device.step cfg lib timing
            input).power.sleepCancelCount = _
          rw [PoweredDevice.power_step]
          exact count_marksOf hlimit hheld hmark)
    (start device) inputs (Or.inr hcount)
  rw [device_run] at hinv
  exact hinv.resolve_left hquiet

end SleepLedger

/-- An update that finds the counter at its limit in `SLEEP_PREP` goes on to deep
sleep. -/
theorem PoweredDevice.update_forced {σ : Type*} (cfg : OtaConfig)
    (lib : UpdateLibrary σ Byte) {timing : PowerTiming}
    {device : PoweredDevice σ} (hawake : device.halted = false)
    (hprep : device.power.currentState = .sleepPrep)
    (hcount : device.power.sleepCancelCount = timing.maxSleepCancelCount)
    (ms : ℕ) (env : UpdateEnv) :
    device.step cfg lib timing ⟨ms, .update env⟩ =
      { device with
        power := device.power.transitionTo .deepSleep
          (u32 ms) }.enterDeepSleep (u32 ms) env.sleep := by
  have hforce : device.power.shouldForceSleep timing device.connected
      (u32 ms) = true := by
    rw [PowerManager.shouldForceSleep, if_pos hcount.ge]
  unfold step
  dsimp only
  rw [hawake, if_neg Bool.false_ne_true, update, hprep]
  dsimp only
  unfold updateSleepPrep
  dsimp only
  rw [if_pos (Or.inr hforce), hforce, Bool.or_true, if_pos rfl]

/-- With a limit that the counter can hold, the sensor task cancels sleep fewer
times than the limit between two entries into `ACTIVE` or `DEEP_SLEEP`; once the
counter is at the limit, and until such an entry, an update in `SLEEP_PREP` goes
on to deep sleep. -/
theorem sensor_cancels_bounded {σ : Type*} (cfg : OtaConfig)
    (lib : UpdateLibrary σ Byte) (timing : PowerTiming)
    (hpos : 1 ≤ timing.maxSleepCancelCount)
    (hlimit : timing.maxSleepCancelCount ≤ 255) (updater : σ)
    (sensorWake : Bool) (ms : ℕ) (inputs : List PowerInput) :
    let ledger := run (SleepLedger.step cfg lib timing)
      (.start (.setup updater sensorWake ms)) inputs
    (∀ n, List.replicate n .cancelled <:+: ledger.marks →
        n ≤ timing.maxSleepCancelCount - 1) ∧
      ledger.device.power.sleepCancelCount ≤ timing.maxSleepCancelCount ∧
      (ledger.device.power.sleepCancelCount = timing.maxSleepCancelCount →
        ∀ later : List PowerInput,
          .entered ∉ (run (SleepLedger.step cfg lib timing)
            (.start ledger.device) later).marks →
          let last := run (PoweredDevice.step cfg lib timing) ledger.device
            later
          last.halted = false → last.power.currentState = .sleepPrep →
          ∀ now env, last.step cfg lib timing ⟨now, .update env⟩ =
            { last with
              power := last.power.transitionTo .deepSleep
                (u32 now) }.enterDeepSleep (u32 now) env.sleep) := by
  intro ledger
  have htally : ledger.Tallied timing :=
    SleepLedger.tallied_run hpos hlimit updater sensorWake ms inputs
  refine ⟨?_, htally.within, ?_⟩
  · intro n hn
    exact Nat.le_sub_one_of_lt (htally.streaks n hn)
  · intro hcount later hquiet last hawake hprep now env
    exact PoweredDevice.update_forced cfg lib hawake hprep
      (SleepLedger.count_run hlimit hcount later hquiet) now env

/-! ## Two limits -/

namespace SleepLedger

/-- The device falls idle, and the reading is high in `SLEEP_PREP`. -/
def restlessNight (night : ℕ) : List PowerInput :=
  [⟨61000 * (night + 1), .update PoweredDevice.calmUpdate⟩,
    ⟨61000 * (night + 1) + 50, .sensor ⟨none, none, true⟩⟩]

def restlessNights (nights : ℕ) : List PowerInput :=
  ⟨1000, .setupDone⟩ :: (List.range nights).flatMap restlessNight

def benchLedger (limit : ℕ) (inputs : List PowerInput) :
    SleepLedger (UpdateLibrary.WornFlash Byte) :=
  run (step Ota.benchOta (UpdateLibrary.wornFlash Byte)
      { PoweredDevice.benchPower with maxSleepCancelCount := limit })
    (start (.setup ⟨0, [], 100, false⟩ false 500)) inputs

end SleepLedger

theorem sensor_cancels_bounded_three :
    (∀ n, List.replicate n .cancelled <:+:
        (SleepLedger.benchLedger 3 (SleepLedger.restlessNights 3)).marks →
      n ≤ 3 - 1) ∧
    (SleepLedger.benchLedger 3
      (SleepLedger.restlessNights 3)).marks = [.cancelled, .cancelled] ∧
    (SleepLedger.benchLedger 3
      (SleepLedger.restlessNights 3)).device.power.sleepCancelCount = 3 :=
  ⟨(sensor_cancels_bounded Ota.benchOta (UpdateLibrary.wornFlash Byte)
      { PoweredDevice.benchPower with maxSleepCancelCount := 3 } (by decide)
      (by decide) ⟨0, [], 100, false⟩ false 500
      (SleepLedger.restlessNights 3)).1,
    by decide +kernel, by decide +kernel⟩

/-- The counter has eight bits and never reaches a limit of 256. -/
theorem sensor_cancels_wrap :
    ¬∀ n, List.replicate n .cancelled <:+:
        (SleepLedger.benchLedger 256 (SleepLedger.restlessNights 256)).marks →
      n ≤ 256 - 1 := by
  have hmarks : (SleepLedger.benchLedger 256
      (SleepLedger.restlessNights 256)).marks =
        List.replicate 256 .cancelled := by decide +kernel
  intro hbounded
  have hall := hbounded 256 (hmarks ▸ List.infix_refl _)
  omega

end SensorFirmware
