import SensorFirmware.PairingWindow

/-!
# What the manager asks of a link

Between two disconnections the periodic update asks for new connection
parameters once an authentication has completed and the link is two seconds
old, and it forces the security of a link that stays unencrypted.  Each is
asked for at most once.
-/

namespace SensorFirmware

open GuardedRun

/-- Since the last boot or disconnection: when the link was made, whether an
authentication has completed, whether the update has nothing to wait for any
more (`settled`), whether it was due to ask for the parameters (`paramsDue`)
or for the security (`standoff`), and how often it asked. -/
structure NegotiationRun where
  device : BleDevice
  nowMs : ℕ
  connectedAt : Option ℕ
  authenticated : Bool
  settled : Bool
  paramsDue : Bool
  standoff : Bool
  paramsAsked : ℕ
  securityForced : ℕ
  deriving DecidableEq

namespace NegotiationRun

/-- Before the first boot. -/
def start (bonds : List PeerAddress) (rtc : GhostBondRtc) : NegotiationRun where
  device := ⟨.construct, bonds, false, rtc⟩
  nowMs := 0
  connectedAt := none
  authenticated := false
  settled := false
  paramsDue := false
  standoff := false
  paramsAsked := 0
  securityForced := 0

/-- The age of the link, as the 32-bit clock can tell it. -/
def linkAge (state : NegotiationRun) (nowMs : ℕ) : Option ℕ :=
  state.connectedAt.map fun connected => u32 (nowMs - connected)

def countParams (calls : List BleCall) : ℕ :=
  calls.countP fun call => call matches .updateConnParams _

def countSecurity (calls : List BleCall) : ℕ :=
  calls.countP fun call => call matches .startSecurity _

/-- The history after an event at `nowMs` that leads to `device` and `calls`. -/
def record (state : NegotiationRun) (nowMs : ℕ) (device : BleDevice)
    (calls : List BleCall) : BleEvent → NegotiationRun
  | .boot _ | .disconnected _ =>
      { start device.bonds device.rtc with device := device, nowMs := nowMs }
  | .connected _ _ desc =>
      { state with
        device := device
        nowMs := nowMs
        connectedAt := some nowMs
        settled := state.settled ||
          (!desc.bonded && state.device.bonds.length == 0) }
  | .authenticationComplete _ desc =>
      { state with
        device := device
        nowMs := nowMs
        authenticated := state.authenticated || desc.bonded || desc.encrypted }
  | .update link =>
      let active := state.device.manager.initialized
      { state with
        device := device
        nowMs := nowMs
        settled := state.settled || (active && state.connectedAt.isSome &&
          link.any (·.encrypted))
        paramsDue := state.paramsDue || (active && state.authenticated &&
          (state.linkAge nowMs).any (2000 ≤ ·))
        standoff := state.standoff || (active && !state.settled &&
          link.any (!·.encrypted) && (state.linkAge nowMs).any (2500 < ·))
        paramsAsked := state.paramsAsked + countParams calls
        securityForced := state.securityForced + countSecurity calls }
  | _ => { state with device := device, nowMs := nowMs }

def step (pairingWindowMs : ℕ) (state : NegotiationRun)
    (input : TimedBleEvent) : NegotiationRun :=
  let nowMs :=
    match input.event with
    | .boot _ => input.elapsedMs
    | _ => state.nowMs + input.elapsedMs
  let after := state.device.step pairingWindowMs (u32 nowMs) input.event
  state.record nowMs after.1 after.2 input.event

end NegotiationRun

/-! ## What one event asks for -/

namespace BleDevice

/-- The update asks for the connection parameters. -/
def asksParams (device : BleDevice) (millis : ℕ) : Bool :=
  device.manager.deviceConnected && device.manager.paramsNeedUpdate &&
    !device.manager.paramsUpdated &&
    decide (2000 ≤ sub32 millis device.manager.connectionStartTime)

/-- The update forces the security of the link. -/
def forcesSecurity (device : BleDevice) (millis : ℕ)
    (link : Option LinkSecurity) : Bool :=
  device.manager.deviceConnected && !device.manager.securityRequested &&
    (link.any fun desc => !desc.encrypted) &&
    decide (2500 < sub32 millis device.manager.connectionStartTime)

/-- The part of the manager that belongs to the link. -/
def linkPart (device : BleDevice) : Bool × ℕ × Bool × Bool × Bool :=
  (device.manager.deviceConnected, device.manager.connectionStartTime,
    device.manager.paramsNeedUpdate, device.manager.paramsUpdated,
    device.manager.securityRequested)

theorem linkPart_windows (pairingWindowMs : ℕ) (device : BleDevice)
    (millis : ℕ) :
    ((device.closeBootWindow millis).closePairingWindow pairingWindowMs
      millis).linkPart = device.linkPart := by
  have hboot : (device.closeBootWindow millis).linkPart = device.linkPart := by
    unfold closeBootWindow
    dsimp only
    split_ifs <;> rfl
  unfold closePairingWindow
  split
  · exact hboot
  · exact hboot

theorem applyConnParams_link (device : BleDevice) (millis : ℕ) :
    let after := device.applyConnParams millis
    after.1.linkPart =
        (device.manager.deviceConnected, device.manager.connectionStartTime,
          device.manager.paramsNeedUpdate && !device.asksParams millis,
          device.manager.paramsUpdated || device.asksParams millis,
          device.manager.securityRequested) ∧
      NegotiationRun.countParams after.2 = (device.asksParams millis).toNat ∧
      NegotiationRun.countSecurity after.2 = 0 := by
  have hasks : device.applyConnParams millis =
      if device.asksParams millis = true then
        ({ device with manager := { device.manager with
            paramsUpdated := true
            paramsNeedUpdate := false } },
          [.updateConnParams device.manager.currentConnHandle])
      else (device, []) := by
    unfold applyConnParams asksParams
    simp only [Bool.and_eq_true, decide_eq_true_eq]
  rw [hasks]
  cases device.asksParams millis with
  | false => simp [linkPart, NegotiationRun.countParams,
      NegotiationRun.countSecurity]
  | true => simp [linkPart, NegotiationRun.countParams,
      NegotiationRun.countSecurity]

theorem watchSecurity_link (device : BleDevice) (millis : ℕ)
    (link : Option LinkSecurity) :
    let after := device.watchSecurity millis link
    after.1.linkPart =
        (device.manager.deviceConnected, device.manager.connectionStartTime,
          device.manager.paramsNeedUpdate, device.manager.paramsUpdated,
          device.manager.securityRequested ||
            (device.manager.deviceConnected && link.any (·.encrypted)) ||
            device.forcesSecurity millis link) ∧
      NegotiationRun.countParams after.2 = 0 ∧
      NegotiationRun.countSecurity after.2 =
        (device.forcesSecurity millis link).toNat := by
  unfold watchSecurity forcesSecurity
  cases hconnected : device.manager.deviceConnected with
  | false => simp [linkPart, hconnected, NegotiationRun.countParams,
      NegotiationRun.countSecurity]
  | true =>
      cases hrequested : device.manager.securityRequested with
      | true => simp [linkPart, hconnected, hrequested,
          NegotiationRun.countParams, NegotiationRun.countSecurity]
      | false =>
          cases link with
          | none => simp [linkPart, hconnected, hrequested,
              NegotiationRun.countParams, NegotiationRun.countSecurity]
          | some desc =>
              cases hencrypted : desc.encrypted with
              | true => simp [linkPart, hconnected, hencrypted,
                  NegotiationRun.countParams, NegotiationRun.countSecurity]
              | false =>
                  by_cases hold : 2500 <
                      sub32 millis device.manager.connectionStartTime
                  · simp [linkPart, hconnected, hencrypted, hold,
                      NegotiationRun.countParams, NegotiationRun.countSecurity]
                  · simp [linkPart, hconnected, hrequested, hencrypted, hold,
                      NegotiationRun.countParams, NegotiationRun.countSecurity]

theorem asksParams_congr {first second : BleDevice}
    (hlink : first.linkPart = second.linkPart) (millis : ℕ) :
    first.asksParams millis = second.asksParams millis := by
  simp only [linkPart, Prod.mk.injEq] at hlink
  obtain ⟨hconnected, hstart, hneed, hupdated, -⟩ := hlink
  rw [asksParams, asksParams, hconnected, hstart, hneed, hupdated]

theorem update_link (pairingWindowMs : ℕ) {device : BleDevice} (millis : ℕ)
    (link : Option LinkSecurity)
    (hinitialized : device.manager.initialized = true) :
    let after := device.update pairingWindowMs millis link
    after.1.linkPart =
        (device.manager.deviceConnected, device.manager.connectionStartTime,
          device.manager.paramsNeedUpdate && !device.asksParams millis,
          device.manager.paramsUpdated || device.asksParams millis,
          device.manager.securityRequested ||
            (device.manager.deviceConnected && link.any (·.encrypted)) ||
            device.forcesSecurity millis link) ∧
      NegotiationRun.countParams after.2 = (device.asksParams millis).toNat ∧
      NegotiationRun.countSecurity after.2 =
        (device.forcesSecurity millis link).toNat := by
  dsimp only
  unfold update
  rw [if_pos hinitialized]
  dsimp only
  have hwindows := linkPart_windows pairingWindowMs device millis
  generalize (device.closeBootWindow millis).closePairingWindow
    pairingWindowMs millis = windows at hwindows
  obtain ⟨hparams, hasked, hnone⟩ := applyConnParams_link windows millis
  generalize windows.applyConnParams millis = params at hparams hasked hnone
  obtain ⟨hsecurity, hzero, hforced⟩ := watchSecurity_link params.1 millis link
  have hasks := asksParams_congr hwindows millis
  rw [hasks] at hparams hasked
  simp only [linkPart, Prod.mk.injEq] at hwindows hparams
  obtain ⟨hconnected, hstart, hneed, hupdated, hrequested⟩ := hwindows
  rw [hconnected, hstart, hneed, hupdated, hrequested] at hparams
  have hforces : params.1.forcesSecurity millis link =
      device.forcesSecurity millis link := by
    rw [forcesSecurity, forcesSecurity, hparams.1, hparams.2.1,
      hparams.2.2.2.2]
  rw [hparams.1, hparams.2.1, hparams.2.2.1, hparams.2.2.2.1,
    hparams.2.2.2.2, hforces] at hsecurity
  refine ⟨hsecurity, ?_, ?_⟩
  · rw [NegotiationRun.countParams, List.countP_append]
    rw [NegotiationRun.countParams] at hasked hzero
    rw [hasked, hzero, Nat.add_zero]
  · rw [NegotiationRun.countSecurity, List.countP_append]
    rw [NegotiationRun.countSecurity] at hnone hforced
    rw [hnone, hforced, hforces, Nat.zero_add]

end BleDevice

/-! ## Along a run -/

namespace NegotiationRun

variable {pairingWindowMs : ℕ}

/-- What the flags of the manager say of the link since it was made. -/
structure Tracked (state : NegotiationRun) : Prop where
  connected : state.device.manager.deviceConnected = state.connectedAt.isSome
  clock : ∀ connected ∈ state.connectedAt, connected ≤ state.nowMs ∧
    state.device.manager.connectionStartTime = u32 connected
  updated : state.device.manager.paramsUpdated = state.paramsDue
  needed : state.paramsDue = false →
    state.device.manager.paramsNeedUpdate = state.authenticated
  requested : state.device.manager.securityRequested =
    (state.settled || state.standoff)
  asked : state.paramsAsked = state.paramsDue.toNat
  forced : state.securityForced = state.standoff.toNat

/-- A device without a link, and a history that begins there. -/
theorem tracked_idle {device : BleDevice} {startTime : ℕ}
    (hlink : device.linkPart = (false, startTime, false, false, false))
    (nowMs : ℕ) :
    { start device.bonds device.rtc with
      device := device, nowMs := nowMs }.Tracked := by
  simp only [BleDevice.linkPart, Prod.mk.injEq] at hlink
  obtain ⟨hconnected, -, hneed, hupdated, hrequested⟩ := hlink
  constructor <;> simp [start, hconnected, hneed, hupdated, hrequested]

theorem tracked_start (bonds : List PeerAddress) (rtc : GhostBondRtc) :
    (start bonds rtc).Tracked := by
  have hlink : (start bonds rtc).device.linkPart =
      (false, 0, false, false, false) := rfl
  exact tracked_idle hlink 0

/-- An event that leaves the link alone. -/
theorem Tracked.of_linkPart {state : NegotiationRun} (hstate : state.Tracked)
    {device : BleDevice} (hlink : device.linkPart = state.device.linkPart)
    {nowMs : ℕ} (hnow : state.nowMs ≤ nowMs) :
    { state with device := device, nowMs := nowMs }.Tracked := by
  simp only [BleDevice.linkPart, Prod.mk.injEq] at hlink
  obtain ⟨hconnected, hstart, hneed, hupdated, hrequested⟩ := hlink
  constructor
  · exact hconnected.trans hstate.connected
  · intro connected hat
    obtain ⟨hle, htime⟩ := hstate.clock connected hat
    exact ⟨hle.trans hnow, hstart.trans htime⟩
  · exact hupdated.trans hstate.updated
  · exact fun hdue => hneed.trans (hstate.needed hdue)
  · exact hrequested.trans hstate.requested
  · exact hstate.asked
  · exact hstate.forced

/-- The age that the manager measures, for any bound on it. -/
theorem Tracked.age {state : NegotiationRun} (hstate : state.Tracked)
    {nowMs : ℕ} (hnow : state.nowMs ≤ nowMs) (old : ℕ → Bool) :
    (state.device.manager.deviceConnected &&
        old (sub32 (u32 nowMs) state.device.manager.connectionStartTime)) =
      (state.linkAge nowMs).any old := by
  rw [hstate.connected, linkAge]
  cases hat : state.connectedAt with
  | none => rfl
  | some connected =>
      obtain ⟨hle, htime⟩ := hstate.clock connected hat
      rw [htime, sub32_u32 (hle.trans hnow)]
      rfl

theorem Tracked.asksParams {state : NegotiationRun} (hstate : state.Tracked)
    {nowMs : ℕ} (hnow : state.nowMs ≤ nowMs) :
    state.device.asksParams (u32 nowMs) =
      (!state.paramsDue && (state.authenticated &&
        (state.linkAge nowMs).any (2000 ≤ ·))) := by
  have hage := hstate.age hnow fun age => decide (2000 ≤ age)
  rw [BleDevice.asksParams, hstate.updated]
  cases hdue : state.paramsDue with
  | true => simp
  | false =>
      rw [hstate.needed hdue, ← hage]
      cases state.device.manager.deviceConnected <;> simp

theorem Tracked.forcesSecurity {state : NegotiationRun}
    (hstate : state.Tracked) {nowMs : ℕ} (hnow : state.nowMs ≤ nowMs)
    (link : Option LinkSecurity) :
    state.device.forcesSecurity (u32 nowMs) link =
      (!state.standoff && (!state.settled && (link.any (!·.encrypted) &&
        (state.linkAge nowMs).any (2500 < ·)))) := by
  have hage := hstate.age hnow fun age => decide (2500 < age)
  rw [BleDevice.forcesSecurity, hstate.requested, ← hage]
  cases state.device.manager.deviceConnected <;>
    cases state.settled <;> cases state.standoff <;> simp

theorem Tracked.update {state : NegotiationRun} (hstate : state.Tracked)
    {nowMs : ℕ} (hnow : state.nowMs ≤ nowMs) (link : Option LinkSecurity)
    (hactive : state.device.manager.initialized = true) :
    let after := state.device.update pairingWindowMs (u32 nowMs) link
    (state.record nowMs after.1 after.2 (.update link)).Tracked := by
  intro after
  obtain ⟨hlink, hparams, hsecurity⟩ :=
    BleDevice.update_link pairingWindowMs (u32 nowMs) link hactive
  rw [hstate.asksParams hnow, hstate.forcesSecurity hnow link] at hlink
  rw [hstate.asksParams hnow] at hparams
  rw [hstate.forcesSecurity hnow link] at hsecurity
  simp only [BleDevice.linkPart, Prod.mk.injEq] at hlink
  obtain ⟨hconnected, hstart, hneed, hupdated, hrequested⟩ := hlink
  rw [hstate.updated] at hupdated
  rw [hstate.requested, hstate.connected] at hrequested
  constructor
  · exact hconnected.trans hstate.connected
  · intro connected hat
    obtain ⟨hle, htime⟩ := hstate.clock connected hat
    exact ⟨hle.trans hnow, hstart.trans htime⟩
  · simp only [record, hactive, Bool.true_and]
    rw [hupdated]
    cases state.paramsDue <;> simp
  · simp only [record, hactive, Bool.true_and]
    intro hdue
    rw [Bool.or_eq_false_iff] at hdue
    rw [hneed, hdue.1, hdue.2, hstate.needed hdue.1]
    simp
  · simp only [record, hactive, Bool.true_and]
    rw [hrequested]
    cases state.settled <;> cases state.standoff <;> simp
  · simp only [record, hactive, Bool.true_and]
    rw [hstate.asked, hparams]
    cases state.paramsDue <;> simp
  · simp only [record, hactive, Bool.true_and]
    rw [hstate.forced, hsecurity]
    cases state.standoff <;> simp [Bool.and_assoc]

theorem linkPart_boot (device : BleDevice) (powerLoss : Option GhostBondRtc)
    (millis : ℕ) :
    ((device.reset powerLoss).init millis).linkPart =
      (false, 0, false, false, false) := by
  have hcleared : ∀ device : BleDevice,
      device.clearGhostBonds.manager = device.manager := by
    intro device
    unfold BleDevice.clearGhostBonds
    split <;> rfl
  unfold BleDevice.init
  rw [if_neg (by simp [BleDevice.reset, BleManager.construct])]
  simp [BleDevice.linkPart, hcleared, BleDevice.reset, BleManager.construct]

theorem linkPart_disconnected (device : BleDevice) (connHandle : ℕ) :
    (device.onDisconnectInternal connHandle).1.linkPart =
      (false, device.manager.connectionStartTime, false, false, false) := by
  simp [BleDevice.onDisconnectInternal, BleDevice.linkPart]

theorem linkPart_connected (device : BleDevice) (connHandle millis : ℕ)
    (desc : LinkSecurity) :
    (device.onConnectInternal connHandle millis desc).1.linkPart =
      (true, millis, device.manager.paramsNeedUpdate,
        device.manager.paramsUpdated, device.manager.securityRequested ||
          (!desc.bonded && device.bonds.length == 0)) := by
  unfold BleDevice.onConnectInternal
  dsimp only
  cases hproactive : !desc.bonded && device.bonds.length == 0 <;>
    simp [BleDevice.linkPart]

theorem linkPart_authenticated (device : BleDevice) (connHandle : ℕ)
    (desc : LinkSecurity) :
    (device.onAuthenticationComplete connHandle desc).1.linkPart =
      (device.manager.deviceConnected, device.manager.connectionStartTime,
        device.manager.paramsNeedUpdate || desc.bonded || desc.encrypted,
        device.manager.paramsUpdated, device.manager.securityRequested) := by
  unfold BleDevice.onAuthenticationComplete
  cases hbonded : desc.bonded <;> cases hencrypted : desc.encrypted
  · simp only [Bool.not_false, Bool.and_self, if_true]
    split <;> simp [BleDevice.linkPart]
  · simp [BleDevice.linkPart]
  · simp [BleDevice.linkPart]
  · simp [BleDevice.linkPart]

theorem Tracked.connected_event {state : NegotiationRun}
    (hstate : state.Tracked) (nowMs connHandle : ℕ) (peer : PeerAddress)
    (desc : LinkSecurity) :
    let after :=
      state.device.onConnectInternal connHandle (u32 nowMs) desc
    (state.record nowMs after.1 after.2
      (.connected connHandle peer desc)).Tracked := by
  intro after
  have hlink : after.1.linkPart = _ :=
    linkPart_connected state.device connHandle (u32 nowMs) desc
  simp only [BleDevice.linkPart, Prod.mk.injEq] at hlink
  obtain ⟨hconnected, hstart, hneed, hupdated, hrequested⟩ := hlink
  constructor
  · exact hconnected
  · rintro connected hat
    obtain rfl : nowMs = connected := Option.some.inj hat
    exact ⟨le_rfl, hstart⟩
  · exact hupdated.trans hstate.updated
  · exact fun hdue => hneed.trans (hstate.needed hdue)
  · simp only [record]
    rw [hrequested, hstate.requested]
    cases state.settled <;> cases state.standoff <;> simp
  · exact hstate.asked
  · exact hstate.forced

theorem Tracked.authenticated_event {state : NegotiationRun}
    (hstate : state.Tracked) {nowMs : ℕ} (hnow : state.nowMs ≤ nowMs)
    (connHandle : ℕ) (desc : LinkSecurity) :
    let after := state.device.onAuthenticationComplete connHandle desc
    (state.record nowMs after.1 after.2
      (.authenticationComplete connHandle desc)).Tracked := by
  intro after
  have hlink : after.1.linkPart = _ :=
    linkPart_authenticated state.device connHandle desc
  simp only [BleDevice.linkPart, Prod.mk.injEq] at hlink
  obtain ⟨hconnected, hstart, hneed, hupdated, hrequested⟩ := hlink
  constructor
  · exact hconnected.trans hstate.connected
  · intro connected hat
    obtain ⟨hle, htime⟩ := hstate.clock connected hat
    exact ⟨hle.trans hnow, hstart.trans htime⟩
  · exact hupdated.trans hstate.updated
  · intro hdue
    rw [record, hneed, hstate.needed hdue]
  · exact hrequested.trans hstate.requested
  · exact hstate.asked
  · exact hstate.forced

theorem Tracked.step {state : NegotiationRun} (hstate : state.Tracked)
    (input : TimedBleEvent) :
    (state.step pairingWindowMs input).Tracked := by
  obtain ⟨elapsedMs, event⟩ := input
  have hnow : state.nowMs ≤ state.nowMs + elapsedMs := Nat.le_add_right _ _
  cases event with
  | boot powerLoss => exact tracked_idle (linkPart_boot _ _ _) _
  | setEventHandler => exact hstate.of_linkPart (by rfl) hnow
  | connected connHandle peer desc =>
      exact hstate.connected_event _ connHandle peer desc
  | disconnected connHandle => exact tracked_idle (linkPart_disconnected _ _) _
  | authenticationComplete connHandle desc =>
      exact hstate.authenticated_event hnow connHandle desc
  | bondCreated peer => exact hstate.of_linkPart (by rfl) hnow
  | bondDeleted peer => exact hstate.of_linkPart (by rfl) hnow
  | deleteAllBonds => exact hstate.of_linkPart (by rfl) hnow
  | enablePairingMode =>
      refine hstate.of_linkPart ?_ hnow
      simp [BleDevice.step, BleDevice.enablePairingMode, BleDevice.linkPart]
  | disablePairingMode => exact hstate.of_linkPart (by rfl) hnow
  | update link =>
      cases hactive : state.device.manager.initialized with
      | true => exact hstate.update hnow link hactive
      | false =>
          have hsame : state.step pairingWindowMs ⟨elapsedMs, .update link⟩ =
              { state with nowMs := state.nowMs + elapsedMs } := by
            simp [NegotiationRun.step, record, BleDevice.step,
              BleDevice.update, hactive, countParams, countSecurity]
          rw [hsame]
          exact hstate.of_linkPart (by rfl) hnow
  | enterDeepSleep =>
      refine hstate.of_linkPart ?_ hnow
      simp [BleDevice.step, BleDevice.linkPart]

end NegotiationRun

end SensorFirmware
