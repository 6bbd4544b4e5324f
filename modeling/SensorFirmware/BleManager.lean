import SensorFirmware.LinkedDevice

/-!
# The BLE manager

The pairing windows, the callbacks of the server and the count of failed
bonds.  The bonds are kept by the stack, and two words in uninitialised RTC
memory carry the count from one wake cycle to the next.  Radio parameters,
services and characteristics are left out.
-/

namespace SensorFirmware

abbrev PeerAddress := ℕ

/-- The words marked `RTC_NOINIT_ATTR`. -/
structure GhostBondRtc where
  consecutiveBondFailures : ℕ
  ghostBondMagic : ℕ
  deriving DecidableEq, Repr

def ghostBondMagicKey : ℕ := 0xDEAD8008

def bootPairingWindowMs : ℕ := 60000

/-- What the manager asks of the stack or reports to its event handler. -/
inductive BleCall where
  | reportConnect (connHandle : ℕ)
  | reportDisconnect (connHandle reason : ℕ)
  | reportAuthentication (authenticated : Bool)
  | reportBonded (success : Bool)
  | disconnect (connHandle : ℕ)
  | startSecurity (connHandle : ℕ)
  | updateConnParams (connHandle : ℕ)
  deriving DecidableEq, Repr

structure BleManager where
  initialized : Bool
  deviceConnected : Bool
  pairingModeEnabled : Bool
  subscribed : Bool
  currentConnHandle : ℕ
  connectionStartTime : ℕ
  pairingModeStartTime : ℕ
  securityRequested : Bool
  paramsNeedUpdate : Bool
  paramsUpdated : Bool
  bootPairingWindowActive : Bool
  bootTime : ℕ
  handlerSet : Bool
  deriving DecidableEq, Repr

def BleManager.construct : BleManager where
  initialized := false
  deviceConnected := false
  pairingModeEnabled := false
  subscribed := false
  currentConnHandle := 0xFFFF
  connectionStartTime := 0
  pairingModeStartTime := 0
  securityRequested := false
  paramsNeedUpdate := false
  paramsUpdated := false
  bootPairingWindowActive := false
  bootTime := 0
  handlerSet := false

/-- The manager over the stack. -/
structure BleDevice where
  manager : BleManager
  bonds : List PeerAddress
  advertising : Bool
  rtc : GhostBondRtc
  deriving DecidableEq, Repr

namespace BleDevice

def report (device : BleDevice) (calls : List BleCall) : List BleCall :=
  if device.manager.handlerSet then calls else []

def startAdvertising (device : BleDevice) : BleDevice :=
  if device.manager.initialized && !device.manager.deviceConnected then
    { device with advertising := true }
  else device

def stopAdvertising (device : BleDevice) : BleDevice :=
  if device.manager.initialized then { device with advertising := false }
  else device

/-! ## Pairing -/

def isPairingAllowed (device : BleDevice) : Bool :=
  device.bonds.length == 0 || device.manager.pairingModeEnabled

def enablePairingMode (device : BleDevice) (millis : ℕ) : BleDevice :=
  { device with manager := { device.manager with
      pairingModeEnabled := true
      pairingModeStartTime := millis } }.startAdvertising

def disablePairingMode (device : BleDevice) : BleDevice :=
  { device with manager := { device.manager with
      pairingModeEnabled := false } }

/-- Each bond is deleted, from the last one on. -/
def deleteAllBonds (device : BleDevice) : BleDevice :=
  { device with bonds := [] }

/-! ## Failed bonds -/

def incrementGhostBondCounter (device : BleDevice) : BleDevice :=
  if 0 < device.bonds.length &&
      device.rtc.ghostBondMagic == ghostBondMagicKey &&
      device.manager.deviceConnected then
    { device with rtc := { device.rtc with
      consecutiveBondFailures :=
        u8 (device.rtc.consecutiveBondFailures + 1) } }
  else device

def resetGhostBondCounter (device : BleDevice) : BleDevice :=
  if device.rtc.ghostBondMagic = ghostBondMagicKey ∧
      0 < device.rtc.consecutiveBondFailures then
    { device with rtc := { device.rtc with consecutiveBondFailures := 0 } }
  else device

def initGhostBondRtc (rtc : GhostBondRtc) : GhostBondRtc :=
  if rtc.ghostBondMagic ≠ ghostBondMagicKey then ⟨0, ghostBondMagicKey⟩
  else rtc

/-- The bonds are orphaned: the peer failed to encrypt too often. -/
def ghostBondDetected (device : BleDevice) : Bool :=
  decide (0 < device.bonds.length) &&
    decide (5 ≤ device.rtc.consecutiveBondFailures)

def clearGhostBonds (device : BleDevice) : BleDevice :=
  if device.ghostBondDetected then
    { device.deleteAllBonds with rtc := { device.rtc with
      consecutiveBondFailures := 0 } }
  else device

def init (device : BleDevice) (millis : ℕ) : BleDevice :=
  if device.manager.initialized then device
  else
    let device := { device with
      rtc := initGhostBondRtc device.rtc
      manager := { device.manager with
        initialized := true
        bootPairingWindowActive := true
        bootTime := millis
        pairingModeEnabled := true } }
    device.clearGhostBonds.startAdvertising

/-- A reset: the objects are constructed anew, and the RTC memory is kept
unless its supply was gone. -/
def reset (device : BleDevice) (powerLoss : Option GhostBondRtc) :
    BleDevice where
  manager := .construct
  bonds := device.bonds
  advertising := false
  rtc := powerLoss.getD device.rtc

/-! ## Server callbacks -/

def onConnectInternal (device : BleDevice) (connHandle millis : ℕ)
    (desc : LinkSecurity) : BleDevice × List BleCall :=
  let connected := { device with manager := { device.manager with
    deviceConnected := true
    currentConnHandle := connHandle
    connectionStartTime := millis } }.stopAdvertising
  let reported := device.report [.reportConnect connHandle]
  if !desc.bonded && device.bonds.length == 0 then
    ({ connected with manager := { connected.manager with
        securityRequested := true } },
      .startSecurity connHandle :: reported)
  else (connected, reported)

def onDisconnectInternal (device : BleDevice) (connHandle : ℕ) :
    BleDevice × List BleCall :=
  let closed := { device with manager := { device.manager with
    deviceConnected := false
    subscribed := false
    securityRequested := false
    currentConnHandle := 0xFFFF
    paramsNeedUpdate := false
    paramsUpdated := false } }
  (closed.startAdvertising, device.report [.reportDisconnect connHandle 0])

def reportOutcome (device : BleDevice) (outcome : Bool) : List BleCall :=
  device.report [.reportAuthentication outcome, .reportBonded outcome]

def onAuthenticationComplete (device : BleDevice) (connHandle : ℕ)
    (desc : LinkSecurity) : BleDevice × List BleCall :=
  if !desc.bonded && !desc.encrypted then
    if 0 < device.bonds.length && !device.isPairingAllowed then
      (device.startAdvertising,
        device.reportOutcome false ++ [.disconnect connHandle])
    else (device, device.reportOutcome false)
  else
    let restored :=
      if desc.bonded && desc.encrypted then device.resetGhostBondCounter
      else device
    ({ restored with manager := { restored.manager with
        paramsNeedUpdate := true } },
      device.reportOutcome desc.bonded)

/-! ## The periodic update -/

def closeBootWindow (device : BleDevice) (millis : ℕ) : BleDevice :=
  if device.manager.bootPairingWindowActive &&
      bootPairingWindowMs < sub32 millis device.manager.bootTime then
    let ended := { device with manager := { device.manager with
      bootPairingWindowActive := false } }
    if 0 < device.bonds.length then ended.disablePairingMode else ended
  else device

def closePairingWindow (pairingWindowMs : ℕ) (device : BleDevice)
    (millis : ℕ) : BleDevice :=
  if device.manager.pairingModeEnabled &&
      !device.manager.bootPairingWindowActive &&
      decide (0 < device.manager.pairingModeStartTime) &&
      pairingWindowMs < sub32 millis device.manager.pairingModeStartTime
  then device.disablePairingMode
  else device

def applyConnParams (device : BleDevice) (millis : ℕ) :
    BleDevice × List BleCall :=
  if device.manager.deviceConnected && device.manager.paramsNeedUpdate &&
      !device.manager.paramsUpdated &&
      2000 ≤ sub32 millis device.manager.connectionStartTime then
    ({ device with manager := { device.manager with
        paramsUpdated := true
        paramsNeedUpdate := false } },
      [.updateConnParams device.manager.currentConnHandle])
  else (device, [])

/-- `link` is what `ble_gap_conn_find` knows of the current connection. -/
def watchSecurity (device : BleDevice) (millis : ℕ)
    (link : Option LinkSecurity) : BleDevice × List BleCall :=
  let requested := { device with manager := { device.manager with
    securityRequested := true } }
  if device.manager.deviceConnected && !device.manager.securityRequested then
    match link with
    | none => (device, [])
    | some desc =>
        if desc.encrypted then (requested, [])
        else if 2500 < sub32 millis device.manager.connectionStartTime then
          (requested, [.startSecurity device.manager.currentConnHandle])
        else (device, [])
  else (device, [])

def update (pairingWindowMs : ℕ) (device : BleDevice) (millis : ℕ)
    (link : Option LinkSecurity) : BleDevice × List BleCall :=
  if device.manager.initialized then
    let windows := (device.closeBootWindow millis).closePairingWindow
      pairingWindowMs millis
    let params := windows.applyConnParams millis
    let security := params.1.watchSecurity millis link
    (security.1, params.2 ++ security.2)
  else (device, [])

end BleDevice

/-! ## Events -/

inductive BleEvent where
  | boot (powerLoss : Option GhostBondRtc)
  | setEventHandler
  | connected (connHandle : ℕ) (peer : PeerAddress) (desc : LinkSecurity)
  | disconnected (connHandle : ℕ)
  | authenticationComplete (connHandle : ℕ) (desc : LinkSecurity)
  | bondCreated (peer : PeerAddress)
  | bondDeleted (peer : PeerAddress)
  | deleteAllBonds
  | enablePairingMode
  | disablePairingMode
  | update (link : Option LinkSecurity)
  | enterDeepSleep
  deriving DecidableEq

/-- One event; of `enterDeepSleep` the call that counts a failed bond. -/
def BleDevice.step (pairingWindowMs : ℕ) (device : BleDevice) (millis : ℕ) :
    BleEvent → BleDevice × List BleCall
  | .boot powerLoss => ((device.reset powerLoss).init millis, [])
  | .setEventHandler =>
      ({ device with manager := { device.manager with
          handlerSet := true } }, [])
  | .connected connHandle _ desc =>
      device.onConnectInternal connHandle millis desc
  | .disconnected connHandle => device.onDisconnectInternal connHandle
  | .authenticationComplete connHandle desc =>
      device.onAuthenticationComplete connHandle desc
  | .bondCreated peer => ({ device with bonds := device.bonds ++ [peer] }, [])
  | .bondDeleted peer => ({ device with bonds := device.bonds.erase peer }, [])
  | .deleteAllBonds => (device.deleteAllBonds, [])
  | .enablePairingMode => (device.enablePairingMode millis, [])
  | .disablePairingMode => (device.disablePairingMode, [])
  | .update link => device.update pairingWindowMs millis link
  | .enterDeepSleep => (device.incrementGhostBondCounter, [])

end SensorFirmware
