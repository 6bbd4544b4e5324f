import SensorFirmware.BatteryGauge
import SensorFirmware.HistoryPersistence

/-!
# The battery gate of the flush

`flushToNvs` writes nothing while the battery is critical.  The displayed
percentage is the one that the smoothing of `updateBatteryStatus` settles at
under a steady voltage; its floating-point steps are left out.
-/

namespace SensorFirmware

structure BatteryConfig where
  ocvSocTable : OcvTable
  tableShort : ocvSocTable.entries.length ≤ 256
  externalPowerThresholdMv : ℕ
  criticalBatteryPercent : ℕ

structure BatteryStatus where
  batteryPercent : UInt8
  isCharging : Bool
  deriving DecidableEq, Repr

def BatteryStatus.isBatteryCritical (cfg : BatteryConfig)
    (status : BatteryStatus) : Bool :=
  if status.batteryPercent = 0 then false
  else decide (status.batteryPercent.toNat ≤ cfg.criticalBatteryPercent) &&
    !status.isCharging

/-- The status that a steady voltage settles at. -/
def BatteryConfig.settled (cfg : BatteryConfig) (voltageMv : UInt32)
    (charging : Bool) : Except GaugeFault BatteryStatus :=
  if voltageMv.toNat < cfg.externalPowerThresholdMv then .ok ⟨100, false⟩
  else
    (voltageToPercent cfg.ocvSocTable.entries voltageMv).map fun percent =>
      ⟨percent, charging⟩

/-- What a flush meets with the battery in this status. -/
def FlushEnv.withBattery (env : FlushEnv) (cfg : BatteryConfig)
    (status : BatteryStatus) : FlushEnv :=
  { env with
    batteryCritical := status.isBatteryCritical cfg
    charging := status.isCharging }

/-- A flush changes neither the service nor the flash. -/
def BatteryStatus.Withholds (cfg : BatteryConfig) (status : BatteryStatus) :
    Prop :=
  ∀ (history : HistoryConfig) (service : HistoryService history)
    (nvs : HistoryNvs history) (env : FlushEnv),
    service.flushToNvs nvs (env.withBattery cfg status) =
      (service, nvs, false)

namespace BatteryStatus

variable {cfg : BatteryConfig} {status : BatteryStatus}

theorem isBatteryCritical_iff :
    status.isBatteryCritical cfg = true ↔
      0 < status.batteryPercent.toNat ∧
        status.batteryPercent.toNat ≤ cfg.criticalBatteryPercent ∧
          status.isCharging = false := by
  have hzero : status.batteryPercent = 0 ↔
      status.batteryPercent.toNat = 0 := UInt8.toNat_inj.symm
  unfold isBatteryCritical
  split
  next hempty => simp [hzero.mp hempty]
  next hsome =>
    have hpos : 0 < status.batteryPercent.toNat :=
      Nat.pos_of_ne_zero (hsome ∘ hzero.mpr)
    simp [hpos]

theorem withholds_of_critical
    (hcritical : status.isBatteryCritical cfg = true) :
    status.Withholds cfg := by
  intro history service nvs env
  have hdischarging := (isBatteryCritical_iff.mp hcritical).2.2
  unfold HistoryService.flushToNvs FlushEnv.withBattery
  rw [if_pos (by simp [hcritical, hdischarging])]

end BatteryStatus

namespace BatteryConfig

variable {cfg : BatteryConfig} {voltageMv : UInt32} {status : BatteryStatus}

theorem settled_percent
    (hbattery : cfg.externalPowerThresholdMv ≤ voltageMv.toNat)
    (hsettled : cfg.settled voltageMv false = .ok status) :
    status.batteryPercent.toNat = cfg.ocvSocTable.value voltageMv.toNat ∧
      status.isCharging = false := by
  unfold settled at hsettled
  rw [if_neg (not_lt.mpr hbattery),
    cfg.ocvSocTable.voltageToPercent_eq cfg.tableShort] at hsettled
  cases hsettled
  exact ⟨cfg.ocvSocTable.toNat_value _, rfl⟩

end BatteryConfig

/-- The table gives the percentage exactly from its computed voltage on. -/
theorem OcvTable.le_value_iff (table : OcvTable) {percent : ℕ}
    (hpos : 0 < percent) (hpercent : percent ≤ 100) (voltageMv : ℕ) :
    percent ≤ table.value voltageMv ↔ table.reach percent ≤ voltageMv := by
  apply KnotInterpolation.le_value_iff table.isChain_knots
  · exact hpercent.trans table.first_percent.ge
  · have hlast : ((table.first.knot ::
        (table.second :: table.others).map OcvSocEntry.knot).getLast
          (List.cons_ne_nil _ _)) = table.last.knot := by
      have hrest : (table.second :: table.others).map OcvSocEntry.knot ≠ [] :=
        List.cons_ne_nil _ _
      rw [List.getLast_cons hrest, List.getLast_map]
      rfl
    have hempty : table.last.percent.toNat = 0 :=
      congrArg UInt8.toNat table.empty
    rw [hlast]
    exact hempty.trans_lt hpos

/-- The voltages at which the battery is critical. -/
theorem BatteryConfig.critical_iff {cfg : BatteryConfig} {voltageMv : UInt32}
    {status : BatteryStatus}
    (hbattery : cfg.externalPowerThresholdMv ≤ voltageMv.toNat)
    (hsettled : cfg.settled voltageMv false = .ok status) :
    status.isBatteryCritical cfg = true ↔
      cfg.ocvSocTable.reach 1 ≤ voltageMv.toNat ∧
        (voltageMv.toNat <
            cfg.ocvSocTable.reach (cfg.criticalBatteryPercent + 1) ∨
          100 ≤ cfg.criticalBatteryPercent) := by
  obtain ⟨hpercent, hcharging⟩ := settled_percent hbattery hsettled
  have hle := cfg.ocvSocTable.value_le voltageMv.toNat
  rw [BatteryStatus.isBatteryCritical_iff, hpercent, hcharging,
    ← cfg.ocvSocTable.le_value_iff Nat.zero_lt_one (by decide)]
  by_cases hall : 100 ≤ cfg.criticalBatteryPercent
  · simp only [hall, or_true, and_true]
    omega
  · have hreach := cfg.ocvSocTable.le_value_iff
      (Nat.succ_pos cfg.criticalBatteryPercent) (by omega) voltageMv.toNat
    simp only [hall, or_false, and_true]
    rw [← not_le (b := voltageMv.toNat), ← hreach]
    omega

/-- A battery that is critical at the higher voltage is so at the lower one, and
the flush withholds its writes there too, except where the table gives one
percent or more at the higher voltage and none at the lower. -/
theorem battery_gate_closed_iff (cfg : BatteryConfig) {low high : UInt32}
    (hle : low ≤ high) (hbattery : cfg.externalPowerThresholdMv ≤ low.toNat)
    {lower higher : BatteryStatus} (hlow : cfg.settled low false = .ok lower)
    (hhigh : cfg.settled high false = .ok higher) :
    (higher.isBatteryCritical cfg = true →
        lower.isBatteryCritical cfg = true ∧ lower.Withholds cfg) ↔
      ¬(low.toNat < cfg.ocvSocTable.reach 1 ∧
        cfg.ocvSocTable.reach 1 ≤ high.toNat ∧
          (high.toNat <
              cfg.ocvSocTable.reach (cfg.criticalBatteryPercent + 1) ∨
            100 ≤ cfg.criticalBatteryPercent)) := by
  have hvoltage : low.toNat ≤ high.toNat := UInt32.le_iff_toNat_le.mp hle
  have hcritical := BatteryConfig.critical_iff hbattery hlow
  have hcritical' :=
    BatteryConfig.critical_iff (hbattery.trans hvoltage) hhigh
  constructor
  · rintro hclosed ⟨hempty, hhigher⟩
    have hlower := (hclosed (hcritical'.mpr hhigher)).1
    exact absurd (hcritical.mp hlower).1 (not_le.mpr hempty)
  · intro hband hhigher
    obtain ⟨hone, hcrit⟩ := hcritical'.mp hhigher
    have hlower : lower.isBatteryCritical cfg = true := by
      refine hcritical.mpr ⟨?_, hcrit.imp_left hvoltage.trans_lt⟩
      by_contra hempty
      exact hband ⟨not_le.mp hempty, hone, hcrit⟩
    exact ⟨hlower, BatteryStatus.withholds_of_critical hlower⟩

/-! ## A cell near its end -/

def cellConfig : BatteryConfig where
  ocvSocTable := cellTable
  tableShort := by decide
  externalPowerThresholdMv := 2000
  criticalBatteryPercent := 5

theorem battery_gate_closed_3320 :
    (BatteryStatus.mk 2 false).isBatteryCritical cellConfig = true ∧
      ((BatteryStatus.mk 2 false).isBatteryCritical cellConfig = true →
        (BatteryStatus.mk 1 false).isBatteryCritical cellConfig = true ∧
          (BatteryStatus.mk 1 false).Withholds cellConfig) := by
  have hlow : cellConfig.settled 3310 false = .ok ⟨1, false⟩ := rfl
  have hhigh : cellConfig.settled 3320 false = .ok ⟨2, false⟩ := rfl
  exact ⟨by decide, (battery_gate_closed_iff cellConfig (by decide)
    (by decide) hlow hhigh).mpr (by decide)⟩

/-- The percentage is 1 at 3310 mV and none at 3300 mV. -/
theorem battery_gate_reopens :
    cellConfig.settled 3310 false = .ok ⟨1, false⟩ ∧
      cellConfig.settled 3300 false = .ok ⟨0, false⟩ ∧
      ¬((BatteryStatus.mk 1 false).isBatteryCritical cellConfig = true →
        (BatteryStatus.mk 0 false).isBatteryCritical cellConfig = true ∧
          (BatteryStatus.mk 0 false).Withholds cellConfig) :=
  ⟨rfl, rfl, fun hclosed => absurd (hclosed (by decide)).1 (by decide)⟩

end SensorFirmware
