import SensorFirmware.KnotInterpolation

/-!
# The battery gauge

`voltageToPercent` looks a voltage up in the table of open-circuit voltages and
interpolates.  The table is a constant of `BatteryConfig`, here a parameter; an
index outside it and an integer operation that leaves its range are faults.
-/

namespace SensorFirmware

open KnotInterpolation

structure OcvSocEntry where
  voltageMv : UInt16
  percent : UInt8
  deriving DecidableEq, Repr

inductive GaugeFault where
  | outOfBounds
  | underflow
  | overflow
  | divisionByZero
  deriving DecidableEq, Repr

namespace Gauge

def subtract (a b : ℕ) : Except GaugeFault ℕ :=
  if b ≤ a then .ok (a - b) else .error .underflow

def add (a b : ℕ) : Except GaugeFault ℕ :=
  if a + b < 2 ^ 32 then .ok (a + b) else .error .overflow

def multiply (a b : ℕ) : Except GaugeFault ℕ :=
  if a * b < 2 ^ 32 then .ok (a * b) else .error .overflow

def divide (a b : ℕ) : Except GaugeFault ℕ :=
  if b ≠ 0 then .ok (a / b) else .error .divisionByZero

/-- What an iteration returns for a voltage above the lower entry. -/
def interpolate (higher lower : OcvSocEntry) (voltageMv : ℕ) :
    Except GaugeFault UInt8 :=
  if higher.voltageMv.toNat ≤ voltageMv then .ok higher.percent
  else do
    let voltageRange ←
      subtract higher.voltageMv.toNat lower.voltageMv.toNat
    let percentRange ← subtract higher.percent.toNat lower.percent.toNat
    let voltageOffset ← subtract voltageMv lower.voltageMv.toNat
    if voltageRange = 0 then .ok lower.percent
    else
      let product ← multiply percentRange voltageOffset
      let quotient ← divide product voltageRange
      let interpolatedPercent ← add lower.percent.toNat quotient
      .ok (UInt8.ofNat (min interpolatedPercent 100))

/-- The loop from the index on; without a value it ends.  The index has eight
bits, and wraps to one with no entry before it. -/
def search (voltageMv : ℕ) :
    UInt8 → OcvSocEntry → List OcvSocEntry → Except GaugeFault (Option UInt8)
  | i, _, [] => if i = 0 then .error .outOfBounds else .ok none
  | i, higher, lower :: rest =>
      if i = 0 then .error .outOfBounds
      else if lower.voltageMv.toNat < voltageMv then
        (interpolate higher lower voltageMv).map some
      else search voltageMv (i + 1) lower rest

/-- What is returned before the last statement. -/
def lookUp (first : OcvSocEntry) (rest : List OcvSocEntry) (voltageMv : ℕ) :
    Except GaugeFault (Option UInt8) :=
  if first.voltageMv.toNat ≤ voltageMv then .ok (some 100)
  else if voltageMv ≤
      ((first :: rest).getLast (List.cons_ne_nil _ _)).voltageMv.toNat then
    .ok (some 0)
  else search voltageMv 1 first rest

end Gauge

def voltageToPercent (table : List OcvSocEntry) (voltageMv : UInt32) :
    Except GaugeFault UInt8 :=
  match table with
  | [] => .error .outOfBounds
  | first :: rest =>
      (Gauge.lookUp first rest voltageMv.toNat).map fun found => found.getD 0

/-! ## Tables -/

def OcvSocEntry.knot (entry : OcvSocEntry) : Knot :=
  ⟨entry.voltageMv.toNat, entry.percent.toNat⟩

def OcvSocEntry.Above (higher lower : OcvSocEntry) : Prop :=
  lower.voltageMv < higher.voltageMv ∧ lower.percent ≤ higher.percent

instance (higher lower : OcvSocEntry) : Decidable (higher.Above lower) :=
  inferInstanceAs (Decidable (_ ∧ _))

/-- At least two entries, from 100 percent down to none. -/
structure OcvTable where
  first : OcvSocEntry
  second : OcvSocEntry
  others : List OcvSocEntry
  descending : (first :: second :: others).IsChain OcvSocEntry.Above
  full : first.percent = 100
  empty : ((second :: others).getLast (List.cons_ne_nil _ _)).percent = 0

namespace OcvTable

def entries (table : OcvTable) : List OcvSocEntry :=
  table.first :: table.second :: table.others

/-- The function that the table gives. -/
def value (table : OcvTable) (voltageMv : ℕ) : ℕ :=
  KnotInterpolation.value table.first.knot
    ((table.second :: table.others).map OcvSocEntry.knot) voltageMv

/-- The lowest voltage with the percentage. -/
def reach (table : OcvTable) (percent : ℕ) : ℕ :=
  KnotInterpolation.reach table.first.knot
    ((table.second :: table.others).map OcvSocEntry.knot) percent

end OcvTable

namespace Gauge

theorem descends_of_above {higher lower : OcvSocEntry}
    (habove : higher.Above lower) : Descends higher.knot lower.knot :=
  ⟨UInt16.lt_iff_toNat_lt.mp habove.1, UInt8.le_iff_toNat_le.mp habove.2⟩

theorem chain_knots {entries : List OcvSocEntry}
    (hchain : entries.IsChain OcvSocEntry.Above) :
    (entries.map OcvSocEntry.knot).IsChain Descends := by
  rw [List.isChain_map]
  exact hchain.imp fun _ _ habove => descends_of_above habove

/-- Between two entries no operation leaves its range, and the value is that of
the line. -/
theorem interpolate_eq {higher lower : OcvSocEntry}
    (habove : higher.Above lower) (hpercent : higher.percent.toNat ≤ 100)
    {voltageMv : ℕ} (hlower : lower.voltageMv.toNat < voltageMv) :
    interpolate higher lower voltageMv =
      .ok (if higher.voltageMv.toNat ≤ voltageMv then higher.percent
        else UInt8.ofNat (between higher.knot lower.knot voltageMv)) := by
  have hdescends := descends_of_above habove
  have hx : lower.voltageMv.toNat < higher.voltageMv.toNat := hdescends.x
  have hy : lower.percent.toNat ≤ higher.percent.toNat := hdescends.y
  unfold interpolate
  split
  next htop => rfl
  next htop =>
    have hproduct : (higher.percent.toNat - lower.percent.toNat) *
        (voltageMv - lower.voltageMv.toNat) < 2 ^ 32 := by
      have hvoltage := higher.voltageMv.toNat_lt
      calc
        _ ≤ 100 * 2 ^ 16 := Nat.mul_le_mul (by omega) (by omega)
        _ < 2 ^ 32 := by decide
    have hbetween : between higher.knot lower.knot voltageMv ≤
        higher.percent.toNat := between_le hdescends (not_le.mp htop).le
    have hsum : lower.percent.toNat +
        (higher.percent.toNat - lower.percent.toNat) *
          (voltageMv - lower.voltageMv.toNat) /
            (higher.voltageMv.toNat - lower.voltageMv.toNat) =
        between higher.knot lower.knot voltageMv := rfl
    have hclamp : min (between higher.knot lower.knot voltageMv) 100 =
        between higher.knot lower.knot voltageMv :=
      min_eq_left (hbetween.trans hpercent)
    have hrange : higher.voltageMv.toNat - lower.voltageMv.toNat ≠ 0 := by
      omega
    have hfits : between higher.knot lower.knot voltageMv < 2 ^ 32 := by
      omega
    simp only [subtract, if_pos hx.le, if_pos hy, if_pos hlower.le, bind,
      Except.bind, if_neg hrange, multiply, if_pos hproduct, divide,
      if_pos hrange, add, hsum, if_pos hfits, hclamp]

theorem search_eq {higher : OcvSocEntry} {rest : List OcvSocEntry}
    (hchain : (higher :: rest).IsChain OcvSocEntry.Above)
    (hpercent : higher.percent.toNat ≤ 100) {i : UInt8} (hi : i ≠ 0)
    (hshort : i.toNat + rest.length ≤ 256) {voltageMv : ℕ}
    (hhigher : voltageMv ≤ higher.voltageMv.toNat)
    (hlast : ((higher :: rest).getLast
      (List.cons_ne_nil _ _)).voltageMv.toNat < voltageMv) :
    search voltageMv i higher rest =
      .ok (some (UInt8.ofNat (KnotInterpolation.value higher.knot
        (rest.map OcvSocEntry.knot) voltageMv))) := by
  induction rest generalizing higher i with
  | nil => exact absurd hhigher (not_le.mpr hlast)
  | cons lower rest ih =>
      obtain ⟨habove, hrest⟩ := List.isChain_cons_cons.mp hchain
      have hdescends := descends_of_above habove
      have hx : lower.voltageMv.toNat < higher.voltageMv.toNat := hdescends.x
      rw [List.getLast_cons (List.cons_ne_nil _ _)] at hlast
      rw [List.map_cons, KnotInterpolation.value, search, if_neg hi]
      by_cases hlower : lower.voltageMv.toNat < voltageMv
      · rw [if_pos hlower, interpolate_eq habove hpercent hlower]
        by_cases htop : higher.voltageMv.toNat ≤ voltageMv
        · rw [if_pos htop, if_pos (show higher.knot.x ≤ voltageMv from htop)]
          exact congrArg (fun n => Except.ok (some n))
            UInt8.ofNat_toNat.symm
        · rw [if_neg htop, if_neg (show ¬higher.knot.x ≤ voltageMv from htop),
            if_pos (show lower.knot.x < voltageMv from hlower)]
          rfl
      · have htop : ¬higher.knot.x ≤ voltageMv := by
          change ¬higher.voltageMv.toNat ≤ voltageMv
          omega
        rw [if_neg hlower, if_neg htop,
          if_neg (show ¬lower.knot.x < voltageMv from hlower)]
        -- the last entry is still ahead, so the index does not wrap
        have hahead : 0 < rest.length := by
          apply List.length_pos_of_ne_nil
          rintro rfl
          exact hlower hlast
        rw [List.length_cons] at hshort
        have hnext : (i + 1).toNat = i.toNat + 1 := by
          rw [UInt8.toNat_add]
          exact Nat.mod_eq_of_lt (by
            change i.toNat + 1 < 256
            omega)
        have hi' : i + 1 ≠ 0 := by
          intro hzero
          rw [hzero] at hnext
          cases hnext
        exact ih hrest (le_trans hdescends.y hpercent) hi'
          (by omega) (not_lt.mp hlower) hlast

end Gauge

namespace OcvTable

open Gauge

theorem isChain_knots (table : OcvTable) :
    (table.first.knot ::
      (table.second :: table.others).map OcvSocEntry.knot).IsChain
        Descends := chain_knots table.descending

def last (table : OcvTable) : OcvSocEntry :=
  (table.second :: table.others).getLast (List.cons_ne_nil _ _)

theorem last_mem (table : OcvTable) : table.last ∈ table.entries :=
  List.mem_cons_of_mem _ (List.getLast_mem _)

theorem first_percent (table : OcvTable) : table.first.percent.toNat = 100 :=
  congrArg UInt8.toNat table.full

theorem value_le (table : OcvTable) (voltageMv : ℕ) :
    table.value voltageMv ≤ 100 :=
  (KnotInterpolation.value_le table.isChain_knots voltageMv).trans
    table.first_percent.le

theorem value_mono (table : OcvTable) : Monotone table.value :=
  KnotInterpolation.value_mono table.isChain_knots

theorem value_entry (table : OcvTable) {entry : OcvSocEntry}
    (hentry : entry ∈ table.entries) :
    table.value entry.voltageMv.toNat = entry.percent.toNat :=
  KnotInterpolation.value_knot table.isChain_knots entry.knot
    (List.mem_map_of_mem hentry)

theorem value_of_first_le (table : OcvTable) {voltageMv : ℕ}
    (hfirst : table.first.voltageMv.toNat ≤ voltageMv) :
    table.value voltageMv = 100 := by
  rw [← table.first_percent]
  exact if_pos hfirst

theorem value_of_le_last (table : OcvTable) {voltageMv : ℕ}
    (hlast : voltageMv ≤ table.last.voltageMv.toNat) :
    table.value voltageMv = 0 := by
  have hmono := table.value_mono hlast
  have hempty : table.last.percent.toNat = 0 :=
    congrArg UInt8.toNat table.empty
  rw [table.value_entry table.last_mem, hempty] at hmono
  exact Nat.le_zero.mp hmono

/-- Every voltage is found before the last statement, without a fault. -/
theorem lookUp_eq (table : OcvTable) (hshort : table.entries.length ≤ 256)
    (voltageMv : ℕ) :
    lookUp table.first (table.second :: table.others) voltageMv =
      .ok (some (UInt8.ofNat (table.value voltageMv))) := by
  have hlast : ((table.first :: table.second :: table.others).getLast
      (List.cons_ne_nil _ _)) = table.last :=
    List.getLast_cons (List.cons_ne_nil _ _)
  unfold lookUp
  rw [hlast]
  split
  next htop =>
    rw [table.value_of_first_le htop]
    rfl
  next htop =>
    split
    next hbottom =>
      rw [table.value_of_le_last hbottom]
      rfl
    next hbottom =>
      have hone : (1 : UInt8).toNat + (table.second :: table.others).length ≤
          256 := by
        have hlength : table.entries.length =
            (table.second :: table.others).length + 1 := rfl
        change 1 + _ ≤ 256
        omega
      exact search_eq table.descending table.first_percent.le (by decide)
        hone (not_le.mp htop).le (hlast ▸ not_le.mp hbottom)

theorem voltageToPercent_eq (table : OcvTable)
    (hshort : table.entries.length ≤ 256) (voltageMv : UInt32) :
    voltageToPercent table.entries voltageMv =
      .ok (UInt8.ofNat (table.value voltageMv.toNat)) := by
  unfold entries voltageToPercent
  dsimp only
  rw [table.lookUp_eq hshort]
  rfl

theorem toNat_value (table : OcvTable) (voltageMv : ℕ) :
    (UInt8.ofNat (table.value voltageMv)).toNat = table.value voltageMv := by
  have hle := table.value_le voltageMv
  exact Nat.mod_eq_of_lt (by omega)

end OcvTable

/-- With a table that the eight-bit index can walk, the percentage is found
without a fault and before the last statement, is at most 100, meets the entries
and does not fall where the voltage rises. -/
theorem voltageToPercent_interpolates (table : OcvTable)
    (hshort : table.entries.length ≤ 256) :
    (∀ voltageMv : UInt32, ∃ percent : UInt8,
        Gauge.lookUp table.first (table.second :: table.others)
          voltageMv.toNat = .ok (some percent) ∧
        voltageToPercent table.entries voltageMv = .ok percent ∧
        percent ≤ 100) ∧
      (∀ (low high : UInt32) (lower higher : UInt8), low ≤ high →
        voltageToPercent table.entries low = .ok lower →
        voltageToPercent table.entries high = .ok higher →
          lower ≤ higher) ∧
      ∀ entry ∈ table.entries,
        voltageToPercent table.entries entry.voltageMv.toUInt32 =
          .ok entry.percent := by
  refine ⟨?_, ?_, ?_⟩
  · intro voltageMv
    refine ⟨_, table.lookUp_eq hshort _, table.voltageToPercent_eq hshort _,
      ?_⟩
    rw [UInt8.le_iff_toNat_le, table.toNat_value]
    exact table.value_le voltageMv.toNat
  · intro low high lower higher hle hlower hhigher
    rw [table.voltageToPercent_eq hshort] at hlower hhigher
    cases hlower
    cases hhigher
    rw [UInt8.le_iff_toNat_le, table.toNat_value, table.toNat_value]
    exact table.value_mono (UInt32.le_iff_toNat_le.mp hle)
  · intro entry hentry
    rw [table.voltageToPercent_eq hshort, UInt16.toNat_toUInt32,
      table.value_entry hentry, UInt8.ofNat_toNat]

/-! ## Two tables -/

/-- The ends of a table for a lithium cell. -/
def cellTable : OcvTable where
  first := ⟨4200, 100⟩
  second := ⟨3300, 0⟩
  others := []
  descending := by decide
  full := rfl
  empty := rfl

theorem voltageToPercent_interpolates_cellTable :
    cellTable.entries.length ≤ 256 ∧
      voltageToPercent cellTable.entries 3750 = .ok 50 ∧
      ∀ entry ∈ cellTable.entries,
        voltageToPercent cellTable.entries entry.voltageMv.toUInt32 =
          .ok entry.percent :=
  ⟨by decide, rfl, (voltageToPercent_interpolates cellTable (by decide)).2.2⟩

/-- One entry more than the index can walk to. -/
def longTable : OcvTable where
  first := ⟨1000, 100⟩
  second := ⟨999, 100⟩
  others := ((List.range 254).map fun n =>
    ⟨UInt16.ofNat (998 - n), 100⟩) ++ [⟨744, 0⟩]
  descending := by decide +kernel
  full := rfl
  empty := by decide +kernel

/-- At the voltage of its entry 255 the index wraps. -/
theorem voltageToPercent_wraps :
    ¬∀ entry ∈ longTable.entries,
      voltageToPercent longTable.entries entry.voltageMv.toUInt32 =
        .ok entry.percent := by
  intro hmeets
  have hentry := hmeets ⟨745, 100⟩ (by decide +kernel)
  have hfault : voltageToPercent longTable.entries 745 =
      .error .outOfBounds := by decide +kernel
  rw [show (745 : UInt16).toUInt32 = 745 from rfl, hfault] at hentry
  cases hentry

end SensorFirmware
