import Mathlib.Tactic

/-!
# Bytes and checksums

The bitwise loops of `ProtocolDefs.h`, and the little-endian layout in which
packed structures and frame payloads are read and written.
-/

namespace SensorFirmware

abbrev Byte := BitVec 8

def u8 (n : ℕ) : ℕ := n % 2 ^ 8
def u16 (n : ℕ) : ℕ := n % 2 ^ 16
def u32 (n : ℕ) : ℕ := n % 2 ^ 32

def sub32 (a b : ℕ) : ℕ := u32 (a + (2 ^ 32 - u32 b))

def sub16 (a b : ℕ) : ℕ := u16 (a + (2 ^ 16 - u16 b))

theorem u32_of_lt {n : ℕ} (hn : n < 2 ^ 32) : u32 n = n :=
  Nat.mod_eq_of_lt hn

theorem u16_lt (n : ℕ) : u16 n < 2 ^ 16 := Nat.mod_lt _ (by norm_num)

/-- Unsigned subtraction measures the time between two readings of a counter
that has gone round in between. -/
theorem sub32_u32 {first second : ℕ} (hle : first ≤ second) :
    sub32 (u32 second) (u32 first) = u32 (second - first) := by
  unfold sub32 u32
  omega

/-! ## Byte order -/

def leBytes (count n : ℕ) : List Byte :=
  (List.range count).map fun i => BitVec.ofNat 8 (n / 256 ^ i)

def leNat : List Byte → ℕ
  | [] => 0
  | b :: rest => b.toNat + 256 * leNat rest

@[simp] theorem length_leBytes (count n : ℕ) :
    (leBytes count n).length = count := by
  simp [leBytes]

theorem leBytes_succ (count n : ℕ) :
    leBytes (count + 1) n =
      BitVec.ofNat 8 n :: leBytes count (n / 256) := by
  unfold leBytes
  rw [List.range_succ_eq_map, List.map_cons, List.map_map]
  congr 1
  · simp
  · apply List.map_congr_left
    intro i _
    simp only [Function.comp_apply]
    rw [Nat.pow_succ', Nat.div_div_eq_div_mul]

/-- Reading back `count` little-endian bytes truncates to their width. -/
theorem leNat_leBytes (count n : ℕ) :
    leNat (leBytes count n) = n % 256 ^ count := by
  induction count generalizing n with
  | zero => simp [leBytes, leNat, Nat.mod_one]
  | succ count ih =>
      have hpow : 256 ^ (count + 1) = 256 * 256 ^ count := Nat.pow_succ'
      rw [leBytes_succ, leNat, ih, BitVec.toNat_ofNat, hpow, Nat.mod_mul]

theorem leNat_lt (bytes : List Byte) : leNat bytes < 256 ^ bytes.length := by
  induction bytes with
  | nil => simp [leNat]
  | cons b bytes ih =>
      have hbyte := b.isLt
      simp only [leNat, List.length_cons, pow_succ]
      omega

theorem leNat_take_lt (bytes : List Byte) (count : ℕ) :
    leNat (bytes.take count) < 256 ^ count := by
  have hlength : (bytes.take count).length ≤ count :=
    List.length_take_le _ _
  calc
    leNat (bytes.take count)
        < 256 ^ (bytes.take count).length := leNat_lt _
    _ ≤ 256 ^ count := Nat.pow_le_pow_right (by norm_num) hlength

theorem leBytes_leNat (bytes : List Byte) :
    leBytes bytes.length (leNat bytes) = bytes := by
  induction bytes with
  | nil => rfl
  | cons b bytes ih =>
      have hlow : BitVec.ofNat 8 (b.toNat + 256 * leNat bytes) = b := by
        apply BitVec.eq_of_toNat_eq
        have hbyte := b.isLt
        rw [BitVec.toNat_ofNat]
        omega
      have hhigh : (b.toNat + 256 * leNat bytes) / 256 = leNat bytes := by
        have hbyte := b.isLt
        omega
      rw [List.length_cons, leNat, leBytes_succ, hlow, hhigh, ih]

/-- The bytes that a value was read from. -/
theorem take_of_leNat_take {bytes : List Byte} {count n : ℕ}
    (hcount : count ≤ bytes.length) (hread : leNat (bytes.take count) = n) :
    bytes.take count = leBytes count n := by
  have hlength : (bytes.take count).length = count :=
    List.length_take_of_le hcount
  have hback := leBytes_leNat (bytes.take count)
  rw [hlength, hread] at hback
  exact hback.symm

/-! ## Checksums -/

def crc16Bit (crc : BitVec 16) : BitVec 16 :=
  if crc &&& 0x8000#16 ≠ 0 then (crc <<< 1) ^^^ 0x1021#16 else crc <<< 1

def crc16Byte (crc : BitVec 16) (b : Byte) : BitVec 16 :=
  crc16Bit^[8] (crc ^^^ (b.setWidth 16 <<< 8))

def calculateCRC16 (data : List Byte) : BitVec 16 :=
  data.foldl crc16Byte 0xFFFF#16

def crc32Bit (crc : BitVec 32) : BitVec 32 :=
  (crc >>> 1) ^^^ (0xEDB88320#32 &&& -(crc &&& 1#32))

def crc32Byte (crc : BitVec 32) (b : Byte) : BitVec 32 :=
  crc32Bit^[8] (crc ^^^ b.setWidth 32)

def updateCRC32 (crc : BitVec 32) (data : List Byte) : BitVec 32 :=
  data.foldl crc32Byte crc

def calculateCRC32 (data : List Byte) : BitVec 32 :=
  ~~~updateCRC32 0xFFFFFFFF#32 data

theorem updateCRC32_append (crc : BitVec 32) (first second : List Byte) :
    updateCRC32 crc (first ++ second) =
      updateCRC32 (updateCRC32 crc first) second :=
  List.foldl_append

example : calculateCRC32 [0x31, 0x32, 0x33] = 0x884863D2#32 := by
  decide +kernel

end SensorFirmware
