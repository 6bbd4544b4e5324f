import Mathlib.Tactic

/-!
# Cyclic redundancy codes

The register of a code is shifted one message bit at a time, and the polynomial
is taken off when a one comes out.  A reflected code feeds each byte from its
lowest bit and reads the register backwards; the usual program for one keeps the
register backwards, and takes a whole byte in before it shifts.
-/

namespace CyclicRedundancy

variable {width : ℕ}

/-- One bit of the message into the register, at its highest end. -/
def shiftIn (poly register : BitVec width) (bit : Bool) : BitVec width :=
  if register.msb ^^ bit then (register <<< 1) ^^^ poly else register <<< 1

def bits {n : ℕ} (word : BitVec n) : List Bool :=
  (List.range n).map word.getLsbD

/-- The code of a message whose bytes are read from their lowest bit. -/
def reflectedCode {n : ℕ} (poly init final : BitVec width)
    (message : List (BitVec n)) : BitVec width :=
  ((message.flatMap bits).foldl (shiftIn poly) init).reverse ^^^ final

/-- One bit of the message into a register that is kept backwards. -/
def shiftOut (poly register : BitVec width) (bit : Bool) : BitVec width :=
  if register.getLsbD 0 ^^ bit then (register >>> 1) ^^^ poly
  else register >>> 1

/-- A whole word, taken in before it is shifted out. -/
def shiftWord {n : ℕ} (poly register : BitVec width) (word : BitVec n) :
    BitVec width :=
  (shiftOut poly · false)^[n] (register ^^^ word.setWidth width)

theorem reverse_xor (first second : BitVec width) :
    (first ^^^ second).reverse = first.reverse ^^^ second.reverse := by
  apply BitVec.eq_of_getLsbD_eq
  intro i _
  simp [BitVec.getLsbD_reverse, BitVec.getMsbD_xor]

theorem reverse_shiftLeft_one (register : BitVec width) :
    (register <<< 1).reverse = register.reverse >>> 1 := by
  apply BitVec.eq_of_getLsbD_eq
  intro i hi
  rw [BitVec.getLsbD_reverse, BitVec.getLsbD_ushiftRight,
    BitVec.getLsbD_reverse, BitVec.getMsbD_shiftLeft, Nat.add_comm]

theorem reverse_shiftIn (poly register : BitVec width) (bit : Bool) :
    (shiftIn poly register bit).reverse =
      shiftOut poly.reverse register.reverse bit := by
  have hout : register.reverse.getLsbD 0 = register.msb := by
    rw [BitVec.getLsbD_reverse, BitVec.msb]
  unfold shiftIn shiftOut
  rw [hout]
  cases register.msb ^^ bit
  · exact reverse_shiftLeft_one register
  · simp only [if_true]
    rw [reverse_xor, reverse_shiftLeft_one]

theorem reverse_foldl_shiftIn (poly register : BitVec width)
    (message : List Bool) :
    (message.foldl (shiftIn poly) register).reverse =
      message.foldl (shiftOut poly.reverse) register.reverse := by
  induction message generalizing register with
  | nil => rfl
  | cons bit message ih =>
      rw [List.foldl_cons, List.foldl_cons, ih, reverse_shiftIn]

/-- A bit that is already in the register may as well be fed to it. -/
theorem shiftOut_xor (poly register word : BitVec width) :
    shiftOut poly (register ^^^ word) false =
      shiftOut poly register (word.getLsbD 0) ^^^ (word >>> 1) := by
  unfold shiftOut
  rw [BitVec.getLsbD_xor, Bool.xor_false, BitVec.ushiftRight_xor_distrib]
  cases register.getLsbD 0 ^^ word.getLsbD 0
  · rfl
  · simp only [if_true]
    rw [BitVec.xor_assoc, BitVec.xor_comm (word >>> 1), ← BitVec.xor_assoc]

theorem iterate_shiftOut_xor (poly register word : BitVec width) (n : ℕ) :
    (shiftOut poly · false)^[n] (register ^^^ word) =
      ((List.range n).map word.getLsbD).foldl (shiftOut poly) register ^^^
        (word >>> n) := by
  induction n generalizing register word with
  | zero => simp
  | succ n ih =>
      have hbits : (List.range n).map (word >>> 1).getLsbD =
          (List.range n).map (word.getLsbD ∘ Nat.succ) := by
        apply List.map_congr_left
        intro i _
        rw [BitVec.getLsbD_ushiftRight, Nat.add_comm]
        rfl
      rw [Function.iterate_succ_apply, shiftOut_xor, ih, hbits,
        List.range_succ_eq_map, List.map_cons, List.map_map, List.foldl_cons,
        ← BitVec.shiftRight_add, Nat.add_comm 1 n]

theorem shiftWord_eq {n : ℕ} (hwide : n ≤ width)
    (poly register : BitVec width) (word : BitVec n) :
    shiftWord poly register word =
      (bits word).foldl (shiftOut poly) register := by
  have hbits : (List.range n).map (word.setWidth width).getLsbD = bits word := by
    apply List.map_congr_left
    intro i hi
    have hlow : i < width := (List.mem_range.mp hi).trans_le hwide
    simp [hlow]
  have hnone : word.setWidth width >>> n = 0 := by
    apply BitVec.eq_of_getLsbD_eq
    intro i _
    rw [BitVec.getLsbD_ushiftRight, BitVec.getLsbD_setWidth,
      BitVec.getLsbD_of_ge word (n + i) (Nat.le_add_right n i)]
    simp
  rw [shiftWord, iterate_shiftOut_xor, hbits, hnone]
  exact BitVec.xor_zero

/-- The program that takes whole words in computes the reflected code. -/
theorem foldl_shiftWord {n : ℕ} (hwide : n ≤ width)
    (poly register : BitVec width) (message : List (BitVec n)) :
    message.foldl (shiftWord poly.reverse) register.reverse =
      ((message.flatMap bits).foldl (shiftIn poly) register).reverse := by
  rw [reverse_foldl_shiftIn, List.foldl_flatMap]
  congr 1
  funext register word
  exact shiftWord_eq hwide _ register word

end CyclicRedundancy
