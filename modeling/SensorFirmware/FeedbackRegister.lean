import Mathlib.Tactic

/-!
# Shift registers with feedback

A register takes a message in bit by bit at its upper end; whenever a bit falls
out there, a fixed word `poly` is added.  Shifting is linear and, when `poly`
is odd, loses nothing, so that two messages of one length leave the same
register only if their difference leaves the empty one.  A difference that is
no longer than the register, or that consists of two bits closer than the
period of the register, never does.
-/

namespace FeedbackRegister

variable {w : ℕ} (poly : BitVec w)

def shift (r : BitVec w) : BitVec w :=
  if r.msb then (r <<< 1) ^^^ poly else r <<< 1

def top (w : ℕ) : BitVec w := BitVec.twoPow w (w - 1)

/-- Where a message bit enters the register. -/
def enter (bit : Bool) : BitVec w := if bit then top w else 0#w

def feed (r : BitVec w) (bit : Bool) : BitVec w :=
  shift poly (r ^^^ enter bit)

def feedAll (r : BitVec w) (bits : List Bool) : BitVec w :=
  bits.foldl (feed poly) r

@[simp] theorem feedAll_nil (r : BitVec w) : feedAll poly r [] = r := rfl

@[simp] theorem feedAll_cons (r : BitVec w) (bit : Bool)
    (bits : List Bool) :
    feedAll poly r (bit :: bits) = feedAll poly (feed poly r bit) bits := rfl

theorem feedAll_append (r : BitVec w) (bits rest : List Bool) :
    feedAll poly r (bits ++ rest) = feedAll poly (feedAll poly r bits) rest :=
  List.foldl_append

/-! ## Linearity -/

theorem xor_xor_xor_comm (a b c d : BitVec w) :
    (a ^^^ b) ^^^ (c ^^^ d) = (a ^^^ c) ^^^ (b ^^^ d) := by
  ac_rfl

@[simp] theorem shift_zero : shift poly 0#w = 0#w := by
  simp [shift]

theorem shift_xor (a b : BitVec w) :
    shift poly (a ^^^ b) = shift poly a ^^^ shift poly b := by
  have hcancel (x y : BitVec w) :
      (x ^^^ poly) ^^^ (y ^^^ poly) = x ^^^ y := by
    rw [xor_xor_xor_comm, BitVec.xor_self, BitVec.xor_zero]
  unfold shift
  rw [BitVec.msb_xor, BitVec.shiftLeft_xor_distrib]
  cases a.msb <;> cases b.msb
  · rfl
  · exact BitVec.xor_assoc _ _ _
  · simp only [Bool.bne_false, if_true, Bool.false_eq_true, if_false]
    ac_rfl
  · exact (hcancel _ _).symm

theorem iterate_shift_zero (count : ℕ) : (shift poly)^[count] 0#w = 0#w :=
  Function.iterate_fixed (shift_zero poly) count

theorem enter_xor (x y : Bool) :
    enter (xor x y) = (enter x ^^^ enter y : BitVec w) := by
  cases x <;> cases y <;> simp [enter]

theorem feedAll_xor (a b : BitVec w) {xs ys : List Bool}
    (hlength : xs.length = ys.length) :
    feedAll poly (a ^^^ b) (List.zipWith xor xs ys) =
      feedAll poly a xs ^^^ feedAll poly b ys := by
  induction xs generalizing a b ys with
  | nil =>
      cases ys with
      | nil => rfl
      | cons y ys => cases hlength
  | cons x xs ih =>
      cases ys with
      | nil => cases hlength
      | cons y ys =>
          have hfeed : feed poly (a ^^^ b) (xor x y) =
              feed poly a x ^^^ feed poly b y := by
            unfold feed
            rw [enter_xor, xor_xor_xor_comm, shift_xor]
          rw [List.zipWith_cons_cons, feedAll_cons, hfeed,
            ih _ _ (Nat.succ.inj hlength), feedAll_cons, feedAll_cons]

/-- Messages that leave the same register differ by one that leaves none. -/
theorem feedAll_difference {r : BitVec w} {xs ys : List Bool}
    (hlength : xs.length = ys.length)
    (hsame : feedAll poly r xs = feedAll poly r ys) :
    feedAll poly 0#w (List.zipWith xor xs ys) = 0#w := by
  have hxor := feedAll_xor poly r r hlength
  rw [BitVec.xor_self, hsame, BitVec.xor_self] at hxor
  exact hxor

theorem feedAll_quiet (r : BitVec w) {bits : List Bool}
    (hquiet : ∀ bit ∈ bits, bit = false) :
    feedAll poly r bits = (shift poly)^[bits.length] r := by
  induction bits generalizing r with
  | nil => rfl
  | cons bit bits ih =>
      have hbit := hquiet bit List.mem_cons_self
      rw [feedAll_cons, ih _ fun b hb => hquiet b (List.mem_cons_of_mem _ hb),
        List.length_cons, Function.iterate_succ_apply, hbit]
      simp [feed, enter]

/-! ## Nothing is lost -/

variable {poly}

theorem eq_zero_of_shift_eq_zero (hodd : poly.getLsbD 0 = true)
    {r : BitVec w} (hzero : shift poly r = 0#w) :
    r = 0#w := by
  unfold shift at hzero
  split at hzero
  · have hbit := congrArg (fun r => BitVec.getLsbD r 0) hzero
    simp [hodd] at hbit
  next hmsb =>
    apply BitVec.eq_of_getLsbD_eq
    intro i hi
    by_cases hlast : i = w - 1
    · rw [hlast, ← BitVec.msb_eq_getLsbD_last]
      simpa using hmsb
    · have hbit : (r <<< 1).getLsbD (i + 1) = false := by
        rw [hzero]
        exact BitVec.getLsbD_zero
      have hlt : i + 1 < w := by omega
      rw [BitVec.getLsbD_shiftLeft, Nat.add_sub_cancel] at hbit
      rw [BitVec.getLsbD_zero]
      simpa only [hlt, Nat.not_lt.mpr (Nat.le_add_left 1 i), decide_true,
        decide_false, Bool.not_false, Bool.true_and] using hbit

theorem eq_zero_of_iterate_eq_zero (hodd : poly.getLsbD 0 = true)
    {count : ℕ} {r : BitVec w}
    (hzero : (shift poly)^[count] r = 0#w) : r = 0#w := by
  induction count generalizing r with
  | zero => exact hzero
  | succ count ih =>
      rw [Function.iterate_succ_apply] at hzero
      exact eq_zero_of_shift_eq_zero hodd (ih hzero)

/-! ## Words no longer than the register -/

variable (poly)

/-- The register with a word at its upper end. -/
def placed : List Bool → BitVec w
  | [] => 0#w
  | bit :: word => enter bit ^^^ (placed word >>> 1)

theorem getLsbD_placed (word : List Bool) {i : ℕ} (hi : i < w) :
    (placed word : BitVec w).getLsbD i =
      (word[w - 1 - i]?).getD false := by
  induction word generalizing i with
  | nil => simp [placed]
  | cons bit word ih =>
      rw [placed, BitVec.getLsbD_xor, BitVec.getLsbD_ushiftRight]
      by_cases hlast : i = w - 1
      · have houtside : (placed word : BitVec w).getLsbD (1 + i) = false :=
          BitVec.getLsbD_of_ge _ _ (by omega)
        rw [houtside, hlast, Nat.sub_self]
        cases bit <;> simp [enter, top]
        omega
      · have hinside : 1 + i < w := by omega
        rw [ih hinside]
        have hindex : w - 1 - i = (w - 1 - (1 + i)) + 1 := by omega
        have henter : (enter bit : BitVec w).getLsbD i = false := by
          cases bit <;> simp [enter, top]
          omega
        rw [henter, hindex, List.getElem?_cons_succ, Bool.false_xor]

theorem eq_false_of_placed_eq_zero {word : List Bool}
    (hshort : word.length ≤ w)
    (hzero : placed word = 0#w) :
    ∀ bit ∈ word, bit = false := by
  intro bit hbit
  obtain ⟨i, hi, rfl⟩ := List.mem_iff_getElem.mp hbit
  have hfrom : w - 1 - i < w := by omega
  have hplace := getLsbD_placed word hfrom
  have hindex : w - 1 - (w - 1 - i) = i := by omega
  rw [hzero, hindex, List.getElem?_eq_getElem hi] at hplace
  simpa using hplace.symm

theorem shift_ushiftRight {r : BitVec w} (hlow : r.getLsbD 0 = false) :
    shift poly (r >>> 1) = r := by
  have hmsb : (r >>> 1).msb = false := by
    rw [BitVec.msb_eq_getLsbD_last, BitVec.getLsbD_ushiftRight]
    by_cases hwidth : w = 0
    · subst hwidth
      exact BitVec.getLsbD_of_ge _ _ (by omega)
    · exact BitVec.getLsbD_of_ge _ _ (by omega)
  unfold shift
  rw [hmsb, if_neg Bool.false_ne_true]
  apply BitVec.eq_of_getLsbD_eq
  intro i hi
  rw [BitVec.getLsbD_shiftLeft, BitVec.getLsbD_ushiftRight]
  cases i with
  | zero => simp [hlow]
  | succ i =>
      rw [Nat.add_comm 1, Nat.add_sub_cancel]
      simp [hi]

theorem feedAll_placed (r : BitVec w) {word : List Bool}
    (hshort : word.length ≤ w) :
    feedAll poly r word =
      (shift poly)^[word.length] (r ^^^ placed word) := by
  induction word generalizing r with
  | nil =>
      rw [feedAll_nil, placed, BitVec.xor_zero]
      rfl
  | cons bit word ih =>
      have hroom : word.length < w := hshort
      have hlow : (placed word : BitVec w).getLsbD 0 = false := by
        rw [getLsbD_placed word (by omega), List.getElem?_eq_none (by omega)]
        rfl
      have hmoved := shift_ushiftRight poly hlow
      calc feedAll poly r (bit :: word)
          = (shift poly)^[word.length]
              (shift poly (r ^^^ enter bit) ^^^ placed word) :=
            ih _ hroom.le
        _ = (shift poly)^[word.length]
              (shift poly ((r ^^^ enter bit) ^^^ (placed word >>> 1))) := by
            rw [shift_xor poly (r ^^^ enter bit), hmoved]
        _ = (shift poly)^[word.length + 1] (r ^^^ placed (bit :: word)) := by
            rw [Function.iterate_succ_apply, placed, BitVec.xor_assoc]

/-- A message followed by what it leaves in the register leaves nothing. -/
theorem feedAll_own {r : BitVec w} {word : List Bool}
    (hshort : word.length ≤ w) (hown : placed word = r) :
    feedAll poly r word = 0#w := by
  rw [feedAll_placed poly r hshort, hown, BitVec.xor_self]
  exact iterate_shift_zero poly _

/-! ## What a changed message leaves -/

/-- The messages differ, and only within `span` consecutive bits. -/
def Burst (span : ℕ) (xs ys : List Bool) : Prop :=
  xs ≠ ys ∧ ∃ start, ∀ i, xs[i]? ≠ ys[i]? → start ≤ i ∧ i < start + span

/-- The messages differ in exactly two bits. -/
def TwoFlips (xs ys : List Bool) : Prop :=
  ∃ i j, i < j ∧ j < xs.length ∧
    ∀ k, xs[k]? ≠ ys[k]? ↔ k = i ∨ k = j

variable {poly} {xs ys : List Bool}

/-- The messages agree before the span and behind it. -/
theorem Burst.of_agree {span start : ℕ} (hne : xs ≠ ys)
    (hbefore : xs.take start = ys.take start)
    (hafter : xs.drop (start + span) = ys.drop (start + span)) :
    Burst span xs ys := by
  refine ⟨hne, start, fun i hdiffer => ⟨?_, ?_⟩⟩
  · by_contra hearly
    apply hdiffer
    rw [← List.getElem?_take_of_lt (not_le.mp hearly), hbefore,
      List.getElem?_take_of_lt (not_le.mp hearly)]
  · by_contra hlate
    obtain ⟨k, rfl⟩ := Nat.exists_eq_add_of_le (not_lt.mp hlate)
    apply hdiffer
    rw [← List.getElem?_drop, hafter, List.getElem?_drop]

theorem difference_iff {i : ℕ} {bit : Bool}
    (hbit : (List.zipWith xor xs ys)[i]? = some bit) :
    bit = true ↔ xs[i]? ≠ ys[i]? := by
  obtain ⟨x, y, hx, hy, hxor⟩ := List.getElem?_zipWith_eq_some.mp hbit
  rw [← hxor, hx, hy, ne_eq, Option.some.injEq]
  cases x <;> cases y <;> decide

theorem eq_of_quiet_difference (hlength : xs.length = ys.length)
    (hquiet : ∀ bit ∈ List.zipWith xor xs ys, bit = false) : xs = ys := by
  apply List.ext_getElem?
  intro i
  by_contra hdiffer
  cases hbit : (List.zipWith xor xs ys)[i]? with
  | none =>
      have houtside := List.getElem?_eq_none_iff.mp hbit
      rw [List.length_zipWith, ← hlength, Nat.min_self] at houtside
      rw [List.getElem?_eq_none houtside,
        List.getElem?_eq_none (hlength ▸ houtside)] at hdiffer
      exact hdiffer rfl
  | some bit =>
      have htrue := (difference_iff hbit).mpr hdiffer
      rw [hquiet bit (List.mem_of_getElem? hbit)] at htrue
      exact Bool.false_ne_true htrue

/-- Where the messages agree their difference is quiet. -/
theorem quiet_take {i : ℕ} (hagree : ∀ k, k < i → xs[k]? = ys[k]?) :
    ∀ bit ∈ (List.zipWith xor xs ys).take i, bit = false := by
  intro bit hbit
  obtain ⟨k, hk, rfl⟩ := List.mem_iff_getElem.mp hbit
  have hlt : k < i := by
    rw [List.length_take] at hk
    omega
  rw [Bool.eq_false_iff, List.getElem_take]
  intro htrue
  exact (difference_iff (List.getElem?_eq_getElem _)).mp htrue (hagree k hlt)

theorem quiet_drop {i : ℕ} (hagree : ∀ k, i ≤ k → xs[k]? = ys[k]?) :
    ∀ bit ∈ (List.zipWith xor xs ys).drop i, bit = false := by
  intro bit hbit
  obtain ⟨k, hk, rfl⟩ := List.mem_iff_getElem.mp hbit
  rw [Bool.eq_false_iff, List.getElem_drop]
  intro htrue
  exact (difference_iff (List.getElem?_eq_getElem _)).mp htrue
    (hagree (i + k) (Nat.le_add_right i k))

theorem feedAll_ne_of_burst (hodd : poly.getLsbD 0 = true)
    (hlength : xs.length = ys.length) (hburst : Burst w xs ys)
    (r : BitVec w) : feedAll poly r xs ≠ feedAll poly r ys := by
  intro hsame
  obtain ⟨hne, start, hspan⟩ := hburst
  have hnone := feedAll_difference poly hlength hsame
  have hbefore : ∀ bit ∈ (List.zipWith xor xs ys).take start,
      bit = false := by
    apply quiet_take
    intro k hk
    by_contra hdiffer
    have hfrom := (hspan k hdiffer).1
    omega
  have hafter : ∀ bit ∈ (List.zipWith xor xs ys).drop (start + w),
      bit = false := by
    apply quiet_drop
    intro k hk
    by_contra hdiffer
    have hto := (hspan k hdiffer).2
    omega
  apply hne
  apply eq_of_quiet_difference hlength
  generalize List.zipWith xor xs ys = difference at hnone hbefore hafter
  have hsplit : difference = difference.take start ++
      ((difference.drop start).take w ++
        difference.drop (start + w)) := by
    rw [← List.drop_drop, List.take_append_drop, List.take_append_drop]
  generalize hword : (difference.drop start).take w = word at hsplit
  have hshort : word.length ≤ w := by
    rw [← hword, List.length_take]
    exact Nat.min_le_left _ _
  rw [hsplit, feedAll_append, feedAll_append, feedAll_quiet poly _ hbefore,
    iterate_shift_zero, feedAll_quiet poly _ hafter] at hnone
  have hleft := eq_zero_of_iterate_eq_zero hodd hnone
  rw [feedAll_placed poly _ hshort, BitVec.zero_xor] at hleft
  have hplaced := eq_zero_of_iterate_eq_zero hodd hleft
  have hinside := eq_false_of_placed_eq_zero hshort hplaced
  intro bit hbit
  rw [hsplit, List.mem_append, List.mem_append] at hbit
  rcases hbit with hbit | hbit | hbit
  · exact hbefore bit hbit
  · exact hinside bit hbit
  · exact hafter bit hbit

/-- Two bits set, `distance` apart, leave a register that has come round. -/
theorem top_of_two_bits (hodd : poly.getLsbD 0 = true)
    {before between after : List Bool}
    (hbefore : ∀ bit ∈ before, bit = false)
    (hbetween : ∀ bit ∈ between, bit = false)
    (hafter : ∀ bit ∈ after, bit = false)
    (hnone : feedAll poly 0#w
      (before ++ true :: (between ++ true :: after)) = 0#w) :
    (shift poly)^[between.length + 1] (top w) = top w := by
  have hfirst : feed poly 0#w true = shift poly (top w) := by
    simp [feed, enter]
  rw [feedAll_append, feedAll_quiet poly _ hbefore, iterate_shift_zero,
    feedAll_cons, hfirst, feedAll_append, feedAll_quiet poly _ hbetween,
    feedAll_cons, feedAll_quiet poly _ hafter] at hnone
  have hsecond := eq_zero_of_shift_eq_zero hodd
    (eq_zero_of_iterate_eq_zero hodd hnone)
  rw [Function.iterate_succ_apply]
  exact BitVec.xor_eq_zero_iff.mp hsecond

theorem feedAll_ne_of_twoFlips (hodd : poly.getLsbD 0 = true)
    (hperiod : ∀ distance, 0 < distance → distance < xs.length →
      (shift poly)^[distance] (top w) ≠ top w)
    (hlength : xs.length = ys.length) (hflips : TwoFlips xs ys)
    (r : BitVec w) : feedAll poly r xs ≠ feedAll poly r ys := by
  intro hsame
  obtain ⟨i, j, hij, hj, hflip⟩ := hflips
  have hnone := feedAll_difference poly hlength hsame
  have hbit (k : ℕ) (hk : k < (List.zipWith xor xs ys).length) :
      (List.zipWith xor xs ys)[k] = true ↔ k = i ∨ k = j :=
    (difference_iff (List.getElem?_eq_getElem hk)).trans (hflip k)
  have hagree (k : ℕ) (hi : k ≠ i) (hj : k ≠ j) : xs[k]? = ys[k]? := by
    by_contra hdiffer
    rcases (hflip k).mp hdiffer with hk | hk
    · exact hi hk
    · exact hj hk
  have hbefore : ∀ bit ∈ (List.zipWith xor xs ys).take i, bit = false :=
    quiet_take fun k hk => hagree k (by omega) (by omega)
  have hafter : ∀ bit ∈ (List.zipWith xor xs ys).drop (j + 1), bit = false :=
    quiet_drop fun k hk => hagree k (by omega) (by omega)
  have hdifference : (List.zipWith xor xs ys).length = xs.length := by
    rw [List.length_zipWith, hlength, Nat.min_self]
  generalize List.zipWith xor xs ys = difference
    at hnone hbit hdifference hbefore hafter
  have hbetween : ∀ bit ∈ (difference.drop (i + 1)).take (j - (i + 1)),
      bit = false := by
    intro bit hmem
    obtain ⟨k, hk, rfl⟩ := List.mem_iff_getElem.mp hmem
    rw [List.length_take] at hk
    rw [Bool.eq_false_iff, List.getElem_take, List.getElem_drop, ne_eq, hbit]
    omega
  have hi : difference[i] = true := (hbit i (by omega)).mpr (Or.inl rfl)
  have hlast : difference[j] = true := (hbit j (by omega)).mpr (Or.inr rfl)
  have hsplit : difference = difference.take i ++
      (true :: ((difference.drop (i + 1)).take (j - (i + 1)) ++
        true :: difference.drop (j + 1))) := by
    have hrest : difference.drop j = (difference.drop (i + 1)).drop
        (j - (i + 1)) := by
      rw [List.drop_drop]
      congr 1
      omega
    rw [← hlast, ← List.drop_eq_getElem_cons, hrest, List.take_append_drop,
      hlast, ← hi, ← List.drop_eq_getElem_cons, List.take_append_drop]
  rw [hsplit] at hnone
  have hround := top_of_two_bits hodd hbefore hbetween hafter hnone
  have hcount : ((difference.drop (i + 1)).take (j - (i + 1))).length + 1 =
      j - i := by
    rw [List.length_take, List.length_drop]
    omega
  rw [hcount] at hround
  exact hperiod (j - i) (by omega) (by omega) hround

/-! ## The period, by running the register -/

/-- The register does not pass through `start` in its next `count` shifts. -/
def neverBack (poly start : BitVec w) : ℕ → BitVec w → Bool
  | 0, _ => true
  | count + 1, r =>
      decide (shift poly r ≠ start) &&
        neverBack poly start count (shift poly r)

theorem iterate_ne_of_neverBack {start r : BitVec w} {count : ℕ}
    (haway : neverBack poly start count r = true) {distance : ℕ}
    (hpos : 0 < distance) (hwithin : distance ≤ count) :
    (shift poly)^[distance] r ≠ start := by
  induction count generalizing r distance with
  | zero => omega
  | succ count ih =>
      rw [neverBack, Bool.and_eq_true, decide_eq_true_eq] at haway
      cases distance with
      | zero => omega
      | succ distance =>
          rw [Function.iterate_succ_apply]
          cases distance with
          | zero => exact haway.1
          | succ distance =>
              exact ih haway.2 (Nat.succ_pos distance) (by omega)

end FeedbackRegister
