import Mathlib.Algebra.Order.Floor.Div
import Mathlib.Tactic

/-!
# Interpolation between knots

A piecewise linear function on the natural numbers, given by knots in
descending order, with division that truncates.  It is monotone and meets its
knots, and the least argument at which it reaches a value can be computed from
the knots.
-/

namespace KnotInterpolation

structure Knot where
  x : ℕ
  y : ℕ
  deriving DecidableEq, Repr

/-- The line through two knots, at an argument not below the lower one. -/
def between (high low : Knot) (x : ℕ) : ℕ :=
  low.y + (high.y - low.y) * (x - low.x) / (high.x - low.x)

/-- Constant outside the knots. -/
def value : Knot → List Knot → ℕ → ℕ
  | high, [], _ => high.y
  | high, low :: rest, x =>
      if high.x ≤ x then high.y
      else if low.x < x then between high low x
      else value low rest x

/-- The least argument at which the function reaches the value. -/
def reach : Knot → List Knot → ℕ → ℕ
  | high, [], _ => high.x
  | high, low :: rest, y =>
      if low.y < y then
        low.x + (y - low.y) * (high.x - low.x) ⌈/⌉ (high.y - low.y)
      else reach low rest y

structure Descends (high low : Knot) : Prop where
  x : low.x < high.x
  y : low.y ≤ high.y

instance (high low : Knot) : Decidable (Descends high low) :=
  decidable_of_iff (low.x < high.x ∧ low.y ≤ high.y)
    ⟨fun h => ⟨h.1, h.2⟩, fun h => ⟨h.x, h.y⟩⟩

/-! ## One segment -/

section Segment

variable {high low : Knot}

theorem le_between (high low : Knot) (x : ℕ) : low.y ≤ between high low x :=
  Nat.le_add_right _ _

theorem between_le (hdescends : Descends high low) {x : ℕ} (hx : x ≤ high.x) :
    between high low x ≤ high.y := by
  have hrange : 0 < high.x - low.x := Nat.sub_pos_of_lt hdescends.x
  have hpart : (high.y - low.y) * (x - low.x) / (high.x - low.x) ≤
      high.y - low.y := by
    calc
      (high.y - low.y) * (x - low.x) / (high.x - low.x)
          ≤ (high.y - low.y) * (high.x - low.x) / (high.x - low.x) :=
            Nat.div_le_div_right
              (Nat.mul_le_mul_left _ (Nat.sub_le_sub_right hx _))
      _ = high.y - low.y := Nat.mul_div_cancel _ hrange
  have hy := hdescends.y
  unfold between
  omega

theorem between_mono (high low : Knot) {x x' : ℕ} (hx : x ≤ x') :
    between high low x ≤ between high low x' :=
  Nat.add_le_add_left (Nat.div_le_div_right
    (Nat.mul_le_mul_left _ (Nat.sub_le_sub_right hx _))) _

theorem le_between_iff (hdescends : Descends high low) {x y : ℕ}
    (hx : low.x ≤ x) (hlow : low.y < y) (hhigh : y ≤ high.y) :
    y ≤ between high low x ↔
      low.x + (y - low.y) * (high.x - low.x) ⌈/⌉ (high.y - low.y) ≤ x := by
  have hrange : 0 < high.x - low.x := Nat.sub_pos_of_lt hdescends.x
  have hpart : 0 < high.y - low.y := by omega
  calc
    y ≤ between high low x
        ↔ y - low.y ≤
            (high.y - low.y) * (x - low.x) / (high.x - low.x) := by
          unfold between
          omega
    _ ↔ (y - low.y) * (high.x - low.x) ≤
          (high.y - low.y) * (x - low.x) := Nat.le_div_iff_mul_le hrange
    _ ↔ (y - low.y) * (high.x - low.x) ⌈/⌉ (high.y - low.y) ≤
          x - low.x := (ceilDiv_le_iff_le_mul hpart).symm
    _ ↔ _ := by omega

end Segment

/-! ## All segments -/

section Knots

variable {high : Knot} {rest : List Knot}

theorem value_le (hchain : (high :: rest).IsChain Descends) (x : ℕ) :
    value high rest x ≤ high.y := by
  induction rest generalizing high with
  | nil => exact le_rfl
  | cons low rest ih =>
      obtain ⟨hdescends, hrest⟩ := List.isChain_cons_cons.mp hchain
      unfold value
      split_ifs with htop hwithin
      · exact le_rfl
      · exact between_le hdescends (not_le.mp htop).le
      · exact (ih hrest).trans hdescends.y

theorem value_mono (hchain : (high :: rest).IsChain Descends) :
    Monotone (value high rest) := by
  induction rest generalizing high with
  | nil => exact monotone_const
  | cons low rest ih =>
      obtain ⟨hdescends, hrest⟩ := List.isChain_cons_cons.mp hchain
      intro x x' hx
      by_cases htop : high.x ≤ x'
      · have hvalue : value high (low :: rest) x' = high.y := if_pos htop
        rw [hvalue]
        exact value_le hchain x
      · unfold value
        rw [if_neg htop, if_neg (fun h => htop (h.trans hx))]
        split_ifs with hlow hlow' hlow'
        · exact between_mono high low hx
        · exact absurd (hlow.trans_le hx) hlow'
        · exact (value_le hrest x).trans (le_between high low x')
        · exact ih hrest hx

/-- The arguments of the knots lie below that of the first. -/
theorem x_le (hchain : (high :: rest).IsChain Descends) :
    ∀ knot ∈ high :: rest, knot.x ≤ high.x := by
  induction rest generalizing high with
  | nil =>
      intro knot hknot
      rw [List.mem_singleton.mp hknot]
  | cons low rest ih =>
      obtain ⟨hdescends, hrest⟩ := List.isChain_cons_cons.mp hchain
      intro knot hknot
      obtain rfl | hlower := List.mem_cons.mp hknot
      · exact le_rfl
      · exact (ih hrest knot hlower).trans hdescends.x.le

theorem value_knot (hchain : (high :: rest).IsChain Descends) :
    ∀ knot ∈ high :: rest, value high rest knot.x = knot.y := by
  induction rest generalizing high with
  | nil =>
      intro knot hknot
      rw [List.mem_singleton.mp hknot]
      rfl
  | cons low rest ih =>
      obtain ⟨hdescends, hrest⟩ := List.isChain_cons_cons.mp hchain
      intro knot hknot
      obtain rfl | hlower := List.mem_cons.mp hknot
      · exact if_pos le_rfl
      · have hle : knot.x ≤ low.x := x_le hrest knot hlower
        have hx := hdescends.x
        rw [value, if_neg (by omega), if_neg (by omega)]
        exact ih hrest knot hlower

/-- Between the last value and the first, the function reaches a value exactly
from the computed argument on. -/
theorem le_value_iff (hchain : (high :: rest).IsChain Descends) {y : ℕ}
    (hhigh : y ≤ high.y)
    (hlow : ((high :: rest).getLast (List.cons_ne_nil _ _)).y < y) (x : ℕ) :
    y ≤ value high rest x ↔ reach high rest y ≤ x := by
  induction rest generalizing high x with
  | nil => exact absurd hhigh (not_le.mpr hlow)
  | cons low rest ih =>
      obtain ⟨hdescends, hrest⟩ := List.isChain_cons_cons.mp hchain
      rw [List.getLast_cons (List.cons_ne_nil _ _)] at hlow
      have hx := hdescends.x
      unfold reach
      split
      next hsegment =>
        have hiff := fun x => @le_between_iff high low hdescends x y
        unfold value
        split_ifs with htop hwithin
        · have htopmost : between high low high.x = high.y := by
            have hrange : 0 < high.x - low.x := Nat.sub_pos_of_lt hx
            rw [between, Nat.mul_div_cancel _ hrange]
            exact Nat.add_sub_of_le hdescends.y
          have hreached := (hiff high.x hx.le hsegment hhigh).mp
            (htopmost ▸ hhigh)
          exact iff_of_true hhigh (hreached.trans htop)
        · exact hiff x hwithin.le hsegment hhigh
        · have hbelow : value low rest x ≤ low.y := value_le hrest x
          have hbottom : between high low low.x = low.y := by
            rw [between, Nat.sub_self, Nat.mul_zero, Nat.zero_div,
              Nat.add_zero]
          have hnot := (hiff low.x le_rfl hsegment hhigh).not.mp
            (by omega)
          exact iff_of_false (by omega) (by omega)
      next hsegment =>
        have hiff := fun x => ih hrest (not_lt.mp hsegment) hlow x
        have hreached : reach low rest y ≤ low.x := by
          rw [← hiff, value_knot hrest low (.head rest)]
          exact not_lt.mp hsegment
        unfold value
        split_ifs with htop hwithin
        · exact iff_of_true hhigh (by omega)
        · exact iff_of_true
            ((not_lt.mp hsegment).trans (le_between high low x)) (by omega)
        · exact hiff x

end Knots

end KnotInterpolation
