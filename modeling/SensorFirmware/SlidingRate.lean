import SensorFirmware.FixedWindow
import SensorFirmware.GuardedRun

/-!
# Fixed windows and sliding windows

A limiter of calls in fixed windows bounds the calls in every interval of the
same width only for some sequences of calls: the end of one window and the
beginning of the next may lie close together.  Which sequences those are can be
said window by window, from the times of the calls alone.
-/

namespace FixedWindow

open GuardedRun

/-- The calls of the window in progress, and those of the one before, oldest
first. -/
structure Grouping where
  start : ℕ
  current : List ℕ
  before : List ℕ
  deriving DecidableEq, Repr

/-- A limiter with the times of the calls that it admitted, oldest first. -/
structure Limiter where
  window : Window
  admitted : List ℕ
  deriving DecidableEq, Repr

namespace Limit

variable (limit : Limit)

instance (window : Window) (now : ℕ) : Decidable (limit.Admits window now) :=
  inferInstanceAs (Decidable (_ < _))

def call (limiter : Limiter) (now : ℕ) : Limiter :=
  if limit.Admits limiter.window now then
    ⟨limit.count limiter.window now, limiter.admitted ++ [now]⟩
  else ⟨limit.renew limiter.window now, limiter.admitted⟩

/-- The window that a call made now belongs to, without the call. -/
def turn (group : Grouping) (now : ℕ) : Grouping :=
  if limit.width < limit.elapsed now group.start then
    ⟨now, [], group.current⟩
  else group

def place (group : Grouping) (now : ℕ) : Grouping :=
  { limit.turn group now with
    current := (limit.turn group now).current ++ [now] }

/-- For a call within the budget of its window, the call of the window before
that has the budget less one between them, among the calls within the
budget. -/
def rival (group : Grouping) : Option ℕ :=
  let count :=
    group.current.length + min limit.budget group.before.length
  if group.current.length ≤ limit.budget ∧ limit.budget < count then
    group.before[count - (limit.budget + 1)]?
  else none

/-- The call comes late enough after its counterpart in the window before. -/
def Spread (group : Grouping) (now : ℕ) : Prop :=
  ∀ old ∈ limit.rival (limit.place group now), old + limit.width < now

instance (group : Grouping) (now : ℕ) : Decidable (limit.Spread group now) :=
  inferInstanceAs (Decidable (∀ old ∈ limit.rival _, _))

/-- No interval of the width has more calls than the budget. -/
def RateBounded (times : List ℕ) : Prop :=
  ∀ first, (times.filter fun time =>
    first ≤ time ∧ time ≤ first + limit.width).length ≤ limit.budget

/-! ## Sorted times -/

/-- Where the first elements satisfy a property and the others do not, counting
them is looking at one of them. -/
theorem length_filter_lt_iff {p : ℕ → Bool} {times : List ℕ}
    (hfirst : times.Pairwise fun early late => p late = true → p early = true)
    (k : ℕ) :
    (times.filter p).length < k + 1 ↔ ∀ old ∈ times[k]?, p old = false := by
  induction times generalizing k with
  | nil => simp
  | cons time times ih =>
      obtain ⟨hhere, hrest⟩ := List.pairwise_cons.mp hfirst
      cases htime : p time with
      | true =>
          rw [List.filter_cons_of_pos htime, List.length_cons]
          cases k with
          | zero => simp [htime]
          | succ k =>
              rw [Nat.succ_lt_succ_iff, ih hrest, List.getElem?_cons_succ]
      | false =>
          have hnone : ∀ old ∈ time :: times, p old = false := by
            intro old hold
            rw [← Bool.not_eq_true]
            intro hp
            rcases List.mem_cons.mp hold with rfl | hlater
            · rw [htime] at hp
              cases hp
            · rw [hhere old hlater hp] at htime
              cases htime
          have hempty : (time :: times).filter p = [] :=
            List.filter_eq_nil_iff.mpr fun old hold => by simp [hnone old hold]
          rw [hempty]
          refine iff_of_true (Nat.succ_pos k) ?_
          exact fun old hold => hnone old (List.mem_of_getElem? hold)

/-- The interval that ends with the last call has the most calls. -/
theorem rateBounded_append {times : List ℕ} {now : ℕ}
    (hbefore : ∀ time ∈ times, time ≤ now) :
    limit.RateBounded (times ++ [now]) ↔
      limit.RateBounded times ∧
        (times.filter fun time => now ≤ time + limit.width).length <
          limit.budget := by
  have hsplit (first : ℕ) :
      ((times ++ [now]).filter fun time =>
        first ≤ time ∧ time ≤ first + limit.width).length =
        (times.filter fun time =>
          first ≤ time ∧ time ≤ first + limit.width).length +
          if first ≤ now ∧ now ≤ first + limit.width then 1 else 0 := by
    rw [List.filter_append, List.length_append]
    congr 1
    by_cases hnow : first ≤ now ∧ now ≤ first + limit.width <;> simp [hnow]
  constructor
  · intro hall
    constructor
    · intro first
      have hmore := hall first
      rw [hsplit] at hmore
      exact (Nat.le_add_right _ _).trans hmore
    · have hlast := hall (now - limit.width)
      have hsame : (times.filter fun time => now - limit.width ≤ time ∧
          time ≤ now - limit.width + limit.width) =
            times.filter fun time => now ≤ time + limit.width := by
        apply List.filter_congr
        intro time htime
        have hle := hbefore time htime
        rw [decide_eq_decide]
        omega
      rw [hsplit, hsame, if_pos (by omega)] at hlast
      omega
  · rintro ⟨hall, hroom⟩ first
    rw [hsplit]
    by_cases hnow : first ≤ now ∧ now ≤ first + limit.width
    · have hfewer : (times.filter fun time =>
          first ≤ time ∧ time ≤ first + limit.width).length ≤
            (times.filter fun time => now ≤ time + limit.width).length := by
        rw [← List.countP_eq_length_filter, ← List.countP_eq_length_filter]
        apply List.countP_mono_left
        intro time _ htime
        have hinside := of_decide_eq_true htime
        apply decide_eq_true
        omega
      rw [if_pos hnow]
      omega
    · rw [if_neg hnow]
      exact hall first

/-! ## The limiter and the windows of all calls -/

/-- The limiter counts the calls that it admits, which are the first ones of each
window. -/
structure Tracks (limiter : Limiter) (group : Grouping) (clock : ℕ) : Prop where
  window : limiter.window =
    ⟨group.start, min limit.budget group.current.length⟩
  admitted : ∃ older, limiter.admitted =
      older ++ group.before.take limit.budget ++
        group.current.take limit.budget ∧
    ∀ time ∈ older, time + limit.width < group.start
  sorted : limiter.admitted.Pairwise (· ≤ ·)
  admitted_le : ∀ time ∈ limiter.admitted, time ≤ clock
  current_le : ∀ time ∈ group.current, time ≤ clock
  before_le : ∀ time ∈ group.before, time ≤ group.start
  start_le : group.start ≤ clock

theorem tracks_start {start clock : ℕ} (hstart : start ≤ clock) :
    limit.Tracks ⟨⟨start, 0⟩, []⟩ ⟨start, [], []⟩ clock where
  window := by rw [List.length_nil, Nat.min_zero]
  admitted := ⟨[], by simp, nofun⟩
  sorted := .nil
  admitted_le := nofun
  current_le := nofun
  before_le := nofun
  start_le := hstart

variable {limit} {limiter : Limiter} {group : Grouping} {clock now : ℕ}

theorem Tracks.turn (htracks : limit.Tracks limiter group clock)
    (helapsed : limit.elapsed now group.start ≤ now - group.start)
    (hnow : clock ≤ now) :
    limit.Tracks ⟨limit.renew limiter.window now, limiter.admitted⟩
      (limit.turn group now) now := by
  obtain ⟨older, hadmitted, holder⟩ := htracks.admitted
  have hle := fun time htime => (htracks.admitted_le time htime).trans hnow
  have hstart := htracks.start_le
  unfold Limit.renew Limit.turn
  rw [htracks.window]
  by_cases hlate : limit.width < limit.elapsed now group.start
  · rw [if_pos hlate, if_pos hlate]
    constructor
    · rw [List.length_nil, Nat.min_zero]
    · refine ⟨older ++ group.before.take limit.budget, ?_, ?_⟩
      · rw [hadmitted, List.take_nil, List.append_nil]
      · intro time htime
        rcases List.mem_append.mp htime with hold | hbefore
        · have htime := holder time hold
          dsimp only
          omega
        · have htime := htracks.before_le time (List.mem_of_mem_take hbefore)
          dsimp only
          omega
    · exact htracks.sorted
    · exact hle
    · nofun
    · exact fun time htime => (htracks.current_le time htime).trans hnow
    · exact le_rfl
  · rw [if_neg hlate, if_neg hlate]
    exact
      { window := rfl
        admitted := ⟨older, hadmitted, holder⟩
        sorted := htracks.sorted
        admitted_le := hle
        current_le := fun time htime =>
          (htracks.current_le time htime).trans hnow
        before_le := htracks.before_le
        start_le := hstart.trans hnow }

theorem forall_le_concat {times : List ℕ} (hle : ∀ time ∈ times, time ≤ now) :
    ∀ time ∈ times ++ [now], time ≤ now := by
  intro time htime
  rcases List.mem_append.mp htime with hold | hnew
  · exact hle time hold
  · exact (List.mem_singleton.mp hnew).le

theorem Tracks.admit (htracks : limit.Tracks limiter group now)
    (hroom : group.current.length < limit.budget) :
    limit.Tracks
      ⟨⟨limiter.window.start, limiter.window.calls + 1⟩,
        limiter.admitted ++ [now]⟩
      { group with current := group.current ++ [now] } now := by
  obtain ⟨older, hadmitted, holder⟩ := htracks.admitted
  have hall : group.current.take limit.budget = group.current :=
    List.take_of_length_le hroom.le
  have hlonger : (group.current ++ [now]).take limit.budget =
      group.current ++ [now] := by
    apply List.take_of_length_le
    rw [List.length_append]
    exact hroom
  constructor
  · have hfew : min limit.budget group.current.length =
        group.current.length := min_eq_right hroom.le
    have hmore : min limit.budget (group.current.length + 1) =
        group.current.length + 1 := min_eq_right hroom
    rw [htracks.window, hfew, List.length_append, List.length_singleton, hmore]
  · refine ⟨older, ?_, holder⟩
    rw [hadmitted, hall, hlonger, List.append_assoc _ group.current]
  · rw [List.pairwise_append]
    refine ⟨htracks.sorted, List.pairwise_singleton _ _, ?_⟩
    intro time htime last hlast
    rw [List.mem_singleton.mp hlast]
    exact htracks.admitted_le time htime
  · exact forall_le_concat htracks.admitted_le
  · exact forall_le_concat htracks.current_le
  · exact htracks.before_le
  · exact htracks.start_le

theorem Tracks.reject (htracks : limit.Tracks limiter group now)
    (hfull : limit.budget ≤ group.current.length) :
    limit.Tracks limiter
      { group with current := group.current ++ [now] } now := by
  obtain ⟨older, hadmitted, holder⟩ := htracks.admitted
  constructor
  · have hmany : min limit.budget group.current.length = limit.budget :=
      min_eq_left hfull
    have hmore : min limit.budget (group.current.length + 1) = limit.budget :=
      min_eq_left (hfull.trans (Nat.le_succ _))
    rw [htracks.window, hmany, List.length_append, List.length_singleton, hmore]
  · refine ⟨older, ?_, holder⟩
    rw [hadmitted, List.take_append_of_le_length hfull]
  · exact htracks.sorted
  · exact htracks.admitted_le
  · exact forall_le_concat htracks.current_le
  · exact htracks.before_le
  · exact htracks.start_le

/-- Among the admitted calls the counterpart is the one with the budget less one
after it. -/
theorem Tracks.room_iff (htracks : limit.Tracks limiter group now)
    (hroom : group.current.length < limit.budget) :
    (limiter.admitted.filter fun time => now ≤ time + limit.width).length <
        limit.budget ↔
      ∀ old ∈ limit.rival { group with current := group.current ++ [now] },
        old + limit.width < now := by
  obtain ⟨older, hadmitted, holder⟩ := htracks.admitted
  have hall : group.current.take limit.budget = group.current :=
    List.take_of_length_le hroom.le
  have hreverse : limiter.admitted.reverse = group.current.reverse ++
      ((group.before.take limit.budget).reverse ++ older.reverse) := by
    rw [hadmitted, hall, List.reverse_append, List.reverse_append]
  have hfirst : limiter.admitted.reverse.Pairwise fun early late =>
      decide (now ≤ late + limit.width) = true →
        decide (now ≤ early + limit.width) = true := by
    rw [List.pairwise_reverse]
    apply htracks.sorted.imp
    intro early late hle
    rw [decide_eq_true_eq, decide_eq_true_eq]
    omega
  obtain ⟨k, hk⟩ : ∃ k, limit.budget = k + 1 :=
    Nat.exists_eq_succ_of_ne_zero (by omega)
  have hcount := length_filter_lt_iff hfirst k
  rw [List.filter_reverse, List.length_reverse, ← hk] at hcount
  have hcurrent : group.current.reverse.length ≤ k := by
    rw [List.length_reverse]
    omega
  have htaken : (group.before.take limit.budget).reverse.length =
      min limit.budget group.before.length := by
    rw [List.length_reverse, List.length_take]
  rw [hcount, hreverse, List.getElem?_append_right hcurrent,
    List.length_reverse]
  simp only [decide_eq_false_iff_not, not_le]
  unfold Limit.rival
  dsimp only
  rw [List.length_append, List.length_singleton]
  by_cases hinside : k - group.current.length <
      min limit.budget group.before.length
  · have hindex : min limit.budget group.before.length - 1 -
        (k - group.current.length) =
          group.current.length + 1 + min limit.budget group.before.length -
            (limit.budget + 1) := by
      omega
    have hlow : group.current.length + 1 +
        min limit.budget group.before.length - (limit.budget + 1) <
          limit.budget := by
      have hmin := min_le_left limit.budget group.before.length
      omega
    rw [List.getElem?_append_left (htaken ▸ hinside), List.getElem?_reverse
        (by rw [List.length_take]; exact hinside), List.length_take, hindex,
      List.getElem?_take_of_lt hlow, if_pos ⟨hroom, by omega⟩]
  · rw [List.getElem?_append_right (htaken ▸ not_lt.mp hinside),
      if_neg fun hboth => hinside (by omega)]
    refine iff_of_true ?_ nofun
    intro old hold
    have hmem := List.mem_reverse.mp (List.mem_of_getElem? hold)
    exact (holder old hmem).trans_le htracks.start_le

/-! ## Runs -/

theorem Tracks.call (htracks : limit.Tracks limiter group clock)
    (helapsed : limit.elapsed now group.start ≤ now - group.start)
    (hnow : clock ≤ now) :
    limit.Tracks (limit.call limiter now) (limit.place group now) now ∧
      (limit.RateBounded (limit.call limiter now).admitted ↔
        limit.RateBounded limiter.admitted ∧ limit.Spread group now) := by
  have hturned := htracks.turn helapsed hnow
  have hcalls : (limit.renew limiter.window now).calls =
      min limit.budget (limit.turn group now).current.length :=
    congrArg Window.calls hturned.window
  unfold Limit.call
  by_cases hroom : (limit.turn group now).current.length < limit.budget
  · have hadmits : limit.Admits limiter.window now := by
      unfold Limit.Admits
      omega
    have hnext := hturned.admit hroom
    rw [if_pos hadmits]
    refine ⟨hnext, ?_⟩
    rw [limit.rateBounded_append hturned.admitted_le]
    exact and_congr_right' (hturned.room_iff hroom)
  · have hfull : ¬limit.Admits limiter.window now := by
      unfold Limit.Admits
      omega
    rw [if_neg hfull]
    refine ⟨hturned.reject (not_lt.mp hroom), ?_⟩
    have hnone : limit.rival (limit.place group now) = none := by
      unfold Limit.rival Limit.place
      dsimp only
      rw [List.length_append]
      exact if_neg fun hboth => hroom hboth.1
    refine (and_iff_left ?_).symm
    intro old hold
    rw [hnone] at hold
    cases hold

/-- The limiter bounds the rate in every interval exactly if no call within the
budget of its window comes too soon after its counterpart. -/
theorem Tracks.rateBounded_iff
    (helapsed : ∀ now start, start ≤ now →
      limit.elapsed now start ≤ now - start)
    (htracks : limit.Tracks limiter group clock)
    {times : List ℕ} (hsorted : (clock :: times).Pairwise (· ≤ ·)) :
    limit.RateBounded (run limit.call limiter times).admitted ↔
      limit.RateBounded limiter.admitted ∧
        Guarded limit.place limit.Spread group times := by
  induction times generalizing limiter group clock with
  | nil => exact (and_iff_left trivial).symm
  | cons now times ih =>
      obtain ⟨hbefore, hrest⟩ := List.pairwise_cons.mp hsorted
      have hnow : clock ≤ now := hbefore now (.head times)
      have hstart : group.start ≤ now := htracks.start_le.trans hnow
      obtain ⟨hnext, hhere⟩ := htracks.call (helapsed now _ hstart) hnow
      rw [run_cons, ih hnext hrest, hhere]
      exact and_assoc

end Limit

end FixedWindow
