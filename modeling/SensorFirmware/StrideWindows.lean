import Mathlib.Tactic

/-!
# Windows with a stride

A segmenter keeps the end of a stream.  Each time it holds the elements of a
whole window it gives the window away, and drops those before the next window,
which starts one stride later.
-/

namespace StrideWindows

variable {α : Type*} {size stride : ℕ}

/-- The window that starts `k` strides into the stream. -/
def windowAt (size stride : ℕ) (stream : List α) (k : ℕ) : List α :=
  (stream.drop (k * stride)).take size

/-- How many whole windows a stream of the length has. -/
def count (size stride length : ℕ) : ℕ :=
  if length < size then 0 else (length - size) / stride + 1

structure Segmenter (α : Type*) where
  kept : List α
  windows : List (List α)

def Segmenter.push (size stride : ℕ) (s : Segmenter α) (a : α) :
    Segmenter α :=
  if size ≤ s.kept.length + 1 then
    ⟨(s.kept ++ [a]).drop stride, s.windows ++ [s.kept ++ [a]]⟩
  else ⟨s.kept ++ [a], s.windows⟩

theorem windowAt_append {stream : List α} {k : ℕ}
    (hwithin : k * stride + size ≤ stream.length) (rest : List α) :
    windowAt size stride (stream ++ rest) k =
      windowAt size stride stream k := by
  have hdrop : k * stride ≤ stream.length := by omega
  have hlength : size ≤ (stream.drop (k * stride)).length := by
    rw [List.length_drop]
    omega
  unfold windowAt
  rw [List.drop_append_of_le_length hdrop, List.take_append_of_le_length hlength]

theorem getElem?_windowAt {i : ℕ} (hi : i < size) (stream : List α) (k : ℕ) :
    (windowAt size stride stream k)[i]? = stream[k * stride + i]? := by
  rw [windowAt, List.getElem?_take_of_lt hi, List.getElem?_drop]

/-- The segmenter has given away all whole windows of the stream, and keeps what
the next one starts with. -/
structure Segmented (size stride : ℕ) (stream : List α) (s : Segmenter α) :
    Prop where
  windows : s.windows =
    (List.range s.windows.length).map (windowAt size stride stream)
  kept : s.kept = stream.drop (s.windows.length * stride)
  within : s.windows.length * stride ≤ stream.length
  short : s.kept.length < size
  overlap : s.windows = [] ∨ size ≤ s.kept.length + stride

namespace Segmented

variable {stream : List α} {s : Segmenter α}

theorem nil (hsize : 0 < size) :
    Segmented size stride ([] : List α) ⟨[], []⟩ where
  windows := rfl
  kept := List.drop_nil.symm
  within := (Nat.zero_mul stride).le
  short := hsize
  overlap := Or.inl rfl

theorem length_kept (hs : Segmented size stride stream s) :
    s.kept.length = stream.length - s.windows.length * stride := by
  rw [hs.kept, List.length_drop]

/-- A window that was given away ends in the stream. -/
theorem end_le (hs : Segmented size stride stream s) {k : ℕ}
    (hk : k < s.windows.length) : k * stride + size ≤ stream.length := by
  have hkept := hs.length_kept
  have hwithin := hs.within
  have hoverlap : size ≤ s.kept.length + stride :=
    hs.overlap.resolve_left (List.ne_nil_of_length_pos (by omega))
  have hnext : (k + 1) * stride ≤ s.windows.length * stride :=
    Nat.mul_le_mul_right stride hk
  rw [Nat.succ_mul] at hnext
  omega

theorem push (hs : Segmented size stride stream s) (hpos : 0 < stride)
    (hstride : stride ≤ size) (a : α) :
    Segmented size stride (stream ++ [a]) (s.push size stride a) := by
  have hdrop : (stream ++ [a]).drop (s.windows.length * stride) =
      s.kept ++ [a] := by
    rw [List.drop_append_of_le_length hs.within, hs.kept]
  have hold : (List.range s.windows.length).map
      (windowAt size stride (stream ++ [a])) = s.windows := by
    conv_rhs => rw [hs.windows]
    apply List.map_congr_left
    intro k hk
    exact windowAt_append (hs.end_le (List.mem_range.mp hk)) [a]
  have hkept := hs.length_kept
  have hwithin := hs.within
  have hshort := hs.short
  unfold Segmenter.push
  split
  next hfull =>
    constructor
    · rw [List.length_append, List.length_singleton, List.range_succ,
        List.map_append, hold, List.map_singleton, windowAt, hdrop,
        List.take_of_length_le (by simpa using hs.short)]
    · rw [List.length_append, List.length_singleton, Nat.succ_mul,
        ← List.drop_drop, hdrop]
    · rw [List.length_append, List.length_append, List.length_singleton,
        List.length_singleton, Nat.succ_mul]
      omega
    · rw [List.length_drop, List.length_append, List.length_singleton]
      omega
    · right
      rw [List.length_drop, List.length_append, List.length_singleton]
      omega
  next hroom =>
    constructor
    · exact hold.symm
    · exact hdrop.symm
    · exact hs.within.trans (by simp)
    · rw [List.length_append, List.length_singleton]
      omega
    · rw [List.length_append]
      exact hs.overlap.imp_right fun h => h.trans (by omega)

theorem length_windows (hs : Segmented size stride stream s) :
    s.windows.length = count size stride stream.length := by
  have hkept := hs.length_kept
  have hwithin := hs.within
  have hshort := hs.short
  unfold count
  cases hn : s.windows.length with
  | zero =>
      rw [hn, Nat.zero_mul] at hkept
      rw [if_pos (by omega)]
  | succ n =>
      have hend := hs.end_le (k := n) (by omega)
      rw [hn, Nat.succ_mul] at hkept hwithin
      have hlast : (stream.length - size) / stride = n := by
        apply Nat.div_eq_of_lt_le
        · omega
        · rw [Nat.succ_mul]
          omega
      rw [if_neg (by omega), hlast]

theorem getElem?_windows (hs : Segmented size stride stream s) {k : ℕ}
    {window : List α} (hwindow : s.windows[k]? = some window) :
    window = windowAt size stride stream k := by
  have hk : k < s.windows.length := (List.getElem?_eq_some_iff.mp hwindow).1
  rw [hs.windows, List.getElem?_map, List.getElem?_range hk] at hwindow
  exact (Option.some.inj hwindow).symm

end Segmented

end StrideWindows
