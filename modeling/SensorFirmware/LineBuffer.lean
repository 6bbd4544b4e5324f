import Mathlib.Tactic

/-!
# A bounded line buffer

A reader takes a stream symbol by symbol and hands out a line at each end mark,
dropping empty lines and what does not fit into its buffer.  However the stream
is cut into chunks, the lines are the nonempty pieces between the end marks, cut
to the size of the buffer.
-/

namespace LineBuffer

variable {α : Type*} (isEnd : α → Bool) (capacity : ℕ)

/-- The buffer after one symbol, and the line that it completes. -/
def push (buffer : List α) (symbol : α) : List α × List (List α) :=
  if isEnd symbol then
    if 0 < buffer.length then ([], [buffer]) else (buffer, [])
  else if buffer.length < capacity then (buffer ++ [symbol], [])
  else (buffer, [])

/-- The buffer after a chunk, and the lines completed in it. -/
def feed (buffer : List α) : List α → List α × List (List α)
  | [] => (buffer, [])
  | symbol :: symbols =>
      let pushed := push isEnd capacity buffer symbol
      let rest := feed pushed.1 symbols
      (rest.1, pushed.2 ++ rest.2)

def feedAll (buffer : List α) : List (List α) → List α × List (List α)
  | [] => (buffer, [])
  | chunk :: chunks =>
      let fed := feed isEnd capacity buffer chunk
      let rest := feedAll fed.1 chunks
      (rest.1, fed.2 ++ rest.2)

variable {isEnd capacity}

theorem feed_append (buffer first second : List α) :
    feed isEnd capacity buffer (first ++ second) =
      ((feed isEnd capacity (feed isEnd capacity buffer first).1 second).1,
        (feed isEnd capacity buffer first).2 ++
          (feed isEnd capacity (feed isEnd capacity buffer first).1
            second).2) := by
  induction first generalizing buffer with
  | nil => rfl
  | cons symbol first ih =>
      have hrest := ih (push isEnd capacity buffer symbol).1
      simp only [List.cons_append, feed, hrest, List.append_assoc]

/-- How the stream is cut into chunks does not matter. -/
theorem feedAll_eq_feed (buffer : List α) (chunks : List (List α)) :
    feedAll isEnd capacity buffer chunks =
      feed isEnd capacity buffer chunks.flatten := by
  induction chunks generalizing buffer with
  | nil => rfl
  | cons chunk chunks ih =>
      rw [List.flatten_cons, feed_append, feedAll, ih]

/-- The pieces between the end marks that are handed out as lines. -/
def lines (isEnd : α → Bool) (capacity : ℕ) (stream : List α) :
    List (List α) :=
  ((stream.splitOnP isEnd).dropLast.filter (0 < ·.length)).map
    (·.take capacity)

/-- What the buffer holds stands for the whole piece that is being read. -/
theorem feed_take (hcapacity : 0 < capacity) (piece : List α)
    (stream : List α) :
    (feed isEnd capacity (piece.reverse.take capacity) stream).2 =
      ((List.splitOnPPrepend isEnd stream piece).dropLast.filter
        (0 < ·.length)).map (·.take capacity) ∧
    (feed isEnd capacity (piece.reverse.take capacity) stream).1 =
      ((List.splitOnPPrepend isEnd stream piece).getLast
        (List.splitOnPPrepend_ne_nil isEnd stream piece)).take capacity := by
  induction stream generalizing piece with
  | nil => simp [feed]
  | cons symbol stream ih =>
      cases hend : isEnd symbol with
      | true =>
          have hrest := ih []
          have hsplit : List.splitOnPPrepend isEnd (symbol :: stream) piece =
              piece.reverse :: List.splitOnPPrepend isEnd stream [] :=
            List.splitOnPPrepend_cons_pos hend
          have hpos : 0 < (piece.reverse.take capacity).length ↔
              0 < piece.reverse.length := by
            rw [List.length_take]
            omega
          have hne := List.splitOnPPrepend_ne_nil isEnd stream []
          simp only [hsplit, List.dropLast_cons_of_ne_nil hne,
            List.getLast_cons hne, List.filter_cons, feed, push, hend,
            if_true, hpos]
          simp only [List.reverse_nil, List.take_nil] at hrest
          by_cases hsome : 0 < piece.reverse.length
          · simp only [hsome, if_true, decide_true, List.map_cons, hrest]
            exact ⟨rfl, trivial⟩
          · have hnil : piece.reverse = [] :=
              List.eq_nil_of_length_eq_zero (by omega)
            simp only [hnil, List.length_nil, lt_irrefl, if_false,
              decide_false, Bool.false_eq_true, List.take_nil, hrest]
            exact ⟨rfl, trivial⟩
      | false =>
          have hrest := ih (symbol :: piece)
          have hsplit : List.splitOnPPrepend isEnd (symbol :: stream) piece =
              List.splitOnPPrepend isEnd stream (symbol :: piece) :=
            List.splitOnPPrepend_cons_neg hend
          have hpush : push isEnd capacity (piece.reverse.take capacity)
              symbol = ((symbol :: piece).reverse.take capacity, []) := by
            rw [List.reverse_cons]
            unfold push
            rw [hend]
            by_cases hroom : piece.reverse.length < capacity
            · have hwhole : piece.reverse.take capacity = piece.reverse :=
                List.take_of_length_le hroom.le
              have hmore : (piece.reverse ++ [symbol]).take capacity =
                  piece.reverse ++ [symbol] := by
                apply List.take_of_length_le
                rw [List.length_append, List.length_singleton]
                omega
              simp only [hwhole, hroom, hmore, Bool.false_eq_true, if_false,
                if_true]
            · have hfull : (piece.reverse.take capacity).length = capacity :=
                List.length_take_of_le (not_lt.mp hroom)
              have hsame : (piece.reverse ++ [symbol]).take capacity =
                  piece.reverse.take capacity :=
                List.take_append_of_le_length (not_lt.mp hroom)
              simp only [hfull, hsame, lt_irrefl, Bool.false_eq_true,
                if_false]
          simp only [hsplit, feed, hpush, List.nil_append]
          exact hrest

/-- From an empty buffer. -/
theorem feedAll_lines (hcapacity : 0 < capacity) (chunks : List (List α)) :
    (feedAll isEnd capacity [] chunks).2 =
      lines isEnd capacity chunks.flatten := by
  have hfed : (feed isEnd capacity ([].reverse.take capacity)
      chunks.flatten).2 = _ := (feed_take hcapacity [] chunks.flatten).1
  rw [feedAll_eq_feed]
  simpa [lines] using hfed

/-- Pieces without an end mark, each followed by one. -/
theorem splitOnP_flatMap {mark : α} (hmark : isEnd mark = true)
    {pieces : List (List α)}
    (hpieces : ∀ piece ∈ pieces, ∀ symbol ∈ piece, isEnd symbol = false) :
    (pieces.flatMap (· ++ [mark])).splitOnP isEnd = pieces ++ [[]] := by
  induction pieces with
  | nil => exact List.splitOnP_nil
  | cons piece pieces ih =>
      have hpiece : piece.splitOnP isEnd = [piece] :=
        List.splitOnP_eq_singleton (hpieces piece List.mem_cons_self)
      have hrest := ih fun other hother =>
        hpieces other (List.mem_cons_of_mem piece hother)
      rw [List.flatMap_cons, List.append_assoc, List.singleton_append,
        List.splitOnP_append_cons _ _ hmark, hpiece, hrest,
        List.singleton_append, List.cons_append]

theorem lines_flatMap {mark : α} (hmark : isEnd mark = true)
    {pieces : List (List α)}
    (hpieces : ∀ piece ∈ pieces, ∀ symbol ∈ piece, isEnd symbol = false)
    (hfit : ∀ piece ∈ pieces, 0 < piece.length ∧ piece.length ≤ capacity) :
    lines isEnd capacity (pieces.flatMap (· ++ [mark])) = pieces := by
  have hkept : pieces.filter (0 < ·.length) = pieces :=
    List.filter_eq_self.mpr fun piece hpiece =>
      decide_eq_true (hfit piece hpiece).1
  have hwhole : pieces.map (·.take capacity) = pieces :=
    (List.map_congr_left fun piece hpiece => List.take_of_length_le
      (hfit piece hpiece).2).trans (List.map_id' pieces)
  rw [lines, splitOnP_flatMap hmark hpieces, List.dropLast_concat, hkept,
    hwhole]

/-- After the last end mark the buffer is empty again. -/
theorem feedAll_flatMap (hcapacity : 0 < capacity) {mark : α}
    (hmark : isEnd mark = true) {pieces : List (List α)}
    (hpieces : ∀ piece ∈ pieces, ∀ symbol ∈ piece, isEnd symbol = false)
    {chunks : List (List α)}
    (hchunks : chunks.flatten = pieces.flatMap (· ++ [mark])) :
    (feedAll isEnd capacity [] chunks).1 = [] := by
  have hfed : (feed isEnd capacity ([].reverse.take capacity)
      chunks.flatten).1 = _ := (feed_take hcapacity [] chunks.flatten).2
  have hlast : (List.splitOnPPrepend isEnd chunks.flatten []).getLast
      (List.splitOnPPrepend_ne_nil isEnd chunks.flatten []) = [] := by
    have hsplit := splitOnP_flatMap hmark hpieces
    rw [← hchunks] at hsplit
    have hsome : (List.splitOnPPrepend isEnd chunks.flatten []).getLast? =
        some [] := by
      rw [List.splitOnPPrepend_nil_right, hsplit, List.getLast?_concat]
    exact Option.some.inj ((List.getLast?_eq_some_getLast _).symm.trans hsome)
  rw [List.reverse_nil, List.take_nil, hlast, List.take_nil] at hfed
  rw [feedAll_eq_feed, hfed]

end LineBuffer
