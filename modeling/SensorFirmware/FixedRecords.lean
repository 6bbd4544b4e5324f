import SensorFirmware.GuardedRun

/-!
# Records of one size in an append-only file

A writer appends pieces, each a whole record or the front of one.  A reader cuts
the file into blocks of the record size.  Every whole record is one of the
blocks if it starts at a multiple of the size.  The converse holds for records
that no shifted piece agrees with: a block of that kind is a piece.
-/

namespace FixedRecords

open GuardedRun

variable {α : Type*} (size : ℕ)

/-- The data cut at the multiples of the record size, without the remainder. -/
def blocks (data : List α) : List (List α) :=
  (List.range (data.length / size)).map fun i =>
    (data.drop (i * size)).take size

/-- Each whole record is appended at a multiple of the record size. -/
def Aligned (pieces : List (List α)) : Prop :=
  Guarded (fun start piece => start + piece.length)
    (fun start piece => piece.length = size → size ∣ start) 0 pieces

theorem run_length (start : ℕ) (pieces : List (List α)) :
    run (fun start piece => start + piece.length) start pieces =
      start + pieces.flatten.length := by
  induction pieces generalizing start with
  | nil => rfl
  | cons piece pieces ih =>
      rw [run_cons, ih, List.flatten_cons, List.length_append, Nat.add_assoc]

theorem aligned_concat (pieces : List (List α)) (piece : List α) :
    Aligned size (pieces ++ [piece]) ↔
      Aligned size pieces ∧
        (piece.length = size → size ∣ pieces.flatten.length) := by
  unfold Aligned
  rw [guarded_append, run_length, Nat.zero_add]
  simp [Guarded]

variable {size}

theorem block_append {data : List α} (more : List α) {i : ℕ}
    (hi : (i + 1) * size ≤ data.length) :
    ((data ++ more).drop (i * size)).take size =
      (data.drop (i * size)).take size := by
  rw [Nat.add_mul, Nat.one_mul] at hi
  have hstart : i * size ≤ data.length := by omega
  have hend : size ≤ (data.drop (i * size)).length := by
    rw [List.length_drop]
    omega
  rw [List.drop_append_of_le_length hstart,
    List.take_append_of_le_length hend]

theorem map_range_append (data more : List α) :
    (List.range (data.length / size)).map
        (fun i => ((data ++ more).drop (i * size)).take size) =
      blocks size data := by
  apply List.map_congr_left
  intro i hi
  have hend : (i + 1) * size ≤ data.length :=
    (Nat.mul_le_mul_right size (List.mem_range.mp hi)).trans
      (Nat.div_mul_le_self _ _)
  exact block_append more hend

/-- A piece adds at most one block, which ends in it. -/
theorem blocks_append (hsize : 0 < size) (data : List α) {piece : List α}
    (hpiece : piece.length ≤ size) :
    blocks size (data ++ piece) = blocks size data ∨
      ∃ before block after, data ++ piece = before ++ (block ++ after) ∧
        block.length = size ∧ size ∣ before.length ∧
        data.length < before.length + size ∧
        blocks size (data ++ piece) = blocks size data ++ [block] := by
  have hlow : data.length / size ≤ (data ++ piece).length / size :=
    Nat.div_le_div_right (by simp)
  have hhigh : (data ++ piece).length / size ≤ data.length / size + 1 := by
    rw [← Nat.add_div_right _ hsize, List.length_append]
    exact Nat.div_le_div_right (by omega)
  obtain hsame | hmore : (data ++ piece).length / size = data.length / size ∨
      (data ++ piece).length / size = data.length / size + 1 := by omega
  · left
    have hall := @map_range_append _ size data piece
    rwa [← hsame] at hall
  · right
    have hfits : data.length / size * size + size ≤ (data ++ piece).length := by
      have hmul := Nat.div_mul_le_self (data ++ piece).length size
      rwa [hmore, Nat.add_mul, Nat.one_mul] at hmul
    set start := data.length / size * size with hstart
    refine ⟨(data ++ piece).take start, ((data ++ piece).drop start).take size,
      ((data ++ piece).drop start).drop size, ?_, ?_, ?_, ?_, ?_⟩
    · rw [List.take_append_drop, List.take_append_drop]
    · rw [List.length_take, List.length_drop]
      omega
    · rw [List.length_take_of_le (by omega)]
      exact Nat.dvd_mul_left _ _
    · rw [List.length_take_of_le (by omega)]
      exact Nat.lt_div_mul_add hsize
    · rw [blocks, hmore, List.range_succ, List.map_append, map_range_append]
      rfl

/-- A whole record at a multiple of the size is the block that it adds. -/
theorem blocks_append_record (hsize : 0 < size) {data record : List α}
    (hstart : size ∣ data.length) (hrecord : record.length = size) :
    blocks size (data ++ record) = blocks size data ++ [record] := by
  have hcount : (data ++ record).length / size = data.length / size + 1 := by
    rw [List.length_append, hrecord, Nat.add_div_right _ hsize]
  have hdrop : (data ++ record).drop (data.length / size * size) = record := by
    rw [Nat.div_mul_cancel hstart, List.drop_left]
  rw [blocks, hcount, List.range_succ, List.map_append, map_range_append,
    List.map_singleton, hdrop, List.take_of_length_le hrecord.le]

/-- A file of whole records is cut into them. -/
theorem blocks_flatten (hsize : 0 < size) {records : List (List α)}
    (hrecords : ∀ record ∈ records, record.length = size) :
    blocks size records.flatten = records := by
  have hlength : ∀ records : List (List α),
      (∀ record ∈ records, record.length = size) →
        size ∣ records.flatten.length := by
    intro records hall
    induction records with
    | nil => exact dvd_zero size
    | cons record records ih =>
        have hrest := ih fun other hother => hall other (.tail record hother)
        rw [List.flatten_cons, List.length_append, hall record (.head records)]
        exact (dvd_refl size).add hrest
  induction records using List.reverseRecOn with
  | nil => simp [blocks]
  | append_singleton records record ih =>
      have hbefore : ∀ other ∈ records, other.length = size :=
        fun other hother => hrecords other (List.mem_append_left _ hother)
      have hrecord : record.length = size := hrecords record (by simp)
      rw [List.flatten_append, List.flatten_singleton,
        blocks_append_record hsize (hlength records hbefore) hrecord,
        ih hbefore]

/-! ## Whole records among the blocks -/

variable (size) in
/-- The pieces that are whole records. -/
def whole (pieces : List (List α)) : List (List α) :=
  pieces.filter fun piece => piece.length == size

theorem whole_concat (pieces : List (List α)) (piece : List α) :
    whole size (pieces ++ [piece]) =
      whole size pieces ++ if piece.length = size then [piece] else [] := by
  by_cases hfull : piece.length = size <;>
    simp [whole, List.filter_append, hfull]

theorem whole_sublist_blocks (hsize : 0 < size) {pieces : List (List α)}
    (hle : ∀ piece ∈ pieces, piece.length ≤ size)
    (haligned : Aligned size pieces) :
    (whole size pieces).Sublist (blocks size pieces.flatten) := by
  induction pieces using List.reverseRecOn with
  | nil => exact List.nil_sublist _
  | append_singleton pieces piece ih =>
      obtain ⟨haligned, hstart⟩ := (aligned_concat size pieces piece).mp haligned
      have hbefore := ih (fun p hp => hle p (List.mem_append_left _ hp)) haligned
      have hpiece : piece.length ≤ size := hle piece (by simp)
      have hflatten : (pieces ++ [piece]).flatten = pieces.flatten ++ piece := by
        simp
      rw [whole_concat, hflatten]
      by_cases hfull : piece.length = size
      · rw [if_pos hfull, blocks_append_record hsize (hstart hfull) hfull]
        exact hbefore.append (List.Sublist.refl _)
      · rw [if_neg hfull, List.append_nil]
        obtain hsame | ⟨_, block, _, -, -, -, -, hmore⟩ :=
          blocks_append hsize pieces.flatten hpiece
        · rwa [hsame]
        · rw [hmore]
          exact hbefore.trans (List.sublist_append_left _ _)

/-! ## Blocks that are records -/

section Distinctive

variable (size) in
/-- Every piece disagrees somewhere with the block, wherever in it the piece
starts after its beginning. -/
def Distinctive (IsPiece : List α → Prop) (block : List α) : Prop :=
  ∀ piece, IsPiece piece → ∀ shift, 0 < shift → shift < size →
    ∃ position, shift + position < size ∧
      ∀ a, piece[position]? = some a → block[shift + position]? ≠ some a

variable {IsPiece : List α → Prop} {block : List α}

theorem flatten_ne_shifted (hblock : block.length = size)
    (hdistinct : Distinctive size IsPiece block) {pieces : List (List α)}
    (hpieces : ∀ piece ∈ pieces, IsPiece piece) {shift : ℕ} (hpos : 0 < shift)
    (hshift : shift < size) (rest : List α) :
    pieces.flatten ≠ block.drop shift ++ rest := by
  induction pieces generalizing shift with
  | nil =>
      intro heq
      have hlength := congrArg List.length heq
      simp only [List.flatten_nil, List.length_nil, List.length_append,
        List.length_drop] at hlength
      omega
  | cons piece pieces ih =>
      intro heq
      rw [List.flatten_cons] at heq
      obtain ⟨position, hwithin, hdiffer⟩ :=
        hdistinct piece (hpieces piece (.head pieces)) shift hpos hshift
      by_cases hlong : position < piece.length
      · -- the byte in which the piece and the block differ
        have hleft : (piece ++ pieces.flatten)[position]? =
            some piece[position] := by
          rw [List.getElem?_append_left hlong, List.getElem?_eq_getElem hlong]
        have hright : (block.drop shift ++ rest)[position]? =
            block[shift + position]? := by
          rw [List.getElem?_append_left (by rw [List.length_drop]; omega),
            List.getElem?_drop]
        rw [heq, hright] at hleft
        exact hdiffer _ (List.getElem?_eq_getElem hlong) hleft
      · -- the piece ends before; the next one starts inside the block too
        have hdrop := congrArg (List.drop piece.length) heq
        have hend : piece.length ≤ (block.drop shift).length := by
          rw [List.length_drop]
          omega
        rw [List.drop_left, List.drop_append_of_le_length hend,
          List.drop_drop] at hdrop
        exact ih (fun p hp => hpieces p (.tail piece hp)) (by omega)
          (by omega) hdrop

/-- A distinctive block of the file is one of the pieces. -/
theorem piece_of_block (hsize : 0 < size) (hblock : block.length = size)
    (hdistinct : Distinctive size IsPiece block) {pieces : List (List α)}
    (hpieces : ∀ piece ∈ pieces, IsPiece piece ∧ piece.length ≤ size)
    {before after : List α}
    (heq : pieces.flatten = before ++ (block ++ after)) :
    ∃ earlier later, pieces = earlier ++ block :: later ∧
      earlier.flatten = before := by
  induction pieces generalizing before with
  | nil =>
      have hlength := congrArg List.length heq
      simp only [List.flatten_nil, List.length_nil, List.length_append]
        at hlength
      omega
  | cons piece pieces ih =>
      have hlater : ∀ p ∈ pieces, IsPiece p ∧ p.length ≤ size :=
        fun p hp => hpieces p (.tail piece hp)
      have hlong := (hpieces piece (.head pieces)).2
      rw [List.flatten_cons] at heq
      obtain ⟨rest, hbefore, hrest⟩ | ⟨rest, hpiece, hrest⟩ :=
        List.append_eq_append_iff.mp heq
      · obtain ⟨earlier, later, hsplit, hflatten⟩ := ih hlater hrest
        refine ⟨piece :: earlier, later, ?_, ?_⟩
        · rw [hsplit, List.cons_append]
        · rw [List.flatten_cons, hflatten, hbefore]
      · have hlength : piece.length = before.length + rest.length := by
          rw [hpiece, List.length_append]
        obtain hnone | hpart | hall : rest.length = 0 ∨
            (0 < rest.length ∧ rest.length < size) ∨ size ≤ rest.length := by
          omega
        · obtain rfl : rest = [] := List.eq_nil_of_length_eq_zero hnone
          have hnext : pieces.flatten = [] ++ (block ++ after) := hrest.symm
          obtain ⟨earlier, later, hsplit, hflatten⟩ := ih hlater hnext
          refine ⟨piece :: earlier, later, ?_, ?_⟩
          · rw [hsplit, List.cons_append]
          · rw [List.flatten_cons, hflatten, hpiece, List.append_nil,
              List.append_nil]
        · have hdrop := congrArg (List.drop rest.length) hrest
          rw [List.drop_left,
            List.drop_append_of_le_length (by omega)] at hdrop
          exact absurd hdrop.symm
            (flatten_ne_shifted hblock hdistinct
              (fun p hp => (hlater p hp).1) hpart.1 hpart.2 after)
        · obtain rfl : before = [] :=
            List.eq_nil_of_length_eq_zero (by omega)
          have hwhole : block.length = rest.length := by omega
          have hsame := List.append_inj_left hrest hwhole
          refine ⟨[], pieces, ?_, rfl⟩
          rw [List.nil_append, hsame, hpiece, List.nil_append]

variable {mark : List α → Bool}

/-- Among blocks that are distinctive when marked, a piece adds a marked one
only if it is a whole record at a multiple of the size. -/
theorem countP_blocks_append (hsize : 0 < size)
    (hmark : ∀ block, block.length = size → mark block = true →
      Distinctive size IsPiece block)
    {pieces : List (List α)} {piece : List α}
    (hpieces : ∀ p ∈ pieces ++ [piece], IsPiece p ∧ p.length ≤ size) :
    (blocks size (pieces ++ [piece]).flatten).countP mark ≤
      (blocks size pieces.flatten).countP mark +
        if piece.length = size ∧ size ∣ pieces.flatten.length then 1
        else 0 := by
  have hpiece := (hpieces piece (by simp)).2
  have hflatten : (pieces ++ [piece]).flatten = pieces.flatten ++ piece := by
    simp
  rw [hflatten]
  obtain hsame | ⟨before, block, after, hsplit, hblock, hdvd, hend, hmore⟩ :=
    blocks_append hsize pieces.flatten hpiece
  · rw [hsame]
    exact Nat.le_add_right _ _
  · rw [hmore, List.countP_append, List.countP_singleton]
    gcongr
    by_cases hmarked : mark block = true
    · obtain ⟨earlier, later, hlist, hbefore⟩ :=
        piece_of_block hsize hblock (hmark block hblock hmarked) hpieces
          (hflatten.trans hsplit)
      -- the block ends in the last piece, so it is that piece
      obtain rfl | ⟨later, last, rfl⟩ := later.eq_nil_or_concat
      · obtain ⟨hearlier, hsingle⟩ := List.append_inj' hlist rfl
        obtain rfl : piece = block := List.singleton_inj.mp hsingle
        subst hearlier
        rw [← hbefore] at hdvd
        rw [if_pos hmarked, if_pos ⟨hblock, hdvd⟩]
      · have hpieces : pieces = earlier ++ block :: later := by
          rw [List.concat_eq_append, ← List.cons_append,
            ← List.append_assoc] at hlist
          exact (List.append_inj' hlist rfl).1
        have hlength := congrArg (fun l => l.flatten.length) hpieces
        simp only [List.flatten_append, List.flatten_cons,
          List.length_append, hbefore, hblock] at hlength
        omega
    · rw [if_neg hmarked]
      exact Nat.zero_le _

/-- If every whole record has its marked block, then all start at multiples of
the size. -/
theorem aligned_of_length_le (hsize : 0 < size)
    (hmark : ∀ block, block.length = size → mark block = true →
      Distinctive size IsPiece block)
    {pieces : List (List α)}
    (hpieces : ∀ p ∈ pieces, IsPiece p ∧ p.length ≤ size) :
    (blocks size pieces.flatten).countP mark ≤ (whole size pieces).length ∧
      ((whole size pieces).length ≤ (blocks size pieces.flatten).countP mark →
        Aligned size pieces) := by
  induction pieces using List.reverseRecOn with
  | nil => exact ⟨by simp [blocks], fun _ => trivial⟩
  | append_singleton pieces piece ih =>
      obtain ⟨hcount, haligned⟩ :=
        ih fun p hp => hpieces p (List.mem_append_left _ hp)
      have hstep := countP_blocks_append hsize hmark hpieces
      rw [whole_concat, List.length_append, aligned_concat]
      by_cases hfull : piece.length = size
      · rw [if_pos hfull, List.length_singleton]
        by_cases hdvd : size ∣ pieces.flatten.length
        · rw [if_pos ⟨hfull, hdvd⟩] at hstep
          exact ⟨by omega, fun hall => ⟨haligned (by omega), fun _ => hdvd⟩⟩
        · rw [if_neg fun hboth => hdvd hboth.2] at hstep
          exact ⟨by omega, fun hall => absurd hall (by omega)⟩
      · rw [if_neg fun hboth => hfull hboth.1] at hstep
        rw [if_neg hfull, List.length_nil]
        exact ⟨by omega, fun hall =>
          ⟨haligned (by omega), fun habsurd => absurd habsurd hfull⟩⟩

end Distinctive

end FixedRecords
