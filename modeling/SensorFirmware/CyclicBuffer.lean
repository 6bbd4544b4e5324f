import Mathlib.Data.List.DropRight
import Mathlib.Tactic

/-!
# Cyclic buffers with one slot kept empty

A buffer of `N` slots is used as a queue between a `tail` and a `head`
index, both counted modulo `N`.  The live slots are listed in queue order by
`window`.  A loop that walks from `tail` to `head` may read or rewrite each
live slot and may leave early; `scan` is that loop and `scanList` is the same
loop over the list of live slots.  The central fact is that the first computes
the second whenever both indices are in range.
-/

namespace CyclicBuffer

variable {α σ : Type*} {N : ℕ}

def next (N i : ℕ) : ℕ := (i + 1) % N

/-- Number of slots between two indices, walking upwards from the first. -/
def used (N tail head : ℕ) : ℕ :=
  if tail ≤ head then head - tail else N - tail + head

/-- The slots met in `count` moves that start at `i`. -/
def liveFrom (buffer : Vector α N) : ℕ → ℕ → List α
  | _, 0 => []
  | i, count + 1 => buffer[i]?.toList ++ liveFrom buffer (next N i) count

def window (buffer : Vector α N) (tail head : ℕ) : List α :=
  liveFrom buffer tail (used N tail head)

/-! ## Index arithmetic -/

theorem next_eq {i : ℕ} (hi : i < N) :
    next N i = if i + 1 = N then 0 else i + 1 := by
  unfold next
  split
  next hlast => rw [hlast, Nat.mod_self]
  next hlast => exact Nat.mod_eq_of_lt (by omega)

theorem next_lt {i : ℕ} (hi : i < N) : next N i < N :=
  Nat.mod_lt _ (by omega)

theorem used_lt {tail head : ℕ} (htail : tail < N) (hhead : head < N) :
    used N tail head < N := by
  unfold used
  split <;> omega

@[simp] theorem used_self (i : ℕ) : used N i i = 0 := by
  simp [used]

theorem used_eq_zero_iff {tail head : ℕ} (htail : tail < N) :
    used N tail head = 0 ↔ tail = head := by
  unfold used
  split <;> omega

theorem used_next_tail {tail head : ℕ} (htail : tail < N) (hhead : head < N)
    (hne : tail ≠ head) :
    used N tail head = used N (next N tail) head + 1 := by
  rw [next_eq htail]
  unfold used
  split_ifs <;> omega

theorem used_next_head {tail head : ℕ} (htail : tail < N) (hhead : head < N)
    (hne : next N head ≠ tail) :
    used N tail (next N head) = used N tail head + 1 := by
  rw [next_eq hhead] at hne ⊢
  unfold used
  split_ifs at hne ⊢ <;> omega

/-- The buffer counts as full when advancing the head would meet the tail;
one slot is then still empty. -/
theorem used_of_full {tail head : ℕ} (htail : tail < N) (hhead : head < N)
    (hfull : next N head = tail) :
    used N tail head + 1 = N := by
  rw [next_eq hhead] at hfull
  unfold used
  split_ifs at hfull ⊢ <;> omega

theorem next_eq_iff_used {tail head : ℕ} (htail : tail < N)
    (hhead : head < N) : next N head = tail ↔ used N tail head + 1 = N := by
  constructor
  · exact used_of_full htail hhead
  · intro hused
    by_contra hroom
    have hsucc := used_next_head htail hhead hroom
    have hlt := used_lt htail (next_lt hhead)
    omega

theorem used_next_self {i : ℕ} (hi : i < N) :
    used N (next N i) i = N - 1 := by
  rw [next_eq hi]
  unfold used
  split_ifs <;> omega

/-! ## The live list -/

@[simp] theorem liveFrom_zero (buffer : Vector α N) (i : ℕ) :
    liveFrom buffer i 0 = [] := rfl

theorem liveFrom_succ {i : ℕ} (buffer : Vector α N) (count : ℕ)
    (hi : i < N) :
    liveFrom buffer i (count + 1) =
      buffer[i] :: liveFrom buffer (next N i) count := by
  simp [liveFrom, hi]

theorem length_liveFrom {i : ℕ} (buffer : Vector α N) (count : ℕ)
    (hi : i < N) :
    (liveFrom buffer i count).length = count := by
  induction count generalizing i with
  | zero => rfl
  | succ count ih =>
      rw [liveFrom_succ buffer count hi, List.length_cons,
        ih (next_lt hi)]

theorem length_window {tail head : ℕ} (buffer : Vector α N)
    (htail : tail < N) :
    (window buffer tail head).length = used N tail head :=
  length_liveFrom buffer _ htail

theorem liveFrom_map {β : Type*} (f : α → β) (buffer : Vector α N) (i : ℕ)
    (count : ℕ) :
    liveFrom (buffer.map f) i count = (liveFrom buffer i count).map f := by
  induction count generalizing i with
  | zero => rfl
  | succ count ih =>
      have hslot : (buffer.map f)[i]?.toList = buffer[i]?.toList.map f := by
        rw [Vector.getElem?_map]
        cases buffer[i]? <;> rfl
      simp only [liveFrom, ih, hslot, List.map_append]

theorem window_map {β : Type*} (f : α → β) (buffer : Vector α N)
    (tail head : ℕ) :
    window (buffer.map f) tail head = (window buffer tail head).map f :=
  liveFrom_map f buffer tail _

/-- A slot outside the walked range does not matter. -/
theorem liveFrom_set_of_ge {i slot count : ℕ} (buffer : Vector α N)
    (a : α) (hi : i < N) (hslot : slot < N)
    (hout : count ≤ used N i slot) :
    liveFrom (buffer.set slot a hslot) i count =
      liveFrom buffer i count := by
  induction count generalizing i with
  | zero => rfl
  | succ count ih =>
      have hne : i ≠ slot := by
        intro heq
        rw [heq, used_self] at hout
        omega
      have hused := used_next_tail hi hslot hne
      rw [liveFrom_succ _ _ hi, liveFrom_succ _ _ hi,
        ih (next_lt hi) (by omega), Vector.getElem_set_ne hslot hi hne.symm]

/-- Writing the slot at which the walk ends and walking one further appends
the written value. -/
theorem liveFrom_push {i head : ℕ} (buffer : Vector α N) (a : α)
    (hi : i < N) (hhead : head < N) :
    liveFrom (buffer.set head a hhead) i (used N i head + 1) =
      liveFrom buffer i (used N i head) ++ [a] := by
  induction hcount : used N i head generalizing i with
  | zero =>
      have heq : i = head := (used_eq_zero_iff hi).mp hcount
      subst i
      rw [liveFrom_succ _ _ hi]
      simp
  | succ count ih =>
      have hne : i ≠ head := by
        intro heq
        rw [heq, used_self] at hcount
        omega
      have hused := used_next_tail hi hhead hne
      have hrest := ih (next_lt hi) (by omega)
      rw [liveFrom_succ _ _ hi, hrest, liveFrom_succ _ _ hi,
        Vector.getElem_set_ne hhead hi (Ne.symm hne), List.cons_append]

theorem window_push {tail head : ℕ} (buffer : Vector α N) (a : α)
    (htail : tail < N) (hhead : head < N)
    (hroom : next N head ≠ tail) :
    window (buffer.set head a hhead) tail (next N head) =
      window buffer tail head ++ [a] := by
  unfold window
  rw [used_next_head htail hhead hroom]
  exact liveFrom_push buffer a htail hhead

theorem getElem?_liveFrom {i slot count : ℕ} (buffer : Vector α N)
    (hi : i < N) (hslot : slot < N) (hin : used N i slot < count) :
    (liveFrom buffer i count)[used N i slot]? = some buffer[slot] := by
  induction count generalizing i with
  | zero => omega
  | succ count ih =>
      rw [liveFrom_succ _ _ hi]
      by_cases heq : i = slot
      · subst heq
        simp
      · have hused := used_next_tail hi hslot heq
        rw [hused, List.getElem?_cons_succ]
        exact ih (next_lt hi) (by omega)

/-- A buffer is determined by its window and the slots outside. -/
theorem eq_of_window_eq {tail head : ℕ} {left right : Vector α N}
    (htail : tail < N)
    (hwindow : window left tail head = window right tail head)
    (hframe : ∀ slot (hslot : slot < N),
      used N tail head ≤ used N tail slot → left[slot] = right[slot]) :
    left = right := by
  apply Vector.ext
  intro slot hslot
  by_cases hlive : used N tail slot < used N tail head
  · have hleft := getElem?_liveFrom left htail hslot hlive
    have hright := getElem?_liveFrom right htail hslot hlive
    unfold window at hwindow
    rw [hwindow, hright] at hleft
    exact (Option.some.inj hleft).symm
  · exact hframe slot hslot (by omega)

/-- Dropping the oldest slot of a nonempty window. -/
theorem window_next_tail {tail head : ℕ} (buffer : Vector α N)
    (htail : tail < N) (hhead : head < N) (hne : tail ≠ head) :
    window buffer (next N tail) head =
      (window buffer tail head).tail := by
  unfold window
  rw [used_next_tail htail hhead hne, liveFrom_succ _ _ htail,
    List.tail_cons]

/-! ## Loops over the live slots -/

/-- What one loop body does with the slot it looks at: rewrite it and go on,
or rewrite it and leave the loop. -/
inductive Visit (σ α : Type*) where
  | advance (acc : σ) (slot : α)
  | leave (acc : σ) (slot : α)

/-- Leave the loop at the first matching slot. -/
def firstMatch (p : α → Bool) (g : σ → α → σ) (f : α → α) (acc : σ)
    (slot : α) : Visit σ α :=
  if p slot then .leave (g acc slot) (f slot) else .advance acc slot

def everyMatch (p : α → Bool) (g : σ → α → σ) (f : α → α) (acc : σ)
    (slot : α) : Visit σ α :=
  if p slot then .advance (g acc slot) (f slot) else .advance acc slot

/-- The loop has no condition besides the two indices. -/
def always (_ : σ) : Bool := true

def belowLimit (limit : ℕ) (collected : List α) : Bool :=
  collected.length < limit

/-- `current = tail; while (current != head && more)` with the given body.
The result is `none` when the fuel ends first or a slot outside the buffer is
touched. -/
def scan (more : σ → Bool) (visit : σ → α → Visit σ α) (head : ℕ) :
    ℕ → ℕ → Vector α N → σ → Option (Vector α N × σ)
  | 0, current, buffer, acc =>
      if current = head ∨ more acc = false then some (buffer, acc) else none
  | fuel + 1, current, buffer, acc =>
      if current = head ∨ more acc = false then some (buffer, acc)
      else if h : current < N then
        match visit acc buffer[current] with
        | .advance acc' slot =>
            scan more visit head fuel (next N current)
              (buffer.set current slot h) acc'
        | .leave acc' slot => some (buffer.set current slot h, acc')
      else none

def scanList (more : σ → Bool) (visit : σ → α → Visit σ α) :
    List α → σ → List α × σ
  | [], acc => ([], acc)
  | a :: rest, acc =>
      if more acc then
        match visit acc a with
        | .advance acc' slot =>
            (slot :: (scanList more visit rest acc').1,
              (scanList more visit rest acc').2)
        | .leave acc' slot => (slot :: rest, acc')
      else (a :: rest, acc)

@[simp] theorem scanList_nil (more : σ → Bool)
    (visit : σ → α → Visit σ α) (acc : σ) :
    scanList more visit [] acc = ([], acc) := rfl

/-- From indices in range a scan ends, touches live slots only, and acts on
the live list as the list loop does. -/
theorem scan_eq (more : σ → Bool) (visit : σ → α → Visit σ α)
    {head current fuel : ℕ} (hhead : head < N) (hcurrent : current < N)
    (hfuel : used N current head ≤ fuel)
    (buffer : Vector α N) (acc : σ) :
    ∃ buffer',
      scan more visit head fuel current buffer acc =
          some (buffer',
            (scanList more visit (window buffer current head) acc).2) ∧
        window buffer' current head =
          (scanList more visit (window buffer current head) acc).1 ∧
        ∀ slot (hslot : slot < N),
          used N current head ≤ used N current slot →
            buffer'[slot] = buffer[slot] := by
  induction hcount : used N current head
    generalizing current fuel buffer acc with
  | zero =>
      have heq : current = head := (used_eq_zero_iff hcurrent).mp hcount
      refine ⟨buffer, ?_, ?_, fun _ _ _ => rfl⟩
      · cases fuel <;> simp [scan, heq, window]
      · simp [window, hcount]
  | succ count ih =>
      have hne : current ≠ head := by
        intro heq
        rw [heq, used_self] at hcount
        omega
      have hused := used_next_tail hcurrent hhead hne
      obtain ⟨fuel, rfl⟩ : ∃ k, fuel = k + 1 := ⟨fuel - 1, by omega⟩
      have hcons : window buffer current head =
          buffer[current] :: window buffer (next N current) head := by
        unfold window
        rw [hused, liveFrom_succ _ _ hcurrent]
      by_cases hmore : more acc = true
      · cases hvisit : visit acc buffer[current] with
        | leave acc' slot =>
            refine ⟨buffer.set current slot, ?_, ?_, ?_⟩
            · simp [scan, hne, hmore, hcurrent, hcons, scanList, hvisit]
            · rw [hcons]
              simp only [scanList, hmore, if_true, hvisit]
              unfold window
              rw [hused, liveFrom_succ _ _ hcurrent,
                liveFrom_set_of_ge buffer slot (next_lt hcurrent) hcurrent]
              · simp
              · have := used_lt (next_lt hcurrent) hhead
                rw [used_next_self hcurrent]
                omega
            · intro other hother hout
              apply Vector.getElem_set_ne
              intro heq
              subst other
              simp at hout
        | advance acc' slot =>
            obtain ⟨buffer', hscan, hwindow, hframe⟩ :=
              @ih _ fuel (next_lt hcurrent) (by omega)
                (buffer.set current slot) acc' (by omega)
            have hrest :
                window (buffer.set current slot) (next N current) head =
                  window buffer (next N current) head := by
              have := used_lt (next_lt hcurrent) hhead
              apply liveFrom_set_of_ge _ _ (next_lt hcurrent) hcurrent
              rw [used_next_self hcurrent]
              omega
            have hkept : buffer'[current] = slot := by
              rw [hframe current hcurrent]
              · simp
              · have := used_lt (next_lt hcurrent) hhead
                rw [used_next_self hcurrent]
                omega
            rw [hrest] at hscan hwindow
            refine ⟨buffer', ?_, ?_, ?_⟩
            · simp only [scan, hne, hmore, hcurrent, hcons, scanList,
                hvisit, hscan]
              simp
            · rw [hcons]
              simp only [scanList, hmore, if_true, hvisit]
              rw [← hwindow]
              unfold window
              rw [hused, liveFrom_succ _ _ hcurrent, hkept]
            · intro other hother hout
              have hneOther : current ≠ other := by
                intro heq
                subst other
                simp at hout
              have := used_next_tail hcurrent hother hneOther
              rw [hframe other hother (by omega)]
              exact Vector.getElem_set_ne _ _ hneOther
      · refine ⟨buffer, ?_, ?_, fun _ _ _ => rfl⟩
        · simp [scan, hmore, hcons, scanList]
        · rw [hcons]
          simp [scanList, hmore]

/-- A loop that leaves the live list as it is leaves the buffer as it is. -/
theorem scan_unchanged {more : σ → Bool} {visit : σ → α → Visit σ α}
    {head current : ℕ} (hhead : head < N) (hcurrent : current < N)
    {buffer : Vector α N} {acc : σ}
    (hsame : (scanList more visit (window buffer current head) acc).1 =
      window buffer current head) :
    scan more visit head N current buffer acc =
      some (buffer,
        (scanList more visit (window buffer current head) acc).2) := by
  obtain ⟨buffer', hscan, hwindow, hframe⟩ :=
    scan_eq more visit hhead hcurrent (used_lt hcurrent hhead).le buffer acc
  have hbuffer : buffer' = buffer :=
    eq_of_window_eq hcurrent (hwindow.trans hsame) hframe
  rw [hbuffer] at hscan
  exact hscan

/-! ## Loops seen through a function of the slots -/

namespace Visit

def slot : Visit σ α → α
  | advance _ a => a
  | leave _ a => a

/-- The same decision with the same result, on slots that look the same. -/
def Alike {β : Type*} (f : α → β) : Visit σ α → Visit σ α → Prop
  | advance acc a, advance acc' b => acc = acc' ∧ f a = f b
  | leave acc a, leave acc' b => acc = acc' ∧ f a = f b
  | _, _ => False

end Visit

/-- A loop body that does not change how a slot looks does not change how the
buffer looks. -/
theorem scan_map_eq {β : Type*} {f : α → β} {more : σ → Bool}
    {visit : σ → α → Visit σ α}
    (hvisit : ∀ acc a, f (visit acc a).slot = f a) {head fuel current : ℕ}
    {buffer : Vector α N} {acc : σ} {result : Vector α N × σ}
    (hscan : scan more visit head fuel current buffer acc = some result) :
    result.1.map f = buffer.map f := by
  induction fuel generalizing current buffer acc with
  | zero =>
      unfold scan at hscan
      split at hscan
      · cases Option.some.inj hscan
        rfl
      · cases hscan
  | succ fuel ih =>
      unfold scan at hscan
      split at hscan
      · cases Option.some.inj hscan
        rfl
      · split at hscan
        next hcurrent =>
          have hslot := hvisit acc buffer[current]
          have hset : ∀ a, f a = f buffer[current] →
              (buffer.set current a hcurrent).map f = buffer.map f := by
            intro a ha
            rw [Vector.map_set, ha, ← Vector.map_set, Vector.set_getElem_self]
          cases hcase : visit acc buffer[current] with
          | advance acc' a =>
              rw [hcase] at hscan hslot
              exact (ih hscan).trans (hset a hslot)
          | leave acc' a =>
              rw [hcase] at hscan hslot
              cases Option.some.inj hscan
              exact hset a hslot
        · cases hscan

/-- Over buffers that look the same, a loop body that decides by the looks
gives the same result and leaves buffers that look the same. -/
theorem scan_map_congr {β : Type*} {f : α → β} {more : σ → Bool}
    {visit : σ → α → Visit σ α}
    (hvisit : ∀ acc a b, f a = f b → (visit acc a).Alike f (visit acc b))
    {head fuel current : ℕ} {left right : Vector α N} {acc : σ}
    (hsame : left.map f = right.map f) :
    Option.Rel (fun first second =>
        first.1.map f = second.1.map f ∧ first.2 = second.2)
      (scan more visit head fuel current left acc)
      (scan more visit head fuel current right acc) := by
  induction fuel generalizing current left right acc with
  | zero =>
      unfold scan
      split
      · exact .some ⟨hsame, rfl⟩
      · exact .none
  | succ fuel ih =>
      unfold scan
      split
      · exact .some ⟨hsame, rfl⟩
      · split
        next hcurrent =>
          have hslots : f left[current] = f right[current] := by
            have hget := congrArg (fun mapped => mapped[current]) hsame
            simpa using hget
          have halike := hvisit acc _ _ hslots
          cases hleft : visit acc left[current] with
          | advance acc' a =>
              cases hright : visit acc right[current] with
              | advance acc'' b =>
                  rw [hleft, hright] at halike
                  obtain ⟨rfl, hab⟩ := halike
                  apply ih
                  rw [Vector.map_set, Vector.map_set, hsame, hab]
              | leave acc'' b =>
                  rw [hleft, hright] at halike
                  exact halike.elim
          | leave acc' a =>
              cases hright : visit acc right[current] with
              | advance acc'' b =>
                  rw [hleft, hright] at halike
                  exact halike.elim
              | leave acc'' b =>
                  rw [hleft, hright] at halike
                  obtain ⟨rfl, hab⟩ := halike
                  refine .some ⟨?_, rfl⟩
                  dsimp only
                  rw [Vector.map_set, Vector.map_set, hsame, hab]
        · exact .none

/-! ## What the usual loop bodies compute -/

section ListLoops

variable (p : α → Bool) (g : σ → α → σ) (f : α → α)

theorem scanList_everyMatch (live : List α) (acc : σ) :
    scanList always (everyMatch p g f) live acc =
      (live.map fun a => if p a then f a else a,
        (live.filter p).foldl g acc) := by
  induction live generalizing acc with
  | nil => rfl
  | cons a rest ih =>
      cases hp : p a <;> simp [scanList, everyMatch, always, hp, ih]

/-- A bounded counter that has room counts the matching slots. -/
theorem foldl_count {bound : ℕ} (live : List α) {count : ℕ}
    (hroom : count + live.length < bound) :
    live.foldl (fun count _ => (count + 1) % bound) count =
      count + live.length := by
  induction live generalizing count with
  | nil => rfl
  | cons a rest ih =>
      simp only [List.length_cons] at hroom
      have hstep : (count + 1) % bound = count + 1 :=
        Nat.mod_eq_of_lt (by omega)
      rw [List.foldl_cons, hstep, ih (by omega), List.length_cons]
      omega

theorem scanList_firstMatch_snd (live : List α) (acc : σ) :
    (scanList always (firstMatch p g f) live acc).2 =
      ((live.find? p).map (g acc)).getD acc := by
  induction live with
  | nil => rfl
  | cons a rest ih =>
      cases hp : p a
      · simpa [scanList, firstMatch, always, hp] using ih
      · simp [scanList, firstMatch, always, hp]

/-- The loop finds no match and changes nothing, or acts on a matching slot
once; what the action does not change stays. -/
theorem scanList_firstMatch_cases (live : List α) (acc : σ) :
    scanList always (firstMatch p g f) live acc = (live, acc) ∨
      ∃ a ∈ live, p a = true ∧
        (scanList always (firstMatch p g f) live acc).2 = g acc a ∧
        (f a = a →
          (scanList always (firstMatch p g f) live acc).1 = live) := by
  induction live with
  | nil => exact .inl rfl
  | cons b rest ih =>
      cases hp : p b with
      | false =>
          rcases ih with hnone | ⟨a, hmem, hmatch, hacc, hsame⟩
          · left
            simp [scanList, firstMatch, always, hp] at hnone ⊢
            simp [hnone]
          · right
            refine ⟨a, .tail b hmem, hmatch, ?_, ?_⟩
            · simpa [scanList, firstMatch, always, hp] using hacc
            · intro hfix
              simpa [scanList, firstMatch, always, hp] using hsame hfix
      | true =>
          right
          refine ⟨b, .head rest, hp, ?_, ?_⟩
          · simp [scanList, firstMatch, always, hp]
          · intro hfix
            simp [scanList, firstMatch, always, hp, hfix]

/-- Whether the loop leaves early tells whether some slot matches. -/
theorem scanList_firstMatch_found (live : List α) :
    (scanList always (firstMatch p (fun _ _ => true) f) live false).2 =
      live.any p := by
  rw [scanList_firstMatch_snd, ← List.isSome_find?]
  cases live.find? p <;> rfl

/-- A loop that leaves early rewrites at most one slot, which matches. -/
theorem mem_scanList_firstMatch {live : List α} {acc : σ} {a : α}
    (hmem : a ∈ (scanList always (firstMatch p g f) live acc).1) :
    a ∈ live ∨ ∃ b ∈ live, p b = true ∧ a = f b := by
  induction live with
  | nil => exact .inl hmem
  | cons b rest ih =>
      cases hp : p b
      · simp only [scanList, always, firstMatch, hp, if_true,
          Bool.false_eq_true, if_false, List.mem_cons] at hmem
        rcases hmem with rfl | hrest
        · exact .inl (List.mem_cons_self ..)
        · rcases ih hrest with hold | ⟨c, hc, hmatch⟩
          · exact .inl (List.mem_cons_of_mem _ hold)
          · exact .inr ⟨c, List.mem_cons_of_mem _ hc, hmatch⟩
      · simp only [scanList, always, firstMatch, hp, if_true,
          List.mem_cons] at hmem
        rcases hmem with rfl | hrest
        · exact .inr ⟨b, List.mem_cons_self .., hp, rfl⟩
        · exact .inl (List.mem_cons_of_mem _ hrest)

theorem map_eq_self_of_no_match {live : List α}
    (hnone : ∀ a ∈ live, p a = false) :
    (live.map fun a => if p a then f a else a) = live := by
  conv_rhs => rw [← List.map_id live]
  apply List.map_congr_left
  intro a hmem
  simp [hnone a hmem]

/-- When no two slots match, leaving at the first match makes no
difference. -/
theorem scanList_firstMatch_fst {live : List α} (acc : σ)
    (hunique : live.Pairwise fun a b => p a = true → p b = false) :
    (scanList always (firstMatch p g f) live acc).1 =
      live.map fun a => if p a then f a else a := by
  induction live with
  | nil => rfl
  | cons a rest ih =>
      obtain ⟨hhead, htail⟩ := List.pairwise_cons.mp hunique
      cases hp : p a
      · simpa [scanList, firstMatch, always, hp] using ih htail
      · have hrest := map_eq_self_of_no_match p f
          (fun b hb => hhead b hb hp)
        simp [scanList, firstMatch, always, hp, hrest]

theorem scanList_collect (limit : ℕ) (live collected : List α)
    (hroom : collected.length ≤ limit) :
    (scanList (belowLimit limit)
        (everyMatch p (fun out a => out ++ [a]) id) live collected).2 =
      collected ++ (live.filter p).take (limit - collected.length) := by
  induction live generalizing collected with
  | nil => simp
  | cons a rest ih =>
      by_cases hmore : collected.length < limit
      · cases hp : p a
        · simpa [scanList, everyMatch, belowLimit, hmore, hp] using
            ih collected hroom
        · have hstep := ih (collected ++ [a]) (by simpa using hmore)
          have htake : limit - collected.length =
              limit - (collected.length + 1) + 1 := by omega
          simp [scanList, everyMatch, belowLimit, hmore, hp] at hstep ⊢
          rw [hstep, htake, List.take_succ_cons]
      · have hzero : limit - collected.length = 0 := by omega
        simp [scanList, belowLimit, hmore, hzero]

end ListLoops

/-! ## Keeping the most recent elements -/

theorem length_rtake (k : ℕ) (l : List α) :
    (l.rtake k).length = min k l.length := by
  simp only [List.rtake, List.length_drop]
  omega

/-- Appending to a list of which the last `k` are kept evicts the oldest kept
element exactly when `k` are kept already. -/
theorem rtake_concat {k : ℕ} (hk : 0 < k) (l : List α) (a : α) :
    (l ++ [a]).rtake k =
      (if k ≤ l.length then (l.rtake k).tail else l.rtake k) ++ [a] := by
  obtain ⟨k, rfl⟩ : ∃ j, k = j + 1 := ⟨k - 1, by omega⟩
  rw [List.rtake_concat_succ]
  congr 1
  simp only [List.rtake]
  split
  next hfull =>
    rw [List.tail_drop]
    congr 1
    omega
  next hroom =>
    rw [show l.length - k = 0 by omega,
      show l.length - (k + 1) = 0 by omega]

/-- Rewrite the kept elements in place. -/
def mapRecent (k : ℕ) (f : α → α) (l : List α) : List α :=
  l.rdrop k ++ (l.rtake k).map f

theorem rtake_mapRecent (k : ℕ) (f : α → α) (l : List α) :
    (mapRecent k f l).rtake k = (l.rtake k).map f := by
  have hlength := length_rtake k l
  unfold mapRecent
  by_cases hfull : k ≤ l.length
  · have hdrop : (l.rdrop k ++ (l.rtake k).map f).length - k =
        (l.rdrop k).length := by
      simp only [List.length_append, List.length_map, hlength]
      omega
    conv_lhs => rw [List.rtake, hdrop]
    exact List.drop_left
  · have hempty : l.rdrop k = [] := by
      simp only [List.rdrop]
      rw [show l.length - k = 0 by omega, List.take_zero]
    rw [hempty, List.nil_append, List.rtake, List.length_map, hlength,
      show min k l.length - k = 0 by omega, List.drop_zero]

/-- What `f` does not change is not changed anywhere in the list. -/
theorem map_mapRecent {β : Type*} (k : ℕ) {f : α → α} {h : α → β}
    (hf : ∀ a, h (f a) = h a) (l : List α) :
    (mapRecent k f l).map h = l.map h := by
  have hsplit : l.rdrop k ++ l.rtake k = l :=
    List.take_append_drop _ l
  conv_rhs => rw [← hsplit]
  simp [mapRecent, hf]

end CyclicBuffer
