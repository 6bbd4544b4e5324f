import Mathlib.Tactic

/-!
# An updater that writes an image to flash

The interface of an update library: an image of announced size is begun,
written piece by piece and finished or given up.  `Lawful` is what its
documentation promises: a short write puts it in an error state in which every
later write and the end fail, and it takes nothing beyond the announced size.
-/

structure UpdateLibrary (σ β : Type*) where
  start : σ → ℕ → σ × Bool
  write : σ → List β → σ × ℕ
  finish : σ → σ × Bool
  abort : σ → σ
  /-- The bytes written since the last `start`. -/
  flash : σ → List β
  size : σ → ℕ
  hasError : σ → Bool

namespace UpdateLibrary

variable {σ β : Type*}

structure Lawful (lib : UpdateLibrary σ β) : Prop where
  flash_start : ∀ s n, (lib.start s n).2 = true →
    lib.flash (lib.start s n).1 = []
  size_start : ∀ s n, (lib.start s n).2 = true →
    lib.size (lib.start s n).1 = n
  written_le : ∀ s data, (lib.write s data).2 ≤ data.length
  flash_write : ∀ s data, lib.flash (lib.write s data).1 =
    lib.flash s ++ data.take (lib.write s data).2
  size_write : ∀ s data, lib.size (lib.write s data).1 = lib.size s
  short_write : ∀ s data, (lib.write s data).2 < data.length →
    lib.hasError (lib.write s data).1 = true
  error_write : ∀ s data, lib.hasError s = true →
    (lib.write s data).2 = 0 ∧ lib.hasError (lib.write s data).1 = true
  error_finish : ∀ s, lib.hasError s = true → (lib.finish s).2 = false
  beyond : ∀ s data, lib.size s < (lib.flash s).length + data.length →
    (lib.write s data).2 = 0

/-- `bytes` were handed over and taken.  Either they are what the flash holds,
or the library has failed before the image was whole. -/
def Holds (lib : UpdateLibrary σ β) (s : σ) (bytes : List β) : Prop :=
  bytes.length ≤ lib.size s ∧
    (lib.flash s = bytes ∨
      lib.hasError s = true ∧ bytes.length < lib.size s)

variable {lib : UpdateLibrary σ β} {s : σ} {bytes data : List β}

theorem holds_start (hlib : lib.Lawful) {n : ℕ}
    (hok : (lib.start s n).2 = true) :
    lib.Holds (lib.start s n).1 [] :=
  ⟨Nat.zero_le _, .inl (hlib.flash_start s n hok)⟩

theorem Holds.write (hlib : lib.Lawful) (hholds : lib.Holds s bytes)
    (hfull : (lib.write s data).2 = data.length) :
    lib.Holds (lib.write s data).1 (bytes ++ data) := by
  obtain ⟨hfits, hflash | ⟨herror, hshort⟩⟩ := hholds
  · refine ⟨?_, .inl ?_⟩
    · rw [hlib.size_write, List.length_append]
      by_contra hover
      have hbeyond := hlib.beyond s data (by rw [hflash]; omega)
      omega
    · rw [hlib.flash_write, hflash, hfull, List.take_length]
  · obtain ⟨hnothing, hstill⟩ := hlib.error_write s data herror
    have hempty : data = [] := List.length_eq_zero_iff.mp (by omega)
    subst hempty
    rw [List.append_nil]
    refine ⟨?_, .inr ⟨hstill, ?_⟩⟩
    · rw [hlib.size_write]
      exact hfits
    · rw [hlib.size_write]
      exact hshort

theorem Holds.shortWrite (hlib : lib.Lawful) (hholds : lib.Holds s bytes)
    (hshort : (lib.write s data).2 ≠ data.length) :
    lib.Holds (lib.write s data).1 bytes := by
  have hless : (lib.write s data).2 < data.length :=
    lt_of_le_of_ne (hlib.written_le s data) hshort
  obtain ⟨hfits, hflash⟩ := hholds
  refine ⟨by rw [hlib.size_write]; exact hfits, ?_⟩
  have herror := hlib.short_write s data hless
  rw [hlib.size_write]
  rcases hflash with hflash | ⟨-, hroom⟩
  · by_cases hnothing : (lib.write s data).2 = 0
    · left
      rw [hlib.flash_write, hnothing, hflash, List.take_zero,
        List.append_nil]
    · right
      refine ⟨herror, ?_⟩
      by_contra hover
      have hbeyond := hlib.beyond s data (by rw [hflash]; omega)
      exact hnothing hbeyond
  · exact .inr ⟨herror, hroom⟩

theorem Holds.whole (hholds : lib.Holds s bytes)
    (hwhole : bytes.length = lib.size s) : lib.flash s = bytes := by
  obtain ⟨-, hflash | ⟨-, hshort⟩⟩ := hholds
  · exact hflash
  · omega

/-! ## A flash that wears out -/

/-- A flash that can still take `room` bytes. -/
structure WornFlash (β : Type*) where
  size : ℕ
  bytes : List β
  room : ℕ
  failed : Bool
  deriving DecidableEq, Repr

instance : Inhabited (WornFlash β) := ⟨⟨0, [], 0, false⟩⟩

def WornFlash.write (flash : WornFlash β) (data : List β) :
    WornFlash β × ℕ :=
  if flash.failed || flash.size < flash.bytes.length + data.length then
    ({ flash with failed := true }, 0)
  else
    ({ flash with
        bytes := flash.bytes ++ data.take flash.room
        room := flash.room - data.length
        failed := flash.room < data.length },
      min flash.room data.length)

def wornFlash (β : Type*) : UpdateLibrary (WornFlash β) β where
  start flash n :=
    ({ flash with size := n, bytes := [], failed := false }, true)
  write := WornFlash.write
  finish flash :=
    (flash, !flash.failed && flash.bytes.length == flash.size)
  abort flash := { flash with failed := true }
  flash := WornFlash.bytes
  size := WornFlash.size
  hasError := WornFlash.failed

theorem lawful_wornFlash : (wornFlash β).Lawful where
  flash_start := fun _ _ _ => rfl
  size_start := fun _ _ _ => rfl
  written_le := by
    intro s data
    simp only [wornFlash, WornFlash.write]
    split <;> simp
  flash_write := by
    intro s data
    simp only [wornFlash, WornFlash.write]
    split
    · simp
    · simp
  size_write := by
    intro s data
    simp only [wornFlash, WornFlash.write]
    split <;> rfl
  short_write := by
    intro s data
    simp only [wornFlash, WornFlash.write]
    split
    · simp
    · simp
  error_write := by
    intro s data herror
    have hfailed : s.failed = true := herror
    simp [wornFlash, WornFlash.write, hfailed]
  error_finish := by
    intro s herror
    have hfailed : s.failed = true := herror
    simp [wornFlash, hfailed]
  beyond := by
    intro s data hbeyond
    have hover : s.size < s.bytes.length + data.length := hbeyond
    simp [wornFlash, WornFlash.write, hover]

end UpdateLibrary
