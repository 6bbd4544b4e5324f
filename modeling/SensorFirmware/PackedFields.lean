import SensorFirmware.Checksum

/-!
# Packed little-endian fields

A packed structure as the list of its fields, each with its width in bytes.
Reading by the widths gives the values back.
-/

namespace PackedFields

open SensorFirmware

/-- Each field with its width, one after the other. -/
def pack (fields : List (ℕ × ℕ)) : List Byte :=
  fields.flatMap fun field => leBytes field.1 field.2

/-- The values at the given widths, read from the front. -/
def unpack : List ℕ → List Byte → List ℕ
  | [], _ => []
  | width :: widths, bytes =>
      leNat (bytes.take width) :: unpack widths (bytes.drop width)

@[simp] theorem pack_nil : pack [] = [] := rfl

@[simp] theorem pack_cons (field : ℕ × ℕ) (fields : List (ℕ × ℕ)) :
    pack (field :: fields) = leBytes field.1 field.2 ++ pack fields := rfl

theorem length_pack (fields : List (ℕ × ℕ)) :
    (pack fields).length = (fields.map Prod.fst).sum := by
  induction fields with
  | nil => rfl
  | cons field fields ih => simp [ih]

/-- What follows the fields does not matter. -/
theorem unpack_pack {fields : List (ℕ × ℕ)}
    (hfits : ∀ field ∈ fields, field.2 < 256 ^ field.1) (rest : List Byte) :
    unpack (fields.map Prod.fst) (pack fields ++ rest) =
      fields.map Prod.snd := by
  induction fields with
  | nil => rfl
  | cons field fields ih =>
      have hhere : field.2 % 256 ^ field.1 = field.2 :=
        Nat.mod_eq_of_lt (hfits field (.head fields))
      have hlater := ih fun other hother => hfits other (.tail field hother)
      have hwidth := length_leBytes field.1 field.2
      rw [List.map_cons, List.map_cons, pack_cons, List.append_assoc, unpack,
        List.take_left' hwidth, List.drop_left' hwidth, leNat_leBytes, hhere,
        hlater]

/-- The values at the widths are the bytes that they were read from. -/
theorem pack_unpack (widths : List ℕ) (bytes : List Byte)
    (hlong : widths.sum ≤ bytes.length) :
    pack (widths.zip (unpack widths bytes)) = bytes.take widths.sum := by
  induction widths generalizing bytes with
  | nil => rfl
  | cons width widths ih =>
      rw [List.sum_cons] at hlong
      have hrest : widths.sum ≤ (bytes.drop width).length := by
        rw [List.length_drop]
        omega
      have hwidth : width ≤ bytes.length := by omega
      have hhere := take_of_leNat_take hwidth rfl
      rw [unpack, List.zip_cons_cons, pack_cons, ih _ hrest, ← hhere,
        List.sum_cons, List.take_add]

/-- A value that is read fits its width. -/
theorem getD_unpack_lt (widths : List ℕ) (bytes : List Byte) (i : ℕ) :
    (unpack widths bytes).getD i 0 < 256 ^ widths.getD i 0 := by
  induction widths generalizing bytes i with
  | nil => exact Nat.one_pos
  | cons width widths ih =>
      cases i with
      | zero => exact leNat_take_lt bytes width
      | succ i => exact ih (bytes.drop width) i

/-- Each field is read from its own bytes. -/
theorem getD_unpack (widths : List ℕ) (bytes : List Byte) {i : ℕ}
    (hi : i < widths.length) :
    (unpack widths bytes).getD i 0 =
      leNat ((bytes.drop (widths.take i).sum).take (widths.getD i 0)) := by
  induction widths generalizing bytes i with
  | nil => exact absurd hi (Nat.not_lt_zero i)
  | cons width widths ih =>
      cases i with
      | zero => rfl
      | succ i =>
          have hrest := ih (bytes.drop width) (Nat.lt_of_succ_lt_succ hi)
          rw [List.drop_drop] at hrest
          simpa [unpack] using hrest

/-- A value determines the bytes that it is read from. -/
theorem getElem?_of_field {bytes : List Byte} {offset width n : ℕ}
    (hread : leNat ((bytes.drop offset).take width) = n)
    (hend : offset + width ≤ bytes.length) {i : ℕ} (hi : i < width) :
    bytes[offset + i]? = (leBytes width n)[i]? := by
  have hwidth : width ≤ (bytes.drop offset).length := by
    rw [List.length_drop]
    omega
  rw [← take_of_leNat_take hwidth hread, List.getElem?_take_of_lt hi,
    List.getElem?_drop]

end PackedFields
