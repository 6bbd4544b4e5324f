import SensorFirmware.Checksum

/-!
# Codecs of packed records

A codec of fixed size comes with its laws: what it writes is read back whatever
follows, and every block of its size is what some value is written as.  Words,
pairs and vectors of a codec have codecs, and so has every type that is in
bijection with one that has.
-/

open SensorFirmware

/-- A type whose values are written in a fixed number of bytes. -/
structure RecordCodec (α : Type*) where
  size : ℕ
  encode : α → List Byte
  decode : List Byte → α
  length_encode : ∀ a, (encode a).length = size
  decode_encode : ∀ a rest, decode (encode a ++ rest) = a
  encode_decode : ∀ bytes, size ≤ bytes.length →
    encode (decode bytes) = bytes.take size

namespace RecordCodec

variable {α β : Type*}

theorem decode_encode_self (codec : RecordCodec α) (a : α) :
    codec.decode (codec.encode a) = a := by
  simpa using codec.decode_encode a []

/-- A word of so many bytes, least significant first. -/
def word (width : ℕ) (toNat : α → ℕ) (ofNat : ℕ → α)
    (hlt : ∀ a, toNat a < 256 ^ width) (hback : ∀ a, ofNat (toNat a) = a)
    (hto : ∀ n, n < 256 ^ width → toNat (ofNat n) = n) : RecordCodec α where
  size := width
  encode a := leBytes width (toNat a)
  decode bytes := ofNat (leNat (bytes.take width))
  length_encode a := length_leBytes width (toNat a)
  decode_encode a rest := by
    have hwidth := length_leBytes width (toNat a)
    rw [List.take_left' hwidth, leNat_leBytes, Nat.mod_eq_of_lt (hlt a),
      hback]
  encode_decode bytes hlong := by
    rw [hto _ (leNat_take_lt bytes width)]
    exact (take_of_leNat_take hlong rfl).symm

def uint8 : RecordCodec UInt8 :=
  word 1 UInt8.toNat UInt8.ofNat UInt8.toNat_lt (fun _ => UInt8.ofNat_toNat)
    (fun _ hn => UInt8.toNat_ofNat_of_lt hn)

def uint32 : RecordCodec UInt32 :=
  word 4 UInt32.toNat UInt32.ofNat UInt32.toNat_lt
    (fun _ => UInt32.ofNat_toNat) (fun _ hn => UInt32.toNat_ofNat_of_lt hn)

def pair (first : RecordCodec α) (second : RecordCodec β) :
    RecordCodec (α × β) where
  size := first.size + second.size
  encode value := first.encode value.1 ++ second.encode value.2
  decode bytes := (first.decode bytes, second.decode (bytes.drop first.size))
  length_encode value := by
    rw [List.length_append, first.length_encode, second.length_encode]
  decode_encode value rest := by
    rw [List.append_assoc, first.decode_encode,
      List.drop_left' (first.length_encode value.1), second.decode_encode]
  encode_decode bytes hlong := by
    have hfirst : first.size ≤ bytes.length := by omega
    have hsecond : second.size ≤ (bytes.drop first.size).length := by
      rw [List.length_drop]
      omega
    rw [first.encode_decode bytes hfirst, second.encode_decode _ hsecond,
      List.take_add]

def ofEquiv (codec : RecordCodec α) (e : β ≃ α) : RecordCodec β where
  size := codec.size
  encode b := codec.encode (e b)
  decode bytes := e.symm (codec.decode bytes)
  length_encode b := codec.length_encode (e b)
  decode_encode b rest := by rw [codec.decode_encode, e.symm_apply_apply]
  encode_decode bytes hlong := by
    rw [e.apply_symm_apply, codec.encode_decode bytes hlong]

/-! ## Vectors -/

section Vectors

variable (codec : RecordCodec α)

def encodeAll (values : List α) : List Byte := values.flatMap codec.encode

def decodeAll : ℕ → List Byte → List α
  | 0, _ => []
  | count + 1, bytes =>
      codec.decode bytes :: decodeAll count (bytes.drop codec.size)

@[simp] theorem length_decodeAll (count : ℕ) (bytes : List Byte) :
    (codec.decodeAll count bytes).length = count := by
  induction count generalizing bytes with
  | zero => rfl
  | succ count ih => rw [decodeAll, List.length_cons, ih]

theorem length_encodeAll (values : List α) :
    (codec.encodeAll values).length = values.length * codec.size := by
  induction values with
  | nil => simp [encodeAll]
  | cons value values ih =>
      unfold encodeAll at ih ⊢
      rw [List.flatMap_cons, List.length_append, ih, codec.length_encode,
        List.length_cons, Nat.succ_mul, Nat.add_comm]

theorem decodeAll_encodeAll (values : List α) (rest : List Byte) :
    codec.decodeAll values.length (codec.encodeAll values ++ rest) =
      values := by
  induction values with
  | nil => rfl
  | cons value values ih =>
      unfold encodeAll at ih ⊢
      rw [List.flatMap_cons, List.append_assoc, List.length_cons, decodeAll,
        codec.decode_encode, List.drop_left' (codec.length_encode value), ih]

theorem encodeAll_decodeAll (count : ℕ) (bytes : List Byte)
    (hlong : count * codec.size ≤ bytes.length) :
    codec.encodeAll (codec.decodeAll count bytes) =
      bytes.take (count * codec.size) := by
  induction count generalizing bytes with
  | zero => simp [decodeAll, encodeAll]
  | succ count ih =>
      rw [Nat.succ_mul] at hlong
      have hrest : count * codec.size ≤ (bytes.drop codec.size).length := by
        rw [List.length_drop]
        omega
      have hnext := ih (bytes.drop codec.size) hrest
      unfold encodeAll at hnext ⊢
      rw [decodeAll, List.flatMap_cons, hnext,
        codec.encode_decode bytes (by omega), Nat.succ_mul, Nat.add_comm,
        List.take_add]

/-- One value after the other. -/
def vector (count : ℕ) : RecordCodec (Vector α count) where
  size := count * codec.size
  encode values := codec.encodeAll values.toList
  decode bytes :=
    ⟨(codec.decodeAll count bytes).toArray, codec.length_decodeAll count bytes⟩
  length_encode values := by
    rw [length_encodeAll, Vector.length_toList]
  decode_encode values rest := by
    have hvalues := codec.decodeAll_encodeAll values.toList rest
    rw [Vector.length_toList] at hvalues
    apply Vector.toList_inj.mp
    change (codec.decodeAll count (codec.encodeAll values.toList ++
      rest)).toArray.toList = values.toList
    rw [hvalues]
  encode_decode bytes hlong := codec.encodeAll_decodeAll count bytes hlong

end Vectors

end RecordCodec
