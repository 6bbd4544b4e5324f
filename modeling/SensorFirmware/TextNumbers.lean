import SensorFirmware.Checksum

/-!
# Numbers in text

The conversions of the C library that read request headers and file names.
-/

namespace SensorFirmware

/-- `isspace` in the C locale. -/
def isSpace (c : Char) : Bool :=
  c == ' ' || ('\t' ≤ c && c ≤ '\r')

def digitsValue : List Char → ℕ → ℕ
  | [], value => value
  | c :: rest, value =>
      if c.isDigit then digitsValue rest (value * 10 + (c.toNat - 48))
      else value

/-- Sign and magnitude of the decimal prefix. -/
def decimalPrefix (text : List Char) : Bool × ℕ :=
  match text.dropWhile isSpace with
  | '-' :: rest => (true, digitsValue rest 0)
  | '+' :: rest => (false, digitsValue rest 0)
  | rest => (false, digitsValue rest 0)

/-- `strtoul` with 32-bit `unsigned long`: saturates, and negates a number with
a minus sign. -/
def strtoul (text : List Char) : ℕ :=
  let (negative, value) := decimalPrefix text
  if 2 ^ 32 ≤ value then 2 ^ 32 - 1
  else if negative then u32 (2 ^ 32 - value)
  else value

theorem strtoul_lt (text : List Char) : strtoul text < 2 ^ 32 := by
  unfold strtoul u32
  dsimp only
  split_ifs <;> omega

/-- `strtol` with 32-bit `long`, which is also `atoi` and `String::toInt`. -/
def strtol (text : List Char) : ℤ :=
  let (negative, value) := decimalPrefix text
  let signed : ℤ := if negative then -value else value
  max (-2 ^ 31) (min (2 ^ 31 - 1) signed)

/-- Conversion of a `long` to an unsigned 32-bit word. -/
def toUnsigned (value : ℤ) : ℕ := (value % 2 ^ 32).toNat

/-! ## Decimal digits -/

theorem digitsValue_append {digits : List Char}
    (hdigits : ∀ c ∈ digits, c.isDigit = true) (rest : List Char) (value : ℕ) :
    digitsValue (digits ++ rest) value =
      digitsValue rest (Nat.ofDigitChars 10 digits value) := by
  induction digits generalizing value with
  | nil => rw [List.nil_append, Nat.ofDigitChars_nil]
  | cons c digits ih =>
      have hzero : '0'.toNat = 48 := rfl
      have hlater := ih fun other hother => hdigits other (.tail c hother)
      rw [List.cons_append, digitsValue, if_pos (hdigits c (.head digits)),
        hlater, Nat.ofDigitChars_cons, Nat.mul_comm value 10, hzero]

theorem decimalPrefix_cons {c : Char} (hdigit : c.isDigit = true)
    (text : List Char) :
    decimalPrefix (c :: text) = (false, digitsValue (c :: text) 0) := by
  obtain ⟨hzero, hnine⟩ := Char.isDigit_iff_toNat.mp hdigit
  have hlow : 48 ≤ c.toNat := hzero
  have hspace : isSpace c = false := by
    have hblank : c ≠ ' ' := by
      rintro rfl
      exact absurd hlow (by decide)
    have hreturn : ¬c ≤ '\r' := by
      intro hle
      have hhigh : c.toNat ≤ 13 := hle
      omega
    simp [isSpace, hblank, hreturn]
  have hminus : c ≠ '-' := by
    rintro rfl
    exact absurd hlow (by decide)
  have hplus : c ≠ '+' := by
    rintro rfl
    exact absurd hlow (by decide)
  unfold decimalPrefix
  rw [List.dropWhile_cons_of_neg (by simp [hspace])]
  split
  · next heq => exact absurd (List.cons.inj heq).1 hminus
  · next heq => exact absurd (List.cons.inj heq).1 hplus
  · rfl

/-- A number in decimal is read up to what is not a digit. -/
theorem strtol_append {digits rest : List Char} (hnonempty : digits ≠ [])
    (hdigits : ∀ c ∈ digits, c.isDigit = true)
    (hrest : ∀ c ∈ rest.head?, c.isDigit = false) :
    strtol (digits ++ rest) =
      min (2 ^ 31 - 1) (Nat.ofDigitChars 10 digits 0 : ℤ) := by
  have hvalue : digitsValue (digits ++ rest) 0 =
      Nat.ofDigitChars 10 digits 0 := by
    rw [digitsValue_append hdigits]
    cases rest with
    | nil => rfl
    | cons c rest =>
        have hend := hrest c rfl
        rw [digitsValue, hend]
        rfl
  have hprefix : decimalPrefix (digits ++ rest) =
      (false, Nat.ofDigitChars 10 digits 0) := by
    rw [← hvalue]
    cases digits with
    | nil => exact absurd rfl hnonempty
    | cons c digits =>
        exact decimalPrefix_cons (hdigits c (.head digits)) (digits ++ rest)
  rw [strtol, hprefix]
  simp only [Bool.false_eq_true, if_false]
  omega

end SensorFirmware
