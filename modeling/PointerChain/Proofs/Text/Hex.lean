import PointerChain.Text.Hex
import PointerChain.Text.LetterCase
import PointerChain.Text.WordChar

/-!
# Hexadecimal numerals read back

What is written in base sixteen reads back as the number that was written, in either case.

* `hexDigits_eq_append` splits the last digit off, `IsHexDigit` is a digit in either case.
* `readHex?_map_hexDigits` reads digits in any spelling in which each of them is read.
* `lower_upperHexText` turns a numeral in upper case into one in lower case.
-/

namespace PointerChain.Text

/-! ### Digits -/

/-- A digit in either case, with its value. It is a word character and not the letter of the
marker. -/
structure IsHexDigit (c : Char) (d : Nat) : Prop where
  isAscii : c.val < 128
  isWord : isWord c = true
  ne_x : c ≠ 'x'
  hexDigit?_eq : hexDigit? c = some d
  toLower_eq : c.toLower = Nat.digitChar d

theorem isHexDigit_digitChar {d : Nat} (h : d < 16) : IsHexDigit (Nat.digitChar d) d := by
  have hdigits : ∀ d < 16, (Nat.digitChar d).val < 128 ∧ isWord (Nat.digitChar d) = true ∧
      Nat.digitChar d ≠ 'x' ∧ hexDigit? (Nat.digitChar d) = some d ∧
      (Nat.digitChar d).toLower = Nat.digitChar d := by decide
  obtain ⟨hascii, hword, hne, hvalue, hlower⟩ := hdigits d h
  exact ⟨hascii, hword, hne, hvalue, hlower⟩

theorem isHexDigit_toUpper {d : Nat} (h : d < 16) :
    IsHexDigit (Nat.digitChar d).toUpper d := by
  have hdigits : ∀ d < 16, (Nat.digitChar d).toUpper.val < 128 ∧
      isWord (Nat.digitChar d).toUpper = true ∧ (Nat.digitChar d).toUpper ≠ 'x' ∧
      hexDigit? (Nat.digitChar d).toUpper = some d ∧
      (Nat.digitChar d).toUpper.toLower = Nat.digitChar d := by decide
  obtain ⟨hascii, hword, hne, hvalue, hlower⟩ := hdigits d h
  exact ⟨hascii, hword, hne, hvalue, hlower⟩

/-- The digits of a number are those of its sixteenth part, and its last digit. -/
theorem hexDigits_eq_append (n : Nat) :
    hexDigits n = (if n < 16 then [] else hexDigits (n / 16)) ++ [Nat.digitChar (n % 16)] := by
  rw [hexDigits, Nat.toDigits_eq_if (by omega)]
  split
  next h => rw [Nat.mod_eq_of_lt h, List.nil_append]
  next => rfl

theorem hexDigits_ne_nil (n : Nat) : hexDigits n ≠ [] := by
  rw [hexDigits_eq_append]
  simp

theorem exists_of_mem_hexDigits {n : Nat} {c : Char} (h : c ∈ hexDigits n) :
    ∃ d < 16, c = Nat.digitChar d := by
  induction n using Nat.strongRecOn with
  | ind n ih =>
    rw [hexDigits_eq_append, List.mem_append, List.mem_singleton] at h
    rcases h with h | rfl
    · by_cases hn : n < 16
      · simp [hn] at h
      · rw [if_neg hn] at h
        exact ih (n / 16) (by omega) h
    · exact ⟨n % 16, by omega, rfl⟩

theorem isHexDigit_of_mem_hexDigits {n : Nat} {c : Char} (h : c ∈ hexDigits n) :
    ∃ d, IsHexDigit c d := by
  obtain ⟨d, hd, rfl⟩ := exists_of_mem_hexDigits h
  exact ⟨d, isHexDigit_digitChar hd⟩

/-- The digits of a number in upper case. -/
def upperDigits (n : Nat) : List Char := (hexDigits n).map Char.toUpper

theorem isHexDigit_of_mem_upperDigits {n : Nat} {c : Char} (h : c ∈ upperDigits n) :
    ∃ d, IsHexDigit c d := by
  obtain ⟨c, hc, rfl⟩ := List.mem_map.mp h
  obtain ⟨d, hd, rfl⟩ := exists_of_mem_hexDigits hc
  exact ⟨d, isHexDigit_toUpper hd⟩

theorem toList_hexText (n : Nat) : (hexText n).toList = '0' :: 'x' :: hexDigits n := by
  simp [hexText]

theorem toList_upperHexText (n : Nat) :
    (upperHexText n).toList = '0' :: 'x' :: upperDigits n := by
  simp [upperHexText, upperDigits]

theorem hexText_eq_ofList (n : Nat) : hexText n = String.ofList ('0' :: 'x' :: hexDigits n) := by
  rw [← toList_hexText, String.ofList_toList]

theorem upperHexText_eq_ofList (n : Nat) :
    upperHexText n = String.ofList ('0' :: 'x' :: upperDigits n) := by
  rw [← toList_upperHexText, String.ofList_toList]

/-! ### Reading -/

theorem appendHex?_append (n : Nat) (xs ys : List Char) :
    appendHex? n (xs ++ ys) = (appendHex? n xs).bind fun m => appendHex? m ys := by
  induction xs generalizing n with
  | nil => rfl
  | cons c xs ih =>
    rw [List.cons_append, appendHex?, appendHex?]
    cases hexDigit? c with
    | none => rfl
    | some d => exact ih (16 * n + d)

/-- The digits of a number read back as the number, in any spelling in which each digit is read. -/
theorem readHex?_map_hexDigits {spell : Char → Char}
    (h : ∀ d < 16, hexDigit? (spell (Nat.digitChar d)) = some d) (n : Nat) :
    readHex? ((hexDigits n).map spell) = some n := by
  -- Reading goes from the first digit to the last, and the last digit is the remainder; so the
  -- digits are split off at the end.
  have happend : appendHex? 0 ((hexDigits n).map spell) = some n := by
    induction n using Nat.strongRecOn with
    | ind n ih =>
      have hlast : hexDigit? (spell (Nat.digitChar (n % 16))) = some (n % 16) :=
        h (n % 16) (Nat.mod_lt n (by omega))
      rw [hexDigits_eq_append, List.map_append, appendHex?_append]
      by_cases hn : n < 16
      · rw [Nat.mod_eq_of_lt hn] at hlast ⊢
        simp [appendHex?, hn, hlast]
      · have hvalue : 16 * (n / 16) + n % 16 = n := Nat.div_add_mod n 16
        rw [if_neg hn, ih (n / 16) (by omega)]
        simp [appendHex?, hlast, hvalue]
  -- A numeral has a digit, so it is read by appending to zero.
  cases hdigits : (hexDigits n).map spell with
  | nil => exact absurd (List.map_eq_nil_iff.mp hdigits) (hexDigits_ne_nil n)
  | cons c cs => rw [readHex?, ← hdigits, happend]

/-! ### Lower case -/

/-- Inside ASCII, the lower-case form of a text is that of its characters. -/
theorem lowerFrom_of_ascii {cs : List Char} (h : ∀ c ∈ cs, c.val < 128) (before : List Char) :
    lowerFrom before cs = cs.map Char.toLower := by
  induction cs generalizing before with
  | nil => rfl
  | cons c cs ih =>
    have hc : c.val < 128 := h c List.mem_cons_self
    have hsigma : c ≠ '\u03a3' := by
      rintro rfl
      exact absurd hc (by decide)
    rw [lowerFrom, if_neg hsigma, lowerChar_of_ascii hc,
      ih fun d hd => h d (List.mem_cons_of_mem c hd)]
    rfl

theorem map_toLower_hexDigits (n : Nat) : (hexDigits n).map Char.toLower = hexDigits n := by
  rw [List.map_congr_left (g := id), List.map_id]
  intro c hc
  obtain ⟨d, hd, rfl⟩ := exists_of_mem_hexDigits hc
  exact (isHexDigit_digitChar hd).toLower_eq

theorem map_toLower_upperDigits (n : Nat) : (upperDigits n).map Char.toLower = hexDigits n := by
  rw [upperDigits, List.map_map, List.map_congr_left (g := id), List.map_id]
  intro c hc
  obtain ⟨d, hd, rfl⟩ := exists_of_mem_hexDigits hc
  exact (isHexDigit_toUpper hd).toLower_eq

/-- Behind the marker, the lower-case form of a numeral is that of its digits. -/
theorem lower_numeral {digits : List Char} (h : ∀ c ∈ digits, ∃ d, IsHexDigit c d) :
    lower (String.ofList ('0' :: 'x' :: digits)) =
      String.ofList ('0' :: 'x' :: digits.map Char.toLower) := by
  have hascii : ∀ c ∈ '0' :: 'x' :: digits, c.val < 128 := by
    intro c hc
    rw [List.mem_cons, List.mem_cons] at hc
    rcases hc with rfl | rfl | hc
    · decide
    · decide
    · obtain ⟨d, hd⟩ := h c hc
      exact hd.isAscii
  rw [lower, String.toList_ofList, lowerFrom_of_ascii hascii]
  rfl

theorem lower_hexText (n : Nat) : lower (hexText n) = hexText n := by
  rw [hexText_eq_ofList, lower_numeral fun _ => isHexDigit_of_mem_hexDigits, map_toLower_hexDigits]

/-- A numeral in upper case is, in lower case, the numeral in lower case. -/
theorem lower_upperHexText (n : Nat) : lower (upperHexText n) = hexText n := by
  rw [upperHexText_eq_ofList, lower_numeral fun _ => isHexDigit_of_mem_upperDigits,
    map_toLower_upperDigits, hexText_eq_ofList]

end PointerChain.Text
