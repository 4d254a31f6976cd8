import PointerChain.Proofs.Listing.Reading
import PointerChain.Proofs.Text.Spelling

/-!
# Numbers in fields

A field that should hold a number may hold any text. It has a number if it spells an integer of 64
bits in ASCII digits, with or without a sign, and no number otherwise.

* `SpellsInteger` relates a field to the integer that it spells, `IsNumberOf` to its number.
* `readNumber_eq_ok_iff` and `readNumber_of_isOverlong` say what is read of a field.
-/

namespace PointerChain.Listing

open Text (IsNumeral decimalRow)

/-! ### Integers -/

/-- Digits of base ten, with or without a sign in front, and the integer that they spell. -/
inductive SpellsInteger : List Char → Int → Prop
  | unsigned {digits : List Char} {n : Nat} (h : IsNumeral decimalRow digits n) :
      SpellsInteger digits n
  | plus {digits : List Char} {n : Nat} (h : IsNumeral decimalRow digits n) :
      SpellsInteger ('+' :: digits) n
  | minus {digits : List Char} {n : Nat} (h : IsNumeral decimalRow digits n) :
      SpellsInteger ('-' :: digits) (-n)

/-- The number of a field is the integer of 64 bits that the field spells, and there is none if it
spells none. -/
def IsNumberOf (field : List Char) (number : Option Int64) : Prop :=
  ∀ n : Int64, number = some n ↔ SpellsInteger field n.toInt

variable {field cs : List Char} {c : Char} {number : Option Int64}

/-- An ASCII digit has its place in the row of digits for its value. -/
theorem isDigit_iff : isDigit c = true ↔ c.toLower ∈ decimalRow := by
  by_cases hc : c.toNat < 128
  · -- All ASCII characters are looked through; outside of ASCII there is no digit on either side.
    have hascii : ∀ k < 128,
        isDigit (Char.ofNat k) = true ↔ (Char.ofNat k).toLower ∈ decimalRow := by decide
    have hdigit := hascii c.toNat hc
    rwa [Char.ofNat_toNat] at hdigit
  · have hrow : ∀ d ∈ decimalRow, d.toNat < 128 := by simp [decimalRow]
    rw [Text.toLower_of_not_ascii hc, iff_false_right fun hmem => hc (hrow c hmem)]
    intro hdigit
    have hle : c ≤ '9' := by simpa using (Bool.and_eq_true_iff.mp hdigit).2
    exact hc (Nat.lt_of_le_of_lt hle (by decide))

theorem idxOf_decimalRow (h : isDigit c = true) :
    c.toNat - '0'.toNat = decimalRow.idxOf c.toLower := by
  have hall : ∀ k < 58, isDigit (Char.ofNat k) = true →
      (Char.ofNat k).toNat - '0'.toNat = decimalRow.idxOf (Char.ofNat k).toLower := by decide
  have hle : c ≤ '9' := by simpa using (Bool.and_eq_true_iff.mp h).2
  have hdigit := hall c.toNat (Nat.lt_succ_of_le hle)
  rw [Char.ofNat_toNat] at hdigit
  exact hdigit h

/-- ASCII digits spell the number that they are read as. -/
theorem isNumeral_decimalRow_iff {n : Nat} :
    IsNumeral decimalRow cs n ↔
      cs ≠ [] ∧ (∀ c ∈ cs, isDigit c = true) ∧ n = digitsValue cs := by
  have hvalue (hdigits : ∀ c ∈ cs, isDigit c = true) : digitsValue cs =
      Nat.ofDigits decimalRow.length (cs.reverse.map fun c => decimalRow.idxOf c.toLower) := by
    rw [← Text.ofDigits_map_idxOf, digitsValue,
      List.map_congr_left fun c hc => idxOf_decimalRow (hdigits c hc)]
    rfl
  constructor
  · rintro ⟨hne, hmem, rfl⟩
    have hdigits : ∀ c ∈ cs, isDigit c = true := fun c hc => isDigit_iff.mpr (hmem c hc)
    exact ⟨hne, hdigits, (hvalue hdigits).symm⟩
  · rintro ⟨hne, hdigits, rfl⟩
    exact ⟨hne, fun c hc => isDigit_iff.mp (hdigits c hc), hvalue hdigits⟩

/-- The sign of a field is split off its digits. -/
theorem spellsInteger_iff {n : Int} :
    SpellsInteger field n ↔ ∃ m : Nat, IsNumeral decimalRow (Text.splitSign field).2 m ∧
      n = if (Text.splitSign field).1 then -(m : Int) else m := by
  constructor
  · rintro (h | h | h)
    · -- Digits start with no sign.
      have hdigits := (isNumeral_decimalRow_iff.mp h).2.1
      have hsplit : Text.splitSign field = (false, field) := by
        unfold Text.splitSign
        split
        next cs => exact absurd (hdigits '-' List.mem_cons_self) (by decide)
        next cs => exact absurd (hdigits '+' List.mem_cons_self) (by decide)
        next => rfl
      rw [hsplit]
      exact ⟨_, h, rfl⟩
    · exact ⟨_, h, rfl⟩
    · exact ⟨_, h, rfl⟩
  · rintro ⟨m, h, rfl⟩
    unfold Text.splitSign at h ⊢
    split at h
    next cs => exact .minus h
    next cs => exact .plus h
    next => exact .unsigned h

/-! ### Reading fields -/

theorem isNumberOf_none (h : ∀ n, ¬SpellsInteger field n) : IsNumberOf field none :=
  fun _ => ⟨fun hn => (nomatch hn), fun hn => absurd hn (h _)⟩

/-- A field that spells an integer has this number, if the integer has 64 bits. -/
theorem isNumberOf_ite {value : Int} (h : ∀ n, SpellsInteger field n ↔ n = value) :
    IsNumberOf field (if FitsInt64 value then some (Int64.ofInt value) else none) := by
  by_cases hfits : FitsInt64 value
  · intro n
    rw [if_pos hfits, h, Option.some_inj]
    constructor
    · rintro rfl
      exact Int64.toInt_ofInt_of_le hfits.1 hfits.2
    · rintro rfl
      exact Int64.ofInt_toInt n
  · rw [if_neg hfits]
    intro n
    rw [h, iff_false_left (by simp)]
    rintro rfl
    exact hfits ⟨n.le_toInt, n.toInt_lt⟩

/-- A field has one number, or none. -/
theorem IsNumberOf.unique {number' : Option Int64} (h : IsNumberOf field number)
    (h' : IsNumberOf field number') : number = number' :=
  Option.ext fun n => (h n).trans (h' n).symm

/-- Zeros spell zero, however many there are. -/
theorem isNumberOf_replicate_zero (k : Nat) :
    IsNumberOf (List.replicate (k + 1) '0') (some 0) := by
  have hzeros : IsNumeral decimalRow (List.replicate (k + 1) '0') 0 := by
    refine ⟨List.cons_ne_nil _ _, fun c hc => ?_, ?_⟩
    · rw [List.eq_of_mem_replicate hc]
      exact List.mem_cons_self
    · rw [List.reverse_replicate, List.map_replicate]
      exact Nat.ofDigits_replicate_zero.symm
  have hspells (n : Int) : SpellsInteger (List.replicate (k + 1) '0') n ↔ n = 0 := by
    constructor
    · intro h
      obtain ⟨m, hm, rfl⟩ := spellsInteger_iff.mp h
      exact congrArg Nat.cast (hm.unique hzeros)
    · rintro rfl
      exact .unsigned hzeros
  exact isNumberOf_ite hspells

/-- An overlong field is not read. -/
theorem readNumber_of_isOverlong (h : IsOverlong field) :
    readNumber field = .error ⟨(Text.splitSign field).2.length⟩ := by
  have hempty : (Text.splitSign field).2.isEmpty = false := by
    rw [List.isEmpty_eq_false_iff_exists_mem, ← List.length_pos_iff_exists_mem]
    exact Nat.zero_lt_of_lt h.2
  simp only [readNumber, hempty, List.all_eq_true.mpr h.1, if_pos h.2]
  rfl

/-- Zeros are overlong if there are more of them than digits are read. -/
theorem readNumber_replicate_zero {k : Nat} (h : Text.maxDigits ≤ k) :
    readNumber (List.replicate (k + 1) '0') = .error ⟨k + 1⟩ := by
  have hsplit : Text.splitSign (List.replicate (k + 1) '0') =
      (false, List.replicate (k + 1) '0') := rfl
  have hoverlong : IsOverlong (List.replicate (k + 1) '0') := by
    rw [IsOverlong, hsplit, List.length_replicate]
    refine ⟨fun c hc => ?_, Nat.lt_succ_of_le h⟩
    rw [List.eq_of_mem_replicate hc]
    rfl
  rw [readNumber_of_isOverlong hoverlong, hsplit, List.length_replicate]

/-- Any other field is read as its number. -/
theorem exists_readNumber_isNumberOf (h : ¬IsOverlong field) :
    ∃ number, readNumber field = .ok number ∧ IsNumberOf field number := by
  by_cases hdigits : (Text.splitSign field).2 ≠ [] ∧
      ∀ c ∈ (Text.splitSign field).2, isDigit c = true
  · have hempty : (Text.splitSign field).2.isEmpty = false := by simpa using hdigits.1
    have hlength : ¬Text.maxDigits < (Text.splitSign field).2.length :=
      fun hlength => h ⟨hdigits.2, hlength⟩
    have hspells (n : Int) : SpellsInteger field n ↔ n =
        if (Text.splitSign field).1 then -(digitsValue (Text.splitSign field).2 : Int)
        else digitsValue (Text.splitSign field).2 := by
      simp only [spellsInteger_iff, isNumeral_decimalRow_iff, and_assoc, exists_and_left,
        exists_eq_left, hdigits.1, ne_eq, not_false_eq_true, true_and]
      exact and_iff_right hdigits.2
    refine ⟨_, ?_, isNumberOf_ite hspells⟩
    simp only [readNumber, hempty, List.all_eq_true.mpr hdigits.2, if_neg hlength]
    rfl
  · -- What does not consist of digits behind its sign spells nothing, and no number is read.
    have hnone (n : Int) : ¬SpellsInteger field n := by
      rw [spellsInteger_iff]
      rintro ⟨m, hm, -⟩
      obtain ⟨hne, hall, -⟩ := isNumeral_decimalRow_iff.mp hm
      exact hdigits ⟨hne, hall⟩
    refine ⟨none, ?_, isNumberOf_none hnone⟩
    have hrefused : ((Text.splitSign field).2.isEmpty ||
        !(Text.splitSign field).2.all isDigit) = true := by
      rw [Bool.or_eq_true, List.isEmpty_iff, Bool.not_eq_true', ← Bool.not_eq_true,
        List.all_eq_true]
      exact Decidable.or_iff_not_imp_left.mpr fun hne hall => hdigits ⟨hne, hall⟩
    simp only [readNumber, if_pos hrefused]

/-- What is read of a field is its number, and only overlong fields are not read. -/
theorem readNumber_eq_ok_iff :
    readNumber field = .ok number ↔ ¬IsOverlong field ∧ IsNumberOf field number := by
  constructor
  · intro h
    have hlength : ¬IsOverlong field := fun hoverlong => by
      rw [readNumber_of_isOverlong hoverlong] at h
      cases h
    obtain ⟨number', hread, hnumber⟩ := exists_readNumber_isNumberOf hlength
    obtain rfl : number' = number := Except.ok.inj (hread.symm.trans h)
    exact ⟨hlength, hnumber⟩
  · rintro ⟨hlength, hnumber⟩
    obtain ⟨number', hread, hnumber'⟩ := exists_readNumber_isNumberOf hlength
    rw [hread, hnumber'.unique hnumber]

end PointerChain.Listing
