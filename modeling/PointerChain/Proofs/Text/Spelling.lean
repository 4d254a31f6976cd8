import Mathlib.Data.Nat.Digits.Defs
import Mathlib.Tactic.ByContra
import PointerChain.Proofs.Text.Literal

/-!
# What digits spell

A numeral is a row of digits of some alphabet, in which the digits stand in the order of their
values; the size of the alphabet is the base. Readers of numerals are compared with this.

* `IsNumeral` relates a numeral to its number.
* `ofDigits_map_idxOf` says that digits that are read from left to right give the number.
* `readHex?_eq_some_iff` is the reader of base sixteen.
-/

namespace PointerChain.Text

/-- The digits of base sixteen in order. -/
def hexRow : List Char :=
  ['0', '1', '2', '3', '4', '5', '6', '7', '8', '9', 'a', 'b', 'c', 'd', 'e', 'f']

/-- The digits of base ten in order. -/
def decimalRow : List Char := ['0', '1', '2', '3', '4', '5', '6', '7', '8', '9']

/-- Characters that are digits of an alphabet without regard to case, at least one, with the number
that they spell: the digit on the right has its place in the alphabet for its value, and each
further one counts as many times more as the alphabet has digits. -/
structure IsNumeral (row cs : List Char) (n : Nat) : Prop where
  ne_nil : cs ≠ []
  toLower_mem : ∀ c ∈ cs, c.toLower ∈ row
  value_eq : n = Nat.ofDigits row.length (cs.reverse.map fun c => row.idxOf c.toLower)

variable {row cs : List Char} {n m : Nat} {c : Char}

/-- Digits spell one number. -/
theorem IsNumeral.unique (h : IsNumeral row cs n) (h' : IsNumeral row cs m) : n = m :=
  h.value_eq.trans h'.value_eq.symm

/-- The number that digits spell is built up from the first digit to the last. -/
theorem ofDigits_map_idxOf (row cs : List Char) :
    ofDigits row.length (cs.map fun c => row.idxOf c.toLower) =
      Nat.ofDigits row.length (cs.reverse.map fun c => row.idxOf c.toLower) := by
  rw [Nat.ofDigits_eq_foldr, List.map_reverse, List.foldr_reverse, ofDigits]
  congr 1
  funext n d
  exact Nat.add_comm _ _

/-! ### Base sixteen -/

/-- Outside ASCII there are no capital letters that have small ones among the digits. -/
theorem toLower_of_not_ascii (h : ¬c.toNat < 128) : c.toLower = c := by
  have hc : 128 ≤ c.val.toNat := Nat.le_of_not_lt h
  unfold Char.toLower
  rw [dif_neg]
  rintro ⟨-, hle⟩
  have hle : c.val.toNat ≤ 90 := hle
  omega

theorem hexDigit?_of_not_ascii (h : ¬c.toNat < 128) : hexDigit? c = none := by
  have hc : 128 ≤ c.val.toNat := Nat.le_of_not_lt h
  have hrange {low high : Char} (hhigh : high.val.toNat < 128) : ¬(low ≤ c ∧ c ≤ high) := by
    rintro ⟨-, hle⟩
    have hle : c.val.toNat ≤ high.val.toNat := hle
    omega
  rw [hexDigit?, if_neg (hrange (by decide)), if_neg (hrange (by decide)),
    if_neg (hrange (by decide))]

/-- The value of a digit in either case is its place in the row of digits. -/
theorem hexDigit?_eq (c : Char) :
    hexDigit? c = if c.toLower ∈ hexRow then some (hexRow.idxOf c.toLower) else none := by
  by_cases hc : c.toNat < 128
  · -- All ASCII characters are looked through; outside of ASCII there is no digit on either side.
    have hascii : ∀ k < 128, hexDigit? (Char.ofNat k) =
        if (Char.ofNat k).toLower ∈ hexRow then some (hexRow.idxOf (Char.ofNat k).toLower)
        else none := by decide
    have hdigit := hascii c.toNat hc
    rwa [Char.ofNat_toNat] at hdigit
  · have hrow : ∀ d ∈ hexRow, d.toNat < 128 := by simp [hexRow]
    rw [toLower_of_not_ascii hc, hexDigit?_of_not_ascii hc, if_neg fun hmem => hc (hrow c hmem)]

/-- Exactly the numerals in base sixteen are read, and as the numbers that they spell. -/
theorem readHex?_eq_some_iff : readHex? cs = some n ↔ IsNumeral hexRow cs n := by
  -- The value of a row of digits is the same whether it is built from the front or from the back.
  have hread (hne : cs ≠ []) (hmem : ∀ c ∈ cs, c.toLower ∈ hexRow) : readHex? cs =
      some (Nat.ofDigits hexRow.length (cs.reverse.map fun c => hexRow.idxOf c.toLower)) := by
    have hdigits : ∀ c ∈ cs, hexDigit? c = some (hexRow.idxOf c.toLower) := fun c hc => by
      rw [hexDigit?_eq, if_pos (hmem c hc)]
    obtain ⟨c, cs, rfl⟩ := List.exists_cons_of_ne_nil hne
    rw [readHex?, appendHex?_of_forall hdigits, ← ofDigits_map_idxOf]
    rfl
  constructor
  · intro h
    have hne : cs ≠ [] := by
      rintro rfl
      cases h
    have hmem : ∀ c ∈ cs, c.toLower ∈ hexRow := by
      intro c hc
      have hsome := isSome_hexDigit?_of_readHex? h c hc
      rw [hexDigit?_eq] at hsome
      by_contra hnot
      rw [if_neg hnot] at hsome
      cases hsome
    exact ⟨hne, hmem, Option.some.inj (h.symm.trans (hread hne hmem))⟩
  · intro h
    rw [hread h.ne_nil h.toLower_mem, h.value_eq]

end PointerChain.Text
