import Mathlib.Algebra.Group.Int.Defs
import Mathlib.Algebra.Group.Nat.Defs
import PointerChain.Expression.Value
import PointerChain.Proofs.Module.LookUp
import PointerChain.Proofs.Text.Hex

/-!
# Numbers as operands

A number has its own value in an expression, unless a module has the number for its name. This goes
for pointers that are put into an expression as for numbers that stood there before.
-/

namespace PointerChain

namespace Expression

/-- Behind one marker, a text without the letter of the marker has no further one. -/
theorem dropMarkers_of_not_mem {cs : List Char} (h : 'x' ∉ cs) :
    dropMarkers ('0' :: 'x' :: cs) = cs := by
  rw [dropMarkers]
  unfold dropMarkers
  split
  · simp at h
  · rfl

theorem numberValue_of_lt {text : String} {n : Nat}
    (h : Text.readHex? (dropMarkers text.toList) = some n) (hlt : n < 2 ^ 64) :
    numberValue text = .ok (UInt64.ofNat n) := by
  have hfits : FitsUInt64 n := by
    unfold FitsUInt64
    omega
  rw [numberValue, h]
  simp [hfits]

theorem numberValue_of_not_lt {text : String} {n : Nat}
    (h : Text.readHex? (dropMarkers text.toList) = some n) (hlt : ¬ n < 2 ^ 64) :
    numberValue text = .error .tooLarge := by
  have hfits : ¬ FitsUInt64 n := by
    unfold FitsUInt64
    omega
  rw [numberValue, h]
  simp [hfits]

/-- A number has a value exactly if it fits into 64 bits. -/
theorem numberValue_eq_ok_iff {text : String} {a : Address} :
    numberValue text = .ok a ↔
      Text.readHex? (dropMarkers text.toList) = some a.toNat := by
  constructor
  · intro h
    cases hread : Text.readHex? (dropMarkers text.toList) with
    | none =>
      rw [numberValue, hread] at h
      cases h
    | some n =>
      by_cases hlt : n < 2 ^ 64
      · rw [numberValue_of_lt hread hlt] at h
        obtain rfl := Except.ok.inj h
        rw [UInt64.toNat_ofNat_of_lt' hlt]
      · rw [numberValue_of_not_lt hread hlt] at h
        cases h
  · intro h
    rw [numberValue_of_lt h a.toNat_lt, UInt64.ofNat_toNat]

/-- Behind the marker, the digits of a 64-bit number have its value, in either case. -/
theorem numberValue_numeral {digits : List Char} {n : Nat}
    (hdigits : ∀ c ∈ digits, ∃ d, Text.IsHexDigit c d) (hread : Text.readHex? digits = some n)
    (hlt : n < 2 ^ 64) :
    numberValue (String.ofList ('0' :: 'x' :: digits)) = .ok (UInt64.ofNat n) := by
  have hmarker : 'x' ∉ digits := by
    intro hx
    obtain ⟨d, hd⟩ := hdigits 'x' hx
    exact hd.ne_x rfl
  refine numberValue_of_lt ?_ hlt
  rw [String.toList_ofList, dropMarkers_of_not_mem hmarker, hread]

/-- A 64-bit number in upper case has its own value. -/
theorem numberValue_upperHexText (v : Address) :
    numberValue (Text.upperHexText v.toNat) = .ok v := by
  have hread : Text.readHex? (Text.upperDigits v.toNat) = some v.toNat :=
    Text.readHex?_map_hexDigits (fun _ hd => (Text.isHexDigit_toUpper hd).hexDigit?_eq) v.toNat
  rw [Text.upperHexText_eq_ofList,
    numberValue_numeral (fun _ => Text.isHexDigit_of_mem_upperDigits) hread v.toNat_lt,
    UInt64.ofNat_toNat]

/-- A 64-bit number in lower case has its own value. -/
theorem numberValue_hexText {n : Nat} (hlt : n < 2 ^ 64) :
    numberValue (Text.hexText n) = .ok (UInt64.ofNat n) := by
  have hread : Text.readHex? ((Text.hexDigits n).map id) = some n :=
    Text.readHex?_map_hexDigits (fun _ hd => (Text.isHexDigit_digitChar hd).hexDigit?_eq) n
  rw [List.map_id] at hread
  rw [Text.hexText_eq_ofList,
    numberValue_numeral (fun _ => Text.isHexDigit_of_mem_hexDigits) hread hlt]

/-- A number stands for the module that has it for its name, if there is one, and for itself
otherwise. -/
theorem valueOf_of_numberValue (table : ModuleTable) {text : String} {v : Address}
    (h : numberValue text = .ok v) :
    valueOf table text = .ok (((table.find? text).map Module.base).getD v) := by
  rw [valueOf]
  cases table.find? text with
  | some m => rfl
  | none => exact h

/-- A pointer that was put into an expression stands for the module with the number for its name, if
there is one, and for itself otherwise. -/
theorem valueOf_upperHexText_eq (table : ModuleTable) (v : Address) :
    valueOf table (Text.upperHexText v.toNat) =
      .ok (((table.find? (Text.upperHexText v.toNat)).map Module.base).getD v) :=
  valueOf_of_numberValue table (numberValue_upperHexText v)

/-- A pointer that was put into an expression has its own value, unless a module has the number for
its name. -/
theorem valueOf_upperHexText {table : ModuleTable} {v : Address}
    (h : ∀ m ∈ table.modules, m.name.lower ≠ Text.hexText v.toNat) :
    valueOf table (Text.upperHexText v.toNat) = .ok v := by
  have hnone : table.find? (Text.upperHexText v.toNat) = none := by
    rw [ModuleTable.find?_ofString_eq_none_iff, Text.lower_upperHexText]
    exact h
  rw [valueOf_upperHexText_eq, hnone]
  rfl

end Expression

end PointerChain
