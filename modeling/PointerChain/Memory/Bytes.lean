/-!
# Bytes and words

Memory is read as bytes. Words are stored with the least significant byte first.

* `littleEndian` and `ofLittleEndian` write and read words; `ofLittleEndian_littleEndian` says that
  reading undoes writing up to the width.
* `slice` takes bytes out of a buffer.
-/

namespace PointerChain

/-- A row of bytes. -/
abbrev Bytes := List UInt8

namespace Bytes

/-- The lowest `width` bytes of a number, least significant first. -/
def littleEndian : Nat → Nat → Bytes
  | 0, _ => []
  | width + 1, n => UInt8.ofNat (n % 256) :: littleEndian width (n / 256)

/-- The number that bytes spell, least significant first. -/
def ofLittleEndian : Bytes → Nat
  | [] => 0
  | b :: bs => b.toNat + 256 * ofLittleEndian bs

/-- Writing a word takes as many bytes as it is wide. -/
@[simp]
theorem length_littleEndian (width n : Nat) : (littleEndian width n).length = width := by
  induction width generalizing n with
  | zero => rfl
  | succ width ih => simp [littleEndian, ih]

/-- Reading a word undoes writing it, up to its width. -/
theorem ofLittleEndian_littleEndian (width n : Nat) :
    ofLittleEndian (littleEndian width n) = n % Nat.pow 256 width := by
  induction width generalizing n with
  | zero => simp [littleEndian, ofLittleEndian, Nat.mod_one]
  | succ width ih =>
    have step : Nat.pow 256 (width + 1) = 256 * Nat.pow 256 width := Nat.mul_comm _ _
    rw [littleEndian, ofLittleEndian, ih, step, Nat.mod_mul]
    simp

/-- What bytes spell is bounded by their number. -/
theorem ofLittleEndian_lt (bytes : Bytes) : ofLittleEndian bytes < Nat.pow 256 bytes.length := by
  induction bytes with
  | nil => simp [ofLittleEndian]
  | cons b bs ih =>
    have bound : b.toNat < 256 := b.toNat_lt
    have step : Nat.pow 256 (bs.length + 1) = Nat.pow 256 bs.length * 256 := rfl
    rw [ofLittleEndian, List.length_cons, step]
    omega

/-- The bytes from a start until a stop. A stop below zero counts from the end, and both ends are
clipped to the buffer. -/
def slice (bytes : Bytes) (start stop : Int) : Bytes :=
  let stop := if stop < 0 then stop + bytes.length else stop
  (bytes.take stop.toNat).drop start.toNat

/-- A slice inside the buffer is as long as the distance of its ends. -/
theorem length_slice {bytes : Bytes} {start stop : Int} (h₀ : 0 ≤ start) (h₁ : start ≤ stop)
    (h₂ : stop ≤ bytes.length) : ((bytes.slice start stop).length : Int) = stop - start := by
  have : ¬ stop < 0 := by omega
  simp only [slice, this, if_false, List.length_drop, List.length_take]
  omega

end Bytes

end PointerChain
