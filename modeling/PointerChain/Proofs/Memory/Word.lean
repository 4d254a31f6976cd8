import Mathlib.Algebra.Group.Int.Defs
import PointerChain.Memory.Reader
import PointerChain.Proofs.Outcome

/-!
# Words in memory

A word is read as bytes, least significant first. It is the number that the bytes of a read spell,
with nothing cut off, provided that they are as many as the word is wide.

* `toNat_ofInt` and `ofInt_toNat` are about integers as words of 64 bits.
* `Bytes.ofLittleEndian_append` takes a wide word apart.
* `MemoryReader.readPointer_of_read` and `MemoryReader.readDword_of_read` make words of bytes that
  are read, and `MemoryReader.exists_of_readPointer` is the way back.
-/

namespace PointerChain

/-- An integer as an address is its remainder modulo `2 ^ 64`. -/
theorem toNat_ofInt (n : Int) : ((UInt64.ofInt n).toNat : Int) = n % 2 ^ 64 := by
  have hlt : (n % 2 ^ 64).toNat < 2 ^ 64 := by omega
  rw [UInt64.ofInt, UInt64.toNat_ofNat', Nat.mod_eq_of_lt hlt]
  omega

theorem ofInt_toNat (a : Address) : UInt64.ofInt a.toNat = a := by
  have hlt : a.toNat < 2 ^ 64 := a.toNat_lt
  have htoNat := toNat_ofInt a.toNat
  apply UInt64.toNat_inj.mp
  omega

/-- What stands behind some bytes counts for more by a factor of 256 for each of them. -/
theorem Bytes.ofLittleEndian_append (xs ys : Bytes) :
    ofLittleEndian (xs ++ ys) = xs.ofLittleEndian + Nat.pow 256 xs.length * ys.ofLittleEndian := by
  induction xs with
  | nil => simp [ofLittleEndian]
  | cons b xs ih =>
    have step : Nat.pow 256 (xs.length + 1) = 256 * Nat.pow 256 xs.length := Nat.mul_comm _ _
    rw [List.cons_append, ofLittleEndian, ih, ofLittleEndian, List.length_cons, step,
      Nat.mul_assoc, Nat.mul_add, Nat.add_assoc]

theorem Bytes.toNat_pointer {bytes : Bytes} (h : bytes.length = pointerSize) :
    (UInt64.ofNat bytes.ofLittleEndian).toNat = bytes.ofLittleEndian := by
  have hlt := bytes.ofLittleEndian_lt
  rw [h] at hlt
  exact UInt64.toNat_ofNat_of_lt' hlt

theorem Bytes.toNat_dword {bytes : Bytes} (h : bytes.length = dwordSize) :
    (UInt32.ofNat bytes.ofLittleEndian).toNat = bytes.ofLittleEndian := by
  have hlt := bytes.ofLittleEndian_lt
  rw [h] at hlt
  exact UInt32.toNat_ofNat_of_lt' hlt

namespace MemoryReader

variable {reader : MemoryReader} {process : ProcessId} {address : Int} {bytes : Bytes}
  {length : Nat}

theorem readExact_of_read (h : reader.read process address length = .ok bytes)
    (hlength : bytes.length = length) : reader.readExact process address length = .ok bytes := by
  rw [readExact, h]
  exact if_pos hlength

theorem readExact_of_length_ne (h : reader.read process address length = .ok bytes)
    (hlength : bytes.length ≠ length) :
    reader.readExact process address length = .error
      (ReadReport.raised ⟨reader.name, process, address, .wrongLength length bytes.length⟩) := by
  rw [readExact, h]
  exact if_neg hlength

/-- Eight bytes that are read make a pointer. -/
theorem readPointer_of_read (h : reader.read process address pointerSize = .ok bytes)
    (hlength : bytes.length = pointerSize) :
    reader.readPointer process address = .ok (UInt64.ofNat bytes.ofLittleEndian) := by
  rw [readPointer, readExact_of_read h hlength]
  rfl

/-- Four bytes that are read make a double word. -/
theorem readDword_of_read (h : reader.read process address dwordSize = .ok bytes)
    (hlength : bytes.length = dwordSize) :
    reader.readDword process address = .ok (UInt32.ofNat bytes.ofLittleEndian) := by
  rw [readDword, readExact_of_read h hlength]
  rfl

/-- Where no bytes can be read, there is no pointer. -/
theorem readPointer_of_error {e : ReadError}
    (h : reader.read process address pointerSize = .error e) :
    reader.readPointer process address = .error e := by
  rw [readPointer, readExact, h]
  rfl

/-- A pointer is the number that the bytes of a read spell, with nothing cut off. -/
theorem exists_of_readPointer {v : Address} (h : reader.readPointer process address = .ok v) :
    ∃ bytes, reader.read process address pointerSize = .ok bytes ∧ bytes.length = pointerSize ∧
      v.toNat = bytes.ofLittleEndian := by
  obtain ⟨bytes, hexact, h⟩ := exists_of_bind_eq_ok h
  obtain ⟨given, hread, hexact⟩ := exists_of_bind_eq_ok hexact
  split at hexact
  next hlength =>
    obtain rfl := Except.ok.inj hexact
    obtain rfl := Except.ok.inj h
    exact ⟨given, hread, hlength, Bytes.toNat_pointer hlength⟩
  next => cases hexact

end MemoryReader

end PointerChain
