/-!
Byte strings, and the little-endian form of numbers. Main statements: a number below the capacity
of a field is read back from its bytes, and every byte string is the form of the number it reads as.
-/

namespace ImageFs

abbrev Bytes := List UInt8

namespace Bytes

def zeros (count : Nat) : Bytes :=
  List.replicate count 0

@[simp] theorem length_zeros (count : Nat) : (zeros count).length = count := by
  simp [zeros]

/-- Replaces the bytes from `offset` on by `patch`, keeping what lies before and behind it. -/
def overlay (bytes : Bytes) (offset : Nat) (patch : Bytes) : Bytes :=
  bytes.take offset ++ patch ++ bytes.drop (offset + patch.length)

theorem length_overlay {bytes : Bytes} {offset : Nat} {patch : Bytes}
    (fits : offset + patch.length ≤ bytes.length) :
    (bytes.overlay offset patch).length = bytes.length := by
  simp only [overlay, List.length_append, List.length_take, List.length_drop]
  omega

/-! Little-endian numbers -/

/-- The `width` low bytes of a number, the least significant first. -/
def ofNat : Nat → Nat → Bytes
  | 0, _ => []
  | width + 1, n => UInt8.ofNat n :: ofNat width (n / 256)

def toNat : Bytes → Nat
  | [] => 0
  | low :: rest => low.toNat + 256 * toNat rest

@[simp] theorem length_ofNat (width n : Nat) : (ofNat width n).length = width := by
  induction width generalizing n with
  | zero => rfl
  | succ width induction => simp [ofNat, induction]

/-- How many byte strings of a width there are. -/
def capacity : Nat → Nat
  | 0 => 1
  | width + 1 => 256 * capacity width

theorem toNat_lt (bytes : Bytes) : toNat bytes < capacity bytes.length := by
  induction bytes with
  | nil => exact Nat.one_pos
  | cons low rest induction =>
      have lowBound := low.toNat_lt
      simp only [toNat, List.length_cons, capacity]
      omega

theorem toNat_ofNat (width n : Nat) : toNat (ofNat width n) = n % capacity width := by
  induction width generalizing n with
  | zero => simp [toNat, ofNat, capacity, Nat.mod_one]
  | succ width induction =>
      simp only [ofNat, toNat, induction, UInt8.toNat_ofNat', capacity, Nat.mod_mul]

theorem toNat_ofNat_of_lt {width n : Nat} (bound : n < capacity width) :
    toNat (ofNat width n) = n := by
  rw [toNat_ofNat, Nat.mod_eq_of_lt bound]

theorem ofNat_toNat (bytes : Bytes) : ofNat bytes.length (toNat bytes) = bytes := by
  induction bytes with
  | nil => rfl
  | cons low rest induction =>
      have lowBound := low.toNat_lt
      have quotient : (low.toNat + 256 * toNat rest) / 256 = toNat rest := by omega
      have digit : UInt8.ofNat (low.toNat + 256 * toNat rest) = low := by
        apply UInt8.toNat_inj.mp
        rw [UInt8.toNat_ofNat']
        omega
      simp only [List.length_cons, toNat, ofNat, quotient, digit, induction]

def ofUInt64 (word : UInt64) : Bytes := ofNat 8 word.toNat

def ofUInt32 (word : UInt32) : Bytes := ofNat 4 word.toNat

def toUInt64 (bytes : Bytes) : UInt64 := UInt64.ofNat (toNat bytes)

def toUInt32 (bytes : Bytes) : UInt32 := UInt32.ofNat (toNat bytes)

@[simp] theorem length_ofUInt64 (word : UInt64) : (ofUInt64 word).length = 8 := length_ofNat _ _

@[simp] theorem length_ofUInt32 (word : UInt32) : (ofUInt32 word).length = 4 := length_ofNat _ _

@[simp] theorem toUInt64_ofUInt64 (word : UInt64) : toUInt64 (ofUInt64 word) = word := by
  have bound : word.toNat < capacity 8 := word.toNat_lt
  rw [toUInt64, ofUInt64, toNat_ofNat_of_lt bound, UInt64.ofNat_toNat]

@[simp] theorem toUInt32_ofUInt32 (word : UInt32) : toUInt32 (ofUInt32 word) = word := by
  have bound : word.toNat < capacity 4 := word.toNat_lt
  rw [toUInt32, ofUInt32, toNat_ofNat_of_lt bound, UInt32.ofNat_toNat]

theorem ofUInt64_toUInt64 {bytes : Bytes} (length : bytes.length = 8) :
    ofUInt64 (toUInt64 bytes) = bytes := by
  have bound : toNat bytes < capacity 8 := length ▸ toNat_lt bytes
  rw [ofUInt64, toUInt64, UInt64.toNat_ofNat_of_lt' bound, ← length, ofNat_toNat]

theorem ofUInt32_toUInt32 {bytes : Bytes} (length : bytes.length = 4) :
    ofUInt32 (toUInt32 bytes) = bytes := by
  have bound : toNat bytes < capacity 4 := length ▸ toNat_lt bytes
  rw [ofUInt32, toUInt32, UInt32.toNat_ofNat_of_lt' bound, ← length, ofNat_toNat]

/-! Padded names -/

/-- The bytes before the first zero byte, or all of them when there is none. -/
def beforeZero (bytes : Bytes) : Bytes :=
  bytes.takeWhile (· != 0)

end Bytes

end ImageFs
