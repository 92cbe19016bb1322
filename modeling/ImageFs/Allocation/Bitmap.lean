import ImageFs.Bytes

/-!
Bit strings in bytes, the lowest bit of a byte first. Bits behind the end read as clear, and
changing them changes nothing. Main statements: setting and clearing a bit act on that bit alone.
-/

namespace ImageFs.Bitmap

/-! Bits of one byte -/

def byteBit (byte : UInt8) (bit : Nat) : Bool :=
  byte.toNat.testBit bit

def setByteBit (byte : UInt8) (bit : Nat) : UInt8 :=
  UInt8.ofNat (byte.toNat ||| 1 <<< bit)

def clearByteBit (byte : UInt8) (bit : Nat) : UInt8 :=
  if byteBit byte bit then UInt8.ofNat (byte.toNat ^^^ 1 <<< bit) else byte

theorem one_shiftLeft_lt {bit : Nat} (inside : bit < 8) : 1 <<< bit < 256 := by
  rw [Nat.one_shiftLeft]
  exact Nat.lt_of_lt_of_le (Nat.pow_lt_pow_right (by decide) inside) (by decide)

theorem testBit_one_shiftLeft (bit other : Nat) : (1 <<< bit).testBit other = (bit == other) := by
  rw [Nat.one_shiftLeft, Nat.testBit_two_pow]
  rfl

theorem byteBit_setByteBit (byte : UInt8) {bit : Nat} (inside : bit < 8) (other : Nat) :
    byteBit (setByteBit byte bit) other = (byteBit byte other || bit == other) := by
  have bound := Nat.or_lt_two_pow byte.toNat_lt (one_shiftLeft_lt inside)
  rw [byteBit, setByteBit, UInt8.toNat_ofNat', Nat.mod_eq_of_lt bound, Nat.testBit_or,
    testBit_one_shiftLeft, byteBit]

theorem byteBit_clearByteBit (byte : UInt8) {bit : Nat} (inside : bit < 8) (other : Nat) :
    byteBit (clearByteBit byte bit) other = (byteBit byte other && bit != other) := by
  have bound := Nat.xor_lt_two_pow byte.toNat_lt (one_shiftLeft_lt inside)
  rw [clearByteBit]
  split
  · next set =>
    rw [byteBit, UInt8.toNat_ofNat', Nat.mod_eq_of_lt bound, Nat.testBit_xor,
      testBit_one_shiftLeft]
    by_cases same : bit = other
    · subst same
      have set' : byte.toNat.testBit bit = true := set
      simp [set']
    · have apart : (bit == other) = false := beq_eq_false_iff_ne.mpr same
      simp [bne, apart, byteBit]
  · next clear =>
    by_cases same : bit = other
    · subst same
      simp [clear]
    · simp [same]

/-! Bits of a byte string -/

def get (bitmap : Bytes) (bit : Nat) : Bool :=
  match bitmap[bit / 8]? with
  | some byte => byteBit byte (bit % 8)
  | none => false

def set (bitmap : Bytes) (bit : Nat) : Bytes :=
  bitmap.modify (bit / 8) fun byte => setByteBit byte (bit % 8)

def clear (bitmap : Bytes) (bit : Nat) : Bytes :=
  bitmap.modify (bit / 8) fun byte => clearByteBit byte (bit % 8)

@[simp] theorem length_set (bitmap : Bytes) (bit : Nat) :
    (set bitmap bit).length = bitmap.length := by
  simp [set]

@[simp] theorem length_clear (bitmap : Bytes) (bit : Nat) :
    (clear bitmap bit).length = bitmap.length := by
  simp [clear]

theorem get_set (bitmap : Bytes) (bit other : Nat) :
    get (set bitmap bit) other =
      (get bitmap other || decide (bit = other ∧ other < 8 * bitmap.length)) := by
  have inside : bit % 8 < 8 := Nat.mod_lt _ (by decide)
  rw [get, get, set, List.getElem?_modify]
  by_cases covered : other / 8 < bitmap.length
  · have reach : other < 8 * bitmap.length := by omega
    rw [List.getElem?_eq_getElem covered]
    by_cases same : bit / 8 = other / 8
    · simp only [same, if_pos, Option.map_eq_map, Option.map_some, reach, and_true]
      rw [byteBit_setByteBit _ inside]
      have position : (bit % 8 = other % 8) = (bit = other) := by
        apply propext
        omega
      simp [← position, BEq.beq]
    · have apart : bit ≠ other := fun equal => same (by rw [equal])
      simp [same, apart]
  · have outside : ¬ other < 8 * bitmap.length := by omega
    rw [List.getElem?_eq_none (Nat.not_lt.mp covered)]
    simp [outside]

theorem get_clear (bitmap : Bytes) (bit other : Nat) :
    get (clear bitmap bit) other = (get bitmap other && bit != other) := by
  have inside : bit % 8 < 8 := Nat.mod_lt _ (by decide)
  rw [get, get, clear, List.getElem?_modify]
  by_cases covered : other / 8 < bitmap.length
  · rw [List.getElem?_eq_getElem covered]
    by_cases same : bit / 8 = other / 8
    · simp only [same, if_pos, Option.map_eq_map, Option.map_some]
      rw [byteBit_clearByteBit _ inside]
      by_cases equal : bit = other
      · subst equal
        simp
      · have apart : bit % 8 ≠ other % 8 := by omega
        have apart' : (bit % 8 != other % 8) = true := by simp [apart]
        have equal' : (bit != other) = true := by simp [equal]
        rw [apart', equal']
    · have apart : bit ≠ other := fun equal => same (by rw [equal])
      simp [same, apart]
  · rw [List.getElem?_eq_none (Nat.not_lt.mp covered)]
    simp

/-! Counting -/

/-- The clear bits among the lowest `width` bits of a byte. -/
def clearInByte (byte : UInt8) (width : Nat) : Nat :=
  (List.range width).countP fun bit => !byteBit byte bit

/-- The clear bits among the first `count` bits, byte by byte; bits behind the end do not count. -/
def countClear : Bytes → Nat → Nat
  | [], _ => 0
  | byte :: rest, count =>
      if count < 8 then clearInByte byte count
      else clearInByte byte 8 + countClear rest (count - 8)

end ImageFs.Bitmap
