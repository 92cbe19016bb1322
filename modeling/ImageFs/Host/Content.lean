import ImageFs.Bytes

/-!
The content of a host file: its length, and its bytes up to the last one that is not zero. A long
row of zeros at the end takes no room, and contents with the same bytes are equal. Positions behind
the end read as zero, so extending a file with zeros changes no byte. Main statement: after a write
each position holds the written byte if the write covers it, and its old byte otherwise.
-/

namespace ImageFs

/-! Byte arrays that go on with zeros -/

namespace ZeroPadded

def byte (data : ByteArray) (position : Nat) : UInt8 :=
  if inside : position < data.size then data[position] else 0

/-- Has no zeros at the end. -/
def IsTrimmed (data : ByteArray) : Prop :=
  data.size = 0 ∨ byte data (data.size - 1) ≠ 0

/-- The length of the first `count` bytes without the zeros at their end. -/
def trimmedLength (data : ByteArray) : Nat → Nat
  | 0 => 0
  | count + 1 => if byte data count = 0 then trimmedLength data count else count + 1

/-- Drops the zeros at the end. -/
def trim (data : ByteArray) : ByteArray :=
  let length := trimmedLength data data.size
  if length = data.size then data else data.extract 0 length

/-- Appends zeros. -/
def pad (data : ByteArray) : Nat → ByteArray
  | 0 => data
  | count + 1 => pad (data.push 0) count

/-- Stores bytes at consecutive positions; those behind the end are dropped. -/
def store (data : ByteArray) (offset : Nat) : Bytes → ByteArray
  | [] => data
  | byte :: rest =>
      store (if inside : offset < data.size then data.set offset byte inside else data)
        (offset + 1) rest

theorem byte_eq (data : ByteArray) (position : Nat) :
    byte data position = (data.data[position]?).getD 0 := by
  rw [byte]
  split
  · next inside =>
    rw [Array.getElem?_eq_getElem inside]
    rfl
  · next outside =>
    rw [Array.getElem?_eq_none (Nat.not_lt.mp outside)]
    rfl

theorem byte_of_size_le {data : ByteArray} {position : Nat} (outside : data.size ≤ position) :
    byte data position = 0 :=
  dif_neg (Nat.not_lt.mpr outside)

theorem byte_extract {data : ByteArray} {length : Nat} (short : length ≤ data.size)
    (position : Nat) :
    byte (data.extract 0 length) position =
      if position < length then byte data position else 0 := by
  split
  · next inside =>
    change length ≤ data.data.size at short
    rw [byte_eq, byte_eq, ByteArray.data_extract, Array.getElem?_extract_of_lt (by omega),
      Array.getElem?_eq_getElem (by omega)]
    simp only [Nat.zero_add]
  · next outside =>
    exact byte_of_size_le (by rw [ByteArray.size_extract]; omega)

theorem eq_of_byte {first second : ByteArray} (size : first.size = second.size)
    (bytes : ∀ position, byte first position = byte second position) : first = second := by
  rcases first with ⟨first⟩
  rcases second with ⟨second⟩
  congr 1
  apply Array.ext size
  intro position inside inside'
  have equal := bytes position
  simp only [byte, ByteArray.size, dif_pos inside, dif_pos inside'] at equal
  exact equal

/-- A trimmed array is as long as its last byte other than zero demands. -/
theorem size_le_of_byte {first second : ByteArray} (trimmed : IsTrimmed first)
    (bytes : ∀ position, byte first position = byte second position) :
    first.size ≤ second.size := by
  rcases trimmed with none | last
  · omega
  · rw [bytes] at last
    by_cases inside : first.size - 1 < second.size
    · omega
    · exact absurd (byte_of_size_le (by omega)) last

/-! Trimming -/

theorem trimmedLength_le (data : ByteArray) (count : Nat) : trimmedLength data count ≤ count := by
  induction count with
  | zero => exact Nat.le_refl 0
  | succ count induction =>
      rw [trimmedLength]
      split <;> omega

theorem byte_of_trimmedLength_le {data : ByteArray} {count position : Nat}
    (behind : trimmedLength data count ≤ position) (inside : position < count) :
    byte data position = 0 := by
  induction count with
  | zero => omega
  | succ count induction =>
      rw [trimmedLength] at behind
      split at behind
      · next zero =>
        by_cases last : position = count
        · rw [last, zero]
        · exact induction behind (by omega)
      · omega

theorem byte_pred_trimmedLength (data : ByteArray) (count : Nat) :
    trimmedLength data count = 0 ∨ byte data (trimmedLength data count - 1) ≠ 0 := by
  induction count with
  | zero => exact Or.inl rfl
  | succ count induction =>
      rw [trimmedLength]
      split
      · exact induction
      · next last => exact Or.inr last

theorem size_trim (data : ByteArray) : (trim data).size = trimmedLength data data.size := by
  have bound := trimmedLength_le data data.size
  rw [trim]
  split
  · next full => exact full.symm
  · rw [ByteArray.size_extract]
    omega

theorem byte_trim (data : ByteArray) (position : Nat) :
    byte (trim data) position = byte data position := by
  have bound := trimmedLength_le data data.size
  rw [trim]
  split
  · rfl
  · rw [byte_extract bound]
    split
    · rfl
    · next behind =>
      by_cases inside : position < data.size
      · exact (byte_of_trimmedLength_le (Nat.not_lt.mp behind) inside).symm
      · exact (byte_of_size_le (Nat.not_lt.mp inside)).symm

theorem isTrimmed_trim (data : ByteArray) : IsTrimmed (trim data) := by
  rw [IsTrimmed, size_trim, byte_trim]
  exact byte_pred_trimmedLength data data.size

/-! Padding -/

theorem size_pad (data : ByteArray) (count : Nat) : (pad data count).size = data.size + count := by
  induction count generalizing data with
  | zero => rfl
  | succ count induction =>
      rw [pad, induction, ByteArray.size_push]
      omega

theorem byte_push (data : ByteArray) (position : Nat) :
    byte (data.push 0) position = byte data position := by
  rw [byte_eq, byte_eq, ByteArray.data_push, Array.getElem?_push]
  split
  · next last =>
    rw [last, Array.getElem?_eq_none (Nat.le_refl _)]
    rfl
  · rfl

theorem byte_pad (data : ByteArray) (count position : Nat) :
    byte (pad data count) position = byte data position := by
  induction count generalizing data with
  | zero => rfl
  | succ count induction => rw [pad, induction, byte_push]

/-! Storing -/

theorem size_set (data : ByteArray) (offset : Nat) (byte : UInt8) (inside : offset < data.size) :
    (data.set offset byte inside).size = data.size := by
  rw [ByteArray.size, ByteArray.data_set, Array.size_set]
  rfl

theorem byte_set (data : ByteArray) (offset : Nat) (value : UInt8) (inside : offset < data.size)
    (position : Nat) :
    byte (data.set offset value inside) position =
      if position = offset then value else byte data position := by
  rw [byte_eq, byte_eq, ByteArray.data_set, Array.getElem?_set]
  by_cases same : offset = position
  · subst same
    rw [if_pos rfl, if_pos rfl]
    rfl
  · rw [if_neg same, if_neg (Ne.symm same)]

theorem size_store (data : ByteArray) (offset : Nat) (bytes : Bytes) :
    (store data offset bytes).size = data.size := by
  induction bytes generalizing data offset with
  | nil => rfl
  | cons byte rest induction =>
      rw [store, induction]
      split
      · next inside => exact size_set data offset byte inside
      · rfl

theorem byte_store {data : ByteArray} {offset : Nat} {bytes : Bytes}
    (fits : offset + bytes.length ≤ data.size) (position : Nat) :
    byte (store data offset bytes) position =
      if offset ≤ position then (bytes[position - offset]?).getD (byte data position)
      else byte data position := by
  induction bytes generalizing data offset with
  | nil => simp [store]
  | cons head rest induction =>
      simp only [List.length_cons] at fits
      have inside : offset < data.size := by omega
      rw [store, dif_pos inside, induction (by rw [size_set]; omega), byte_set]
      rcases Nat.lt_trichotomy position offset with before | same | behind
      · rw [if_neg (by omega), if_neg (by omega), if_neg (by omega)]
      · subst same
        rw [if_neg (by omega), if_pos rfl, if_pos (Nat.le_refl _)]
        simp
      · rw [if_pos (by omega), if_neg (by omega), if_pos (by omega)]
        rw [show position - offset = position - (offset + 1) + 1 by omega]
        simp

end ZeroPadded

/-! Contents -/

structure Content where
  size : Nat
  data : ByteArray
  fits : data.size ≤ size
  trimmed : ZeroPadded.IsTrimmed data

namespace Content

def empty : Content where
  size := 0
  data := ByteArray.empty
  fits := Nat.le_refl 0
  trimmed := Or.inl rfl

def byte (content : Content) (position : Nat) : UInt8 :=
  ZeroPadded.byte content.data position

/-- The content of the given length that starts with the bytes of an array. -/
def ofData (size : Nat) (data : ByteArray) (fits : data.size ≤ size) : Content where
  size
  data := ZeroPadded.trim data
  fits := Nat.le_trans
    (by rw [ZeroPadded.size_trim]; exact ZeroPadded.trimmedLength_le data data.size) fits
  trimmed := ZeroPadded.isTrimmed_trim data

def read (content : Content) (offset count : Nat) : Bytes :=
  List.ofFn fun position : Fin count => content.byte (offset + position)

def toBytes (content : Content) : Bytes :=
  content.read 0 content.size

/-- Cuts the content, or extends it with zeros, to the given length. -/
def resize (content : Content) (length : Nat) : Content :=
  if inside : content.data.size ≤ length then { content with size := length, fits := inside }
  else ofData length (content.data.extract 0 length) (by rw [ByteArray.size_extract]; omega)

/-- Writes bytes, extending the content when they reach behind its end. -/
def write (content : Content) (offset : Nat) (bytes : Bytes) : Content :=
  if bytes.isEmpty then content
  else
    let stop := offset + bytes.length
    ofData (max content.size stop)
      (ZeroPadded.store (ZeroPadded.pad content.data (stop - content.data.size)) offset bytes) (by
        have fits := content.fits
        rw [ZeroPadded.size_store, ZeroPadded.size_pad]
        omega)

def ofBytes (bytes : Bytes) : Content :=
  empty.write 0 bytes

/-! Single bytes -/

theorem byte_of_le {content : Content} {position : Nat} (outside : content.size ≤ position) :
    content.byte position = 0 :=
  ZeroPadded.byte_of_size_le (Nat.le_trans content.fits outside)

theorem eq_of_bytes {first second : Content} (size : first.size = second.size)
    (bytes : ∀ position, first.byte position = second.byte position) : first = second := by
  have data : first.data = second.data :=
    ZeroPadded.eq_of_byte
      (Nat.le_antisymm (ZeroPadded.size_le_of_byte first.trimmed bytes)
        (ZeroPadded.size_le_of_byte second.trimmed fun position => (bytes position).symm))
      bytes
  cases first
  cases second
  cases size
  cases data
  rfl

theorem byte_ofData {size : Nat} {data : ByteArray} (fits : data.size ≤ size) (position : Nat) :
    (ofData size data fits).byte position = ZeroPadded.byte data position :=
  ZeroPadded.byte_trim data position

@[simp] theorem length_read (content : Content) (offset count : Nat) :
    (content.read offset count).length = count := by
  simp [read]

theorem getElem_read (content : Content) {offset count position : Nat}
    (inside : position < (content.read offset count).length) :
    (content.read offset count)[position] = content.byte (offset + position) := by
  simp [read]

/-! Resizing -/

theorem byte_resize (content : Content) (length position : Nat) :
    (content.resize length).byte position =
      if position < length then content.byte position else 0 := by
  rw [resize]
  split
  · next long =>
    change content.byte position = _
    split
    · rfl
    · next outside =>
      exact ZeroPadded.byte_of_size_le (Nat.le_trans long (Nat.not_lt.mp outside))
  · next short =>
    rw [byte_ofData, ZeroPadded.byte_extract (by omega)]
    rfl

/-! Writing -/

theorem size_write (content : Content) (offset : Nat) (bytes : Bytes) :
    (content.write offset bytes).size =
      if bytes.isEmpty then content.size else max content.size (offset + bytes.length) := by
  rw [write]
  split <;> rfl

theorem byte_write (content : Content) (offset : Nat) (bytes : Bytes) (position : Nat) :
    (content.write offset bytes).byte position =
      if offset ≤ position then (bytes[position - offset]?).getD (content.byte position)
      else content.byte position := by
  rw [write]
  split
  · next none =>
    rw [List.isEmpty_iff.mp none]
    simp
  · rw [byte_ofData, ZeroPadded.byte_store (by rw [ZeroPadded.size_pad]; omega),
      ZeroPadded.byte_pad]
    rfl

end Content

end ImageFs
