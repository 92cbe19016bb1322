import ImageFs.Host.Content

/-!
Reading a range of a file after a write: a range beside the written one is as it was, and a range
around the written one is overlaid. Numbers of eight bytes are a special case.
-/

namespace ImageFs

namespace Bytes

theorem getElem?_overlay {bytes : Bytes} {offset : Nat} (patch : Bytes)
    (inside : offset ≤ bytes.length) (position : Nat) :
    (bytes.overlay offset patch)[position]? =
      if offset ≤ position ∧ position < offset + patch.length then patch[position - offset]?
      else bytes[position]? := by
  have start : (bytes.take offset).length = offset := by
    rw [List.length_take]
    omega
  rw [overlay, List.append_assoc, List.getElem?_append, start]
  by_cases before : position < offset
  · rw [if_pos before, if_neg (by omega), List.getElem?_take_of_lt before]
  · rw [if_neg before, List.getElem?_append]
    by_cases covered : position - offset < patch.length
    · rw [if_pos covered, if_pos (by omega)]
    · rw [if_neg covered, if_neg (by omega), List.getElem?_drop]
      congr 1
      omega

theorem overlay_zero {bytes patch : Bytes} (length : patch.length = bytes.length) :
    bytes.overlay 0 patch = patch := by
  simp [overlay, length]

theorem overlay_nil (bytes : Bytes) (offset : Nat) : bytes.overlay offset [] = bytes := by
  simp [overlay]

@[simp] theorem getElem?_zeros (count position : Nat) :
    (zeros count)[position]? = if position < count then some 0 else none := by
  rw [zeros, List.getElem?_replicate]

theorem zeros_append (first second : Nat) : zeros first ++ zeros second = zeros (first + second) := by
  simp [zeros]

theorem take_zeros (count kept : Nat) : (zeros count).take kept = zeros (min kept count) := by
  simp [zeros, List.take_replicate]

end Bytes

namespace Content

variable (content : Content)

theorem getElem?_read (offset count position : Nat) :
    (content.read offset count)[position]? =
      if position < count then some (content.byte (offset + position)) else none := by
  by_cases inside : position < count
  · rw [if_pos inside, List.getElem?_eq_getElem (by rwa [length_read]), getElem_read]
  · rw [if_neg inside, List.getElem?_eq_none (by rw [length_read]; omega)]

theorem read_congr {first second : Content} {offset count : Nat}
    (bytes : ∀ position, offset ≤ position → position < offset + count →
      first.byte position = second.byte position) :
    first.read offset count = second.read offset count := by
  apply List.ext_getElem?
  intro position
  rw [getElem?_read, getElem?_read]
  split
  · next inside => rw [bytes (offset + position) (by omega) (by omega)]
  · rfl

theorem byte_of_read {first second : Content} {offset count position : Nat}
    (reads : first.read offset count = second.read offset count)
    (behind : offset ≤ position) (before : position < offset + count) :
    first.byte position = second.byte position := by
  have equal := congrArg (fun bytes => bytes[position - offset]?) reads
  simp only [getElem?_read, show offset + (position - offset) = position by omega,
    show position - offset < count by omega, if_true, Option.some.injEq] at equal
  exact equal

theorem read_append (offset first second : Nat) :
    content.read offset (first + second) =
      content.read offset first ++ content.read (offset + first) second := by
  apply List.ext_getElem?
  intro position
  rw [List.getElem?_append, getElem?_read, getElem?_read, getElem?_read, length_read]
  by_cases early : position < first
  · rw [if_pos early, if_pos early, if_pos (by omega)]
  · rw [if_neg early]
    by_cases inside : position < first + second
    · rw [if_pos inside, if_pos (by omega), show offset + first + (position - first) =
        offset + position by omega]
    · rw [if_neg inside, if_neg (by omega)]

theorem byte_write_of_apart {start position : Nat} {bytes : Bytes}
    (apart : position < start ∨ start + bytes.length ≤ position) :
    (content.write start bytes).byte position = content.byte position := by
  rw [byte_write]
  split
  · rw [List.getElem?_eq_none (by omega)]
    rfl
  · rfl

theorem read_write_of_apart {offset count start : Nat} {bytes : Bytes}
    (apart : offset + count ≤ start ∨ start + bytes.length ≤ offset) :
    (content.write start bytes).read offset count = content.read offset count :=
  read_congr fun _ _ _ => byte_write_of_apart content (by omega)

theorem read_write_of_within {offset count start : Nat} {bytes : Bytes}
    (behind : offset ≤ start) (within : start + bytes.length ≤ offset + count) :
    (content.write start bytes).read offset count =
      (content.read offset count).overlay (start - offset) bytes := by
  apply List.ext_getElem?
  intro position
  rw [Bytes.getElem?_overlay _ (by rw [length_read]; omega), getElem?_read, getElem?_read]
  by_cases covered : start - offset ≤ position ∧ position < start - offset + bytes.length
  · rw [if_pos (by omega), if_pos covered, byte_write, if_pos (by omega),
      show offset + position - start = position - (start - offset) by omega,
      List.getElem?_eq_getElem (by omega)]
    rfl
  · rw [if_neg covered]
    split
    · rw [byte_write_of_apart content (by omega)]
    · rfl

theorem read_write_same {start : Nat} {bytes : Bytes} :
    (content.write start bytes).read start bytes.length = bytes := by
  rw [read_write_of_within content (Nat.le_refl _) (Nat.le_refl _), Nat.sub_self,
    Bytes.overlay_zero (by rw [length_read])]

theorem size_write_of_fits {start : Nat} {bytes : Bytes}
    (fits : start + bytes.length ≤ content.size) :
    (content.write start bytes).size = content.size := by
  rw [size_write]
  split
  · rfl
  · omega

theorem write_append (start : Nat) (first second : Bytes) :
    content.write start (first ++ second) =
      (content.write start first).write (start + first.length) second := by
  refine eq_of_bytes ?_ fun position => ?_
  · simp only [size_write]
    cases first with
    | nil => simp
    | cons head rest =>
        cases second with
        | nil => simp
        | cons head' rest' =>
            simp only [List.isEmpty_cons, List.cons_append, List.length_cons, List.length_append]
            simp only [Bool.false_eq_true, if_false]
            omega
  · simp only [byte_write]
    by_cases before : position < start
    · rw [if_neg (by omega), if_neg (by omega), if_neg (by omega)]
    · rw [if_pos (by omega), List.getElem?_append]
      by_cases covered : position - start < first.length
      · rw [if_pos covered, if_neg (by omega), if_pos (by omega),
          List.getElem?_eq_getElem covered]
      · rw [if_neg covered, if_pos (by omega), if_pos (by omega),
          List.getElem?_eq_none (Nat.not_lt.mp covered), Nat.sub_sub]
        rfl

/-- Writes into ranges that lie apart may trade places. -/
theorem write_comm {start start' : Nat} {first second : Bytes}
    (apart : start + first.length ≤ start' ∨ start' + second.length ≤ start) :
    (content.write start first).write start' second =
      (content.write start' second).write start first := by
  refine eq_of_bytes ?_ fun position => ?_
  · simp only [size_write]
    split <;> split <;> omega
  · simp only [byte_write]
    split <;> split <;> try rfl
    -- the later of the two ranges holds the position, or none does
    rcases apart with before | before
    · rw [List.getElem?_eq_none (show first.length ≤ position - start by omega), Option.getD_none,
        Option.getD_none]
    · rw [List.getElem?_eq_none (show second.length ≤ position - start' by omega), Option.getD_none,
        Option.getD_none]

/-- Writing what is there already changes nothing. -/
theorem write_read {start count : Nat} (fits : start + count ≤ content.size) :
    content.write start (content.read start count) = content := by
  refine eq_of_bytes (size_write_of_fits content (by rwa [length_read])) fun position => ?_
  rw [byte_write]
  split
  · next behind =>
    rw [getElem?_read]
    split
    · rw [show start + (position - start) = position by omega]
      rfl
    · rfl
  · rfl

end Content

end ImageFs
