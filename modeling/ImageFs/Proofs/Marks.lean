import Mathlib.Algebra.GroupWithZero.Nat
import ImageFs.Allocation.Bitmap
import ImageFs.Proofs.ReadAfterWrite

/-!
The clear bits of a bitmap: how many there are, and how setting and clearing bits changes their number.
Main statements: counting by bytes gives the number of clear bits, and clearing bits undoes setting them.
-/

namespace ImageFs

/-! Counting -/

theorem countP_of_single {α : Type} {first second : α → Bool} {list : List α} {item : α}
    (nodup : list.Nodup) (member : item ∈ list) (holds : first item = true)
    (fails : second item = false) (same : ∀ other ∈ list, other ≠ item → second other = first other) :
    list.countP second + 1 = list.countP first := by
  induction list with
  | nil => cases member
  | cons head rest induction =>
      obtain ⟨notMember, nodup⟩ := List.nodup_cons.mp nodup
      rw [List.countP_cons, List.countP_cons]
      rcases List.mem_cons.mp member with rfl | member
      · have others : rest.countP second = rest.countP first := by
          refine List.countP_congr fun other inRest => ?_
          rw [same other (List.mem_cons_of_mem _ inRest) fun equal => notMember (equal ▸ inRest)]
        rw [others, holds, fails]
        simp
      · have different : head ≠ item := fun equal => notMember (equal ▸ member)
        have counted := induction nodup member fun other inRest =>
          same other (List.mem_cons_of_mem _ inRest)
        rw [same head List.mem_cons_self different]
        omega

namespace Bitmap

def clearCount (bitmap : Bytes) (count : Nat) : Nat :=
  (List.range count).countP fun bit => !get bitmap bit

theorem get_cons_of_lt (byte : UInt8) (rest : Bytes) {bit : Nat} (inside : bit < 8) :
    get (byte :: rest) bit = byteBit byte bit := by
  rw [get, Nat.div_eq_of_lt inside, Nat.mod_eq_of_lt inside]
  rfl

theorem get_cons_add (byte : UInt8) (rest : Bytes) (bit : Nat) :
    get (byte :: rest) (8 + bit) = get rest bit := by
  rw [get, get, show (8 + bit) / 8 = bit / 8 + 1 by omega, show (8 + bit) % 8 = bit % 8 by omega,
    List.getElem?_cons_succ]

theorem clearInByte_eq (byte : UInt8) (rest : Bytes) {width : Nat} (narrow : width ≤ 8) :
    clearInByte byte width = clearCount (byte :: rest) width := by
  refine List.countP_congr fun bit member => ?_
  rw [get_cons_of_lt byte rest (by have := List.mem_range.mp member; omega)]

theorem countClear_eq {bitmap : Bytes} {count : Nat} (covered : count ≤ 8 * bitmap.length) :
    countClear bitmap count = clearCount bitmap count := by
  induction bitmap generalizing count with
  | nil =>
      rw [List.length_nil] at covered
      rw [show count = 0 by omega]
      rfl
  | cons byte rest induction =>
      rw [countClear]
      rw [List.length_cons] at covered
      split
      · next narrow => exact clearInByte_eq byte rest (Nat.le_of_lt narrow)
      · next wide =>
        rw [clearInByte_eq byte rest (Nat.le_refl 8), induction (by omega), clearCount, clearCount,
          clearCount]
        obtain ⟨more, rfl⟩ := Nat.exists_eq_add_of_le (Nat.not_lt.mp wide)
        rw [Nat.add_sub_cancel_left, List.range_add, List.countP_append, List.countP_map]
        congr 1
        refine List.countP_congr fun bit _ => ?_
        simp only [Function.comp, get_cons_add]

/-- Bits behind the end do not count. -/
theorem countClear_eq_min (bitmap : Bytes) (count : Nat) :
    countClear bitmap count = clearCount bitmap (min count (8 * bitmap.length)) := by
  rw [← countClear_eq (Nat.min_le_right ..)]
  induction bitmap generalizing count with
  | nil => rfl
  | cons byte rest induction =>
      rw [List.length_cons]
      rcases Nat.lt_or_ge count 8 with narrow | wide
      · rw [Nat.min_eq_left (by omega)]
      · have others : min count (8 * (rest.length + 1)) - 8 = min (count - 8) (8 * rest.length) := by
          omega
        rw [countClear, countClear, if_neg (Nat.not_lt.mpr wide), if_neg (by omega), others,
          induction]

/-- The count goes by whole bytes, and then by the bits of one more byte if the bitmap has it. -/
theorem countClear_eq_sum (bitmap : Bytes) (count : Nat) :
    countClear bitmap count =
      ((bitmap.take (count / 8)).map fun byte => clearInByte byte 8).sum +
        (bitmap[count / 8]?.map fun byte => clearInByte byte (count % 8)).getD 0 := by
  induction bitmap generalizing count with
  | nil =>
      rw [countClear, List.take_nil, List.getElem?_nil]
      rfl
  | cons byte rest induction =>
      rw [countClear]
      split
      · next narrow =>
        rw [Nat.div_eq_of_lt narrow, Nat.mod_eq_of_lt narrow, List.take_zero, List.getElem?_cons_zero]
        exact (Nat.zero_add _).symm
      · next wide =>
        obtain ⟨more, rfl⟩ := Nat.exists_eq_add_of_le' (Nat.not_lt.mp wide)
        rw [Nat.add_sub_cancel, Nat.add_div_right more (by decide), Nat.add_mod_right,
          List.take_succ_cons, List.map_cons, List.sum_cons, List.getElem?_cons_succ, Nat.add_assoc,
          induction]

/-! Setting and clearing one bit -/

/-- The bit of the bitmap has been given the value, and nothing else has been done. There is no bit
behind the end. -/
structure Assigned (bitmap : Bytes) (bit : Nat) (value : Bool) (after : Bytes) : Prop where
  length : after.length = bitmap.length
  here : bit < 8 * bitmap.length → get after bit = value
  elsewhere : ∀ other, other ≠ bit → get after other = get bitmap other
  behind : 8 * bitmap.length ≤ bit → after = bitmap

theorem assigned_set (bitmap : Bytes) (bit : Nat) : Assigned bitmap bit true (set bitmap bit) where
  length := length_set bitmap bit
  here inside := by simp [get_set, inside]
  elsewhere other different := by simp [get_set, different.symm]
  behind outside := List.modify_eq_self (by omega)

theorem assigned_clear (bitmap : Bytes) (bit : Nat) :
    Assigned bitmap bit false (clear bitmap bit) where
  length := length_clear bitmap bit
  here _ := by simp [get_clear]
  elsewhere other different := by simp [get_clear, different.symm]
  behind outside := List.modify_eq_self (by omega)

/-! Setting and clearing several bits -/

theorem clearCount_set {bitmap : Bytes} {bit count : Nat} (inside : bit < count)
    (covered : count ≤ 8 * bitmap.length) (clear : get bitmap bit = false) :
    clearCount (set bitmap bit) count + 1 = clearCount bitmap count := by
  refine countP_of_single List.nodup_range (List.mem_range.mpr inside) ?_ ?_ ?_
  · simp [clear]
  · simp [get_set, show bit < 8 * bitmap.length by omega]
  · intro other _ different
    simp [get_set, Ne.symm different]

theorem clearCount_clear {bitmap : Bytes} {bit count : Nat} (inside : bit < count)
    (marked : get bitmap bit = true) :
    clearCount bitmap count + 1 = clearCount (clear bitmap bit) count := by
  refine countP_of_single List.nodup_range (List.mem_range.mpr inside) ?_ ?_ ?_
  · simp [get_clear]
  · simp [marked]
  · intro other _ different
    simp [get_clear, Ne.symm different]

theorem length_setAll (bits : List Nat) (bitmap : Bytes) :
    (bits.foldl set bitmap).length = bitmap.length := by
  induction bits generalizing bitmap with
  | nil => rfl
  | cons bit rest induction => rw [List.foldl_cons, induction, length_set]

theorem length_clearAll (bits : List Nat) (bitmap : Bytes) :
    (bits.foldl clear bitmap).length = bitmap.length := by
  induction bits generalizing bitmap with
  | nil => rfl
  | cons bit rest induction => rw [List.foldl_cons, induction, length_clear]

theorem get_setAll {bits : List Nat} {bitmap : Bytes}
    (covered : ∀ bit ∈ bits, bit < 8 * bitmap.length) (other : Nat) :
    get (bits.foldl set bitmap) other = (get bitmap other || decide (other ∈ bits)) := by
  induction bits generalizing bitmap with
  | nil => simp
  | cons bit rest induction =>
      have here := covered bit List.mem_cons_self
      have others : ∀ bit' ∈ rest, bit' < 8 * (set bitmap bit).length := by
        intro bit' member
        rw [length_set]
        exact covered bit' (List.mem_cons_of_mem _ member)
      rw [List.foldl_cons, induction others, get_set]
      by_cases same : bit = other
      · subst same
        simp [here]
      · simp [same, Ne.symm same]

theorem get_clearAll (bits : List Nat) (bitmap : Bytes) (other : Nat) :
    get (bits.foldl clear bitmap) other = (get bitmap other && !decide (other ∈ bits)) := by
  induction bits generalizing bitmap with
  | nil => simp
  | cons bit rest induction =>
      rw [List.foldl_cons, induction, get_clear]
      by_cases same : bit = other
      · subst same
        simp
      · have apart : (bit != other) = true := bne_iff_ne.mpr same
        simp [apart, Ne.symm same]

theorem clearCount_setAll {bits : List Nat} {bitmap : Bytes} {count : Nat}
    (covered : count ≤ 8 * bitmap.length) (nodup : bits.Nodup)
    (free : ∀ bit ∈ bits, bit < count ∧ get bitmap bit = false) :
    clearCount (bits.foldl set bitmap) count + bits.length = clearCount bitmap count := by
  induction bits generalizing bitmap with
  | nil => rfl
  | cons bit rest induction =>
      obtain ⟨inside, clear⟩ := free bit List.mem_cons_self
      obtain ⟨notMember, nodup⟩ := List.nodup_cons.mp nodup
      have one := clearCount_set inside covered clear
      have others : ∀ other ∈ rest, other < count ∧ get (set bitmap bit) other = false := by
        intro other member
        obtain ⟨inside', clear'⟩ := free other (List.mem_cons_of_mem _ member)
        have different : bit ≠ other := fun same => notMember (same ▸ member)
        exact ⟨inside', by simp [get_set, clear', different]⟩
      have more := induction (by rwa [length_set]) nodup others
      rw [List.foldl_cons, List.length_cons]
      omega

theorem clearCount_clearAll {bits : List Nat} {bitmap : Bytes} {count : Nat} (nodup : bits.Nodup)
    (marked : ∀ bit ∈ bits, bit < count ∧ get bitmap bit = true) :
    clearCount (bits.foldl clear bitmap) count = clearCount bitmap count + bits.length := by
  induction bits generalizing bitmap with
  | nil => rfl
  | cons bit rest induction =>
      obtain ⟨inside, set⟩ := marked bit List.mem_cons_self
      obtain ⟨notMember, nodup⟩ := List.nodup_cons.mp nodup
      have one := clearCount_clear inside set
      have others : ∀ other ∈ rest, other < count ∧ get (clear bitmap bit) other = true := by
        intro other member
        obtain ⟨inside', set'⟩ := marked other (List.mem_cons_of_mem _ member)
        have different : bit ≠ other := fun same => notMember (same ▸ member)
        exact ⟨inside', by simp [get_clear, set', different]⟩
      have more := induction nodup others
      rw [List.foldl_cons, List.length_cons]
      omega

/-- Setting bits changes only the bytes that they lie in. -/
theorem getElem?_setAll {bits : List Nat} {bitmap : Bytes} {index : Nat}
    (apart : ∀ bit ∈ bits, bit / 8 ≠ index) :
    (bits.foldl set bitmap)[index]? = bitmap[index]? := by
  induction bits generalizing bitmap with
  | nil => rfl
  | cons bit rest induction =>
      rw [List.foldl_cons, induction fun other member => apart other (List.mem_cons_of_mem _ member),
        set, List.getElem?_modify_ne _ _ (apart bit List.mem_cons_self)]

theorem getElem?_clearAll {bits : List Nat} {bitmap : Bytes} {index : Nat}
    (apart : ∀ bit ∈ bits, bit / 8 ≠ index) :
    (bits.foldl clear bitmap)[index]? = bitmap[index]? := by
  induction bits generalizing bitmap with
  | nil => rfl
  | cons bit rest induction =>
      rw [List.foldl_cons, induction fun other member => apart other (List.mem_cons_of_mem _ member),
        clear, List.getElem?_modify_ne _ _ (apart bit List.mem_cons_self)]

/-! The bits determine the bitmap -/

theorem byte_eq_of_bits {first second : UInt8}
    (same : ∀ bit < 8, byteBit first bit = byteBit second bit) : first = second := by
  refine UInt8.toNat_inj.mp (Nat.eq_of_testBit_eq fun bit => ?_)
  rcases Nat.lt_or_ge bit 8 with inside | outside
  · exact same bit inside
  · have wide : 2 ^ 8 ≤ 2 ^ bit := Nat.pow_le_pow_right (by decide) outside
    rw [Nat.testBit_lt_two_pow (Nat.lt_of_lt_of_le first.toNat_lt wide),
      Nat.testBit_lt_two_pow (Nat.lt_of_lt_of_le second.toNat_lt wide)]

theorem get_eq_byteBit {bitmap : Bytes} {index bit : Nat} (inside : index < bitmap.length)
    (narrow : bit < 8) : get bitmap (8 * index + bit) = byteBit bitmap[index] bit := by
  rw [get, show (8 * index + bit) / 8 = index by omega, show (8 * index + bit) % 8 = bit by omega,
    List.getElem?_eq_getElem inside]

theorem eq_of_bits {first second : Bytes} (length : first.length = second.length)
    (same : ∀ bit, get first bit = get second bit) : first = second := by
  refine List.ext_getElem length fun index inside inside' => byte_eq_of_bits fun bit narrow => ?_
  rw [← get_eq_byteBit inside narrow, ← get_eq_byteBit inside' narrow, same]

/-- Clearing the bits that have been set gives the bitmap back in which they were clear. -/
theorem clearAll_setAll {bits : List Nat} {bitmap : Bytes}
    (covered : ∀ bit ∈ bits, bit < 8 * bitmap.length)
    (free : ∀ bit ∈ bits, get bitmap bit = false) :
    bits.foldl clear (bits.foldl set bitmap) = bitmap := by
  refine eq_of_bits (by rw [length_clearAll, length_setAll]) fun bit => ?_
  rw [get_clearAll, get_setAll covered]
  by_cases member : bit ∈ bits
  · simp [member, free bit member]
  · simp [member]

/-! Bits behind a count -/

/-- The bitmaps agree from a bit on. -/
def SameFrom (count : Nat) (first second : Bytes) : Prop :=
  ∀ bit, count ≤ bit → get second bit = get first bit

namespace SameFrom

variable {count : Nat} {bits : List Nat} {first second third : Bytes}

theorem refl (count : Nat) (bitmap : Bytes) : SameFrom count bitmap bitmap :=
  fun _ _ => rfl

theorem trans (earlier : SameFrom count first second) (later : SameFrom count second third) :
    SameFrom count first third :=
  fun bit behind => (later bit behind).trans (earlier bit behind)

theorem setAll (covered : ∀ bit ∈ bits, bit < 8 * first.length)
    (below : ∀ bit ∈ bits, bit < count) : SameFrom count first (bits.foldl set first) := by
  intro bit behind
  have notMember : bit ∉ bits := fun member => Nat.not_lt.mpr behind (below bit member)
  rw [get_setAll covered, decide_eq_false notMember, Bool.or_false]

theorem clearAll (below : ∀ bit ∈ bits, bit < count) :
    SameFrom count first (bits.foldl clear first) := by
  intro bit behind
  have notMember : bit ∉ bits := fun member => Nat.not_lt.mpr behind (below bit member)
  rw [get_clearAll, decide_eq_false notMember, Bool.not_false, Bool.and_true]

/-- The bits below the count are what is left to compare. -/
theorem eq (same : SameFrom count first second) (length : second.length = first.length)
    (below : ∀ bit < count, get second bit = true ↔ get first bit = true) : second = first := by
  apply eq_of_bits length
  intro bit
  rcases Nat.lt_or_ge bit count with inside | behind
  · exact Bool.eq_iff_iff.mpr (below bit inside)
  · exact same bit behind

end SameFrom

/-! Bytes and bits -/

/-- The count that goes by bytes is the number of the clear bits. Setting or clearing a bit acts on that
bit alone, so that setting one that is counted takes one away from the count and can be undone. -/
theorem mark_laws (bitmap : Bytes) :
    (∀ count, countClear bitmap count =
        ((bitmap.take (count / 8)).map fun byte => clearInByte byte 8).sum +
          (bitmap[count / 8]?.map fun byte => clearInByte byte (count % 8)).getD 0 ∧
      countClear bitmap count = ((List.range (min count (8 * bitmap.length))).filter
        fun bit => get bitmap bit = false).length) ∧
    (∀ bit, Assigned bitmap bit true (set bitmap bit) ∧
      Assigned bitmap bit false (clear bitmap bit)) ∧
    ∀ count bit, bit < min count (8 * bitmap.length) → get bitmap bit = false →
      countClear (set bitmap bit) count + 1 = countClear bitmap count ∧
        clear (set bitmap bit) bit = bitmap := by
  refine ⟨fun count => ⟨countClear_eq_sum bitmap count, ?_⟩,
    fun bit => ⟨assigned_set bitmap bit, assigned_clear bitmap bit⟩, fun count bit inside free => ⟨?_, ?_⟩⟩
  · rw [countClear_eq_min, clearCount, List.countP_eq_length_filter]
    congr 2
    funext bit
    cases get bitmap bit <;> rfl
  · rw [countClear_eq_min, countClear_eq_min, length_set]
    exact clearCount_set inside (Nat.min_le_right ..) free
  · have covered : ∀ other ∈ [bit], other < 8 * bitmap.length := fun other member =>
      List.mem_singleton.mp member ▸ Nat.lt_of_lt_of_le inside (Nat.min_le_right ..)
    exact clearAll_setAll covered fun other member => List.mem_singleton.mp member ▸ free

/-- A count in the middle of the second byte, and one behind the end. -/
theorem mark_laws_partial :
    let bitmap : Bytes := [0xF0, 0x01]
    countClear bitmap 10 = 5 ∧ countClear bitmap 40 = 11 ∧ get bitmap 9 = false ∧
      countClear (set bitmap 9) 10 = 4 ∧ countClear (set bitmap 9) 40 = 10 ∧
      clear (set bitmap 9) 9 = bitmap := by
  intro bitmap
  have free : get bitmap 9 = false := by decide
  have counted : countClear bitmap 10 = 5 := by decide
  have all : countClear bitmap 40 = 11 := by decide
  obtain ⟨-, -, undone⟩ := mark_laws bitmap
  obtain ⟨fewer, restored⟩ := undone 10 9 (by decide) free
  obtain ⟨fewer', -⟩ := undone 40 9 (by decide) free
  exact ⟨counted, all, free, by omega, by omega, restored⟩

end Bitmap

end ImageFs
