import Mathlib.Data.List.Iterate
import Mathlib.Data.List.Rotate
import ImageFs.Allocation.FirstFit
import ImageFs.Proofs.Marks

/-!
The order in which clear bits are chosen. A round visits every usable bit once: from the cursor to the
last bit, and then from the first usable one on. Main statements: a choice takes the clear bits that a
round meets first and fails when it meets fewer, and the next choice goes on where the last one stopped.
-/

namespace ImageFs.FirstFit

open Bitmap

variable {bitmap : Bytes} {bitCount cursor : Nat}

/-! Rounds -/

/-- The usable bits in the order of a round from the cursor. -/
def round (bitCount cursor : Nat) : List Nat :=
  (List.range' firstUsable (bitCount - firstUsable)).rotate (start bitCount cursor - firstUsable)

theorem start_usable (cursor : Nat) (two : 1 < bitCount) :
    firstUsable ≤ start bitCount cursor ∧ start bitCount cursor < bitCount := by
  rw [start]
  split
  · next usable => exact usable
  · exact ⟨Nat.le_refl _, two⟩

theorem start_of_usable {bit : Nat} (usable : firstUsable ≤ bit) (inside : bit < bitCount) :
    start bitCount bit = bit :=
  if_pos ⟨usable, inside⟩

theorem successor_usable (bit : Nat) (two : 1 < bitCount) :
    firstUsable ≤ successor bitCount bit ∧ successor bitCount bit < bitCount := by
  rw [successor]
  split
  · exact ⟨Nat.le_refl _, two⟩
  · exact ⟨Nat.le_add_left 1 bit, by omega⟩

/-- The usable bits lie in a circle. -/
theorem successor_position (two : 1 < bitCount) (position : Nat) :
    successor bitCount (firstUsable + position % (bitCount - firstUsable)) =
      firstUsable + (position + 1) % (bitCount - firstUsable) := by
  have first : firstUsable = 1 := rfl
  have inside := Nat.mod_lt position (show 0 < bitCount - firstUsable by omega)
  rw [successor, ← Nat.mod_add_mod position]
  by_cases last : position % (bitCount - firstUsable) + 1 = bitCount - firstUsable
  · rw [if_pos (by omega), last, Nat.mod_self]
  · rw [if_neg (by omega), Nat.mod_eq_of_lt (show position % _ + 1 < _ by omega), Nat.add_assoc]

theorem getElem_round {index : Nat} (inside : index < (round bitCount cursor).length) :
    (round bitCount cursor)[index] =
      firstUsable + (start bitCount cursor - firstUsable + index) % (bitCount - firstUsable) := by
  simp only [round, List.getElem_rotate, List.getElem_range', List.length_range', Nat.one_mul,
    Nat.add_comm index]

@[simp] theorem length_round (bitCount cursor : Nat) :
    (round bitCount cursor).length = bitCount - firstUsable := by
  rw [round, List.length_rotate, List.length_range']

theorem round_perm (bitCount cursor : Nat) :
    (round bitCount cursor).Perm (List.range' firstUsable (bitCount - firstUsable)) :=
  List.rotate_perm ..

theorem mem_round {bit : Nat} :
    bit ∈ round bitCount cursor ↔ firstUsable ≤ bit ∧ bit < bitCount := by
  have first : firstUsable = 1 := rfl
  rw [(round_perm bitCount cursor).mem_iff, List.mem_range'_1]
  omega

theorem nodup_round (bitCount cursor : Nat) : (round bitCount cursor).Nodup :=
  List.nodup_rotate.mpr List.nodup_range'

/-- Going from each bit to its successor is a round. -/
theorem iterate_successor (two : 1 < bitCount) (cursor : Nat) :
    List.iterate (successor bitCount) (start bitCount cursor) (bitCount - firstUsable) =
      round bitCount cursor := by
  obtain ⟨usable, inside⟩ := start_usable cursor two
  have steps (position : Nat) : (successor bitCount)^[position] (start bitCount cursor) =
      firstUsable + (start bitCount cursor - firstUsable + position) % (bitCount - firstUsable) := by
    induction position with
    | zero =>
        rw [Function.iterate_zero_apply, Nat.add_zero, Nat.mod_eq_of_lt (by omega)]
        omega
    | succ position induction =>
        rw [Function.iterate_succ_apply', induction, successor_position two, Nat.add_assoc]
  apply List.ext_getElem (by simp)
  intro position before _
  rw [List.getElem_iterate, getElem_round, steps]

/-- A round from behind a bit visits what comes after it, and then what comes before it. -/
theorem round_successor {front back : List Nat} {bit : Nat}
    (split : round bitCount cursor = front ++ bit :: back) :
    round bitCount (successor bitCount bit) = back ++ (front ++ [bit]) := by
  have length := congrArg List.length split
  rw [length_round, List.length_append, List.length_cons] at length
  have first : firstUsable = 1 := rfl
  have two : 1 < bitCount := by omega
  have isBit : bit = firstUsable +
      (start bitCount cursor - firstUsable + front.length) % (bitCount - firstUsable) := by
    rw [← getElem_round (by rw [length_round]; omega), List.getElem_of_eq split,
      List.getElem_append_right (Nat.le_refl _)]
    simp
  have next : successor bitCount bit - firstUsable =
      (start bitCount cursor - firstUsable + front.length + 1) % (bitCount - firstUsable) := by
    rw [isBit, successor_position two, Nat.add_sub_cancel_left]
  obtain ⟨usable, inside⟩ := @successor_usable bitCount bit two
  rw [round, start_of_usable usable inside, next]
  have usableLength : bitCount - firstUsable =
      (List.range' firstUsable (bitCount - firstUsable)).length := List.length_range'.symm
  nth_rewrite 2 [usableLength]
  rw [List.rotate_mod, Nat.add_assoc, ← List.rotate_rotate]
  change (round bitCount cursor).rotate _ = _
  have behind : front.length + 1 = (front ++ [bit]).length := by simp
  rw [split, List.append_cons, behind, List.rotate_append_length_eq]

/-! What a round meets -/

/-- The clear bits in the order in which a round from the cursor meets them. -/
def offers (bitmap : Bytes) (bitCount cursor : Nat) : List Nat :=
  (round bitCount cursor).filter fun bit => !get bitmap bit

def clearUsable (bitmap : Bytes) (bitCount : Nat) : Nat :=
  (List.range' firstUsable (bitCount - firstUsable)).countP fun bit => !get bitmap bit

/-- The cursor behind the bits that have been taken. -/
def cursorBehind (bitCount cursor : Nat) (bits : List Nat) : Nat :=
  (bits.getLast?.map (successor bitCount)).getD cursor

theorem mem_offers {bit : Nat} : bit ∈ offers bitmap bitCount cursor ↔
    (firstUsable ≤ bit ∧ bit < bitCount) ∧ get bitmap bit = false := by
  rw [offers, List.mem_filter, mem_round]
  simp

theorem nodup_offers (bitmap : Bytes) (bitCount cursor : Nat) :
    (offers bitmap bitCount cursor).Nodup :=
  (nodup_round bitCount cursor).filter _

theorem length_offers (bitmap : Bytes) (bitCount cursor : Nat) :
    (offers bitmap bitCount cursor).length = clearUsable bitmap bitCount := by
  rw [offers, ← List.countP_eq_length_filter, (round_perm bitCount cursor).countP_eq, clearUsable]

theorem clearUsable_le (bitmap : Bytes) (bitCount : Nat) :
    clearUsable bitmap bitCount ≤ bitCount - firstUsable := by
  have bound := List.countP_le_length
    (l := List.range' firstUsable (bitCount - firstUsable)) (p := fun bit => !get bitmap bit)
  rwa [List.length_range'] at bound

/-- Where bit 0 is set, all clear bits are usable. -/
theorem clearCount_eq_usable (positive : 0 < bitCount) (reserved : get bitmap 0 = true) :
    clearCount bitmap bitCount = clearUsable bitmap bitCount := by
  obtain ⟨more, rfl⟩ := Nat.exists_eq_succ_of_ne_zero (Nat.ne_of_gt positive)
  rw [clearCount, List.range_eq_range', List.range'_succ, List.countP_cons]
  simp [clearUsable, reserved]

theorem clearCount_lt (positive : 0 < bitCount) (reserved : get bitmap 0 = true) :
    clearCount bitmap bitCount < bitCount := by
  rw [clearCount_eq_usable positive reserved]
  exact Nat.lt_of_le_of_lt (clearUsable_le bitmap bitCount) (Nat.sub_lt positive Nat.one_pos)

theorem cursorBehind_usable {bits : List Nat} (two : 1 < bitCount) (some : bits ≠ []) :
    firstUsable ≤ cursorBehind bitCount cursor bits ∧ cursorBehind bitCount cursor bits < bitCount := by
  rw [cursorBehind, List.getLast?_eq_some_getLast some]
  exact successor_usable _ two

theorem cursorBehind_append (cursor : Nat) (first second : List Nat) :
    cursorBehind bitCount cursor (first ++ second) =
      cursorBehind bitCount (cursorBehind bitCount cursor first) second := by
  rw [cursorBehind, cursorBehind, List.getLast?_append]
  cases second.getLast? <;> rfl

/-! Choosing -/

/-- A scan takes the first clear bits of the way from bit to bit. -/
theorem scan_eq (bitmap : Bytes) (bitCount visits bit wanted : Nat) :
    scan bitmap bitCount visits bit wanted =
      ((List.iterate (successor bitCount) bit visits).filter fun bit => !get bitmap bit).take
        wanted := by
  induction visits generalizing bit wanted with
  | zero => cases wanted <;> rfl
  | succ visits induction =>
      cases wanted with
      | zero => rw [scan, List.take_zero]
      | succ wanted =>
          rw [scan, List.iterate, List.filter_cons]
          split
          · next marked =>
            rw [induction]
            simp [marked]
          · next clear =>
            rw [induction]
            simp [clear]

/-- A choice takes the clear bits that a round meets first, if there are enough of them. -/
theorem choose_eq (bitmap : Bytes) (bitCount cursor wanted : Nat) :
    choose bitmap bitCount cursor wanted =
      if clearUsable bitmap bitCount < wanted then none
      else some ⟨(offers bitmap bitCount cursor).take wanted,
        cursorBehind bitCount cursor ((offers bitmap bitCount cursor).take wanted)⟩ := by
  have bound := clearUsable_le bitmap bitCount
  rw [choose]
  split
  · next none =>
    rw [none, if_neg (Nat.not_lt_zero _), List.take_zero]
    rfl
  · next some =>
    split
    · rw [if_pos (by omega)]
    · have first : firstUsable = 1 := rfl
      rw [scan_eq, iterate_successor (by omega), ← offers]
      have length : ((offers bitmap bitCount cursor).take wanted).length =
          min wanted (clearUsable bitmap bitCount) := by
        rw [List.length_take, length_offers]
      by_cases few : clearUsable bitmap bitCount < wanted
      · rw [if_pos few, if_pos (by omega)]
      · rw [if_neg few, if_neg (by omega), cursorBehind,
          List.getLast?_eq_some_getLast (List.ne_nil_of_length_pos (by omega))]
        rfl

/-- Where a round meets a clear bit, it has met the earlier ones before and meets the later ones behind. -/
theorem exists_round_of_offers {before rest : List Nat} {last : Nat}
    (meets : offers bitmap bitCount cursor = before ++ last :: rest) :
    ∃ front back, round bitCount cursor = front ++ last :: back ∧
      (front.filter fun bit => !get bitmap bit) = before ∧
      (back.filter fun bit => !get bitmap bit) = rest := by
  obtain ⟨first, others, isRound, isBefore, isOthers⟩ := List.filter_eq_append_iff.mp meets
  obtain ⟨between, back, rfl, marked, -, isRest⟩ := List.filter_eq_cons_iff.mp isOthers
  refine ⟨first ++ between, back, by rw [isRound, List.append_assoc], ?_, isRest⟩
  rw [List.filter_append, isBefore, List.filter_eq_nil_iff.mpr marked, List.append_nil]

/-- Once bits up to one of them have been taken, a round from behind it meets only the later ones. -/
theorem offers_behind {before rest : List Nat} {last : Nat} (covered : bitCount ≤ 8 * bitmap.length)
    (meets : offers bitmap bitCount cursor = before ++ last :: rest) :
    offers ((before ++ [last]).foldl set bitmap) bitCount (successor bitCount last) = rest := by
  obtain ⟨front, back, isRound, isBefore, isRest⟩ := exists_round_of_offers meets
  have nodup := nodup_round bitCount cursor
  rw [isRound, List.nodup_append] at nodup
  obtain ⟨-, nodupBack, apart⟩ := nodup
  have inFront {bit : Nat} (member : bit ∈ before) : bit ∈ front := by
    rw [← isBefore] at member
    exact List.mem_of_mem_filter member
  have marks (bit : Nat) : get ((before ++ [last]).foldl set bitmap) bit =
      (get bitmap bit || decide (bit ∈ before ++ [last])) := by
    refine get_setAll (fun bit member => ?_) bit
    have offered : bit ∈ offers bitmap bitCount cursor := by
      rw [meets, List.append_cons]
      exact List.mem_append_left _ member
    have usable := (mem_offers.mp offered).1
    omega
  -- in front of the last bit and at it nothing is clear any more
  have taken : ((front ++ [last]).filter
      fun bit => !get ((before ++ [last]).foldl set bitmap) bit) = [] := by
    rw [List.filter_eq_nil_iff]
    intro bit member
    rw [marks]
    rcases List.mem_append.mp member with inside | isLast
    · cases isClear : get bitmap bit with
      | true => simp
      | false =>
          have isTaken : bit ∈ before := by
            rw [← isBefore, List.mem_filter]
            exact ⟨inside, by simp [isClear]⟩
          simp [isTaken]
    · simp [List.mem_singleton.mp isLast]
  -- and behind it nothing has been taken
  have left : (back.filter fun bit => !get ((before ++ [last]).foldl set bitmap) bit) = rest := by
    rw [← isRest]
    refine List.filter_congr fun bit inBack => ?_
    have notTaken : bit ∉ before ++ [last] := by
      intro member
      rcases List.mem_append.mp member with inBefore | isLast
      · exact apart bit (inFront inBefore) bit (List.mem_cons_of_mem _ inBack) rfl
      · rw [List.mem_singleton.mp isLast] at inBack
        exact (List.nodup_cons.mp nodupBack).1 inBack
    rw [marks]
    simp [notTaken]
  rw [offers, round_successor isRound, List.filter_append, taken, left, List.append_nil]

/-- After the first bits of a round have been taken, a round from the cursor behind them meets the
others. -/
theorem offers_taken {wanted : Nat} (covered : bitCount ≤ 8 * bitmap.length)
    (enough : wanted ≤ clearUsable bitmap bitCount) :
    let bits := (offers bitmap bitCount cursor).take wanted
    offers (bits.foldl set bitmap) bitCount (cursorBehind bitCount cursor bits) =
      (offers bitmap bitCount cursor).drop wanted := by
  intro bits
  have length : bits.length = wanted := by
    rw [List.length_take, length_offers]
    omega
  have parts : bits ++ (offers bitmap bitCount cursor).drop wanted = offers bitmap bitCount cursor :=
    List.take_append_drop ..
  rcases List.eq_nil_or_concat bits with none | ⟨before, last, isBits⟩
  · rw [none] at length
    rw [none, ← length, List.length_nil, List.drop_zero]
    rfl
  · rw [List.concat_eq_append] at isBits
    rw [isBits, ← List.append_cons] at parts
    rw [isBits, cursorBehind, List.getLast?_concat]
    exact offers_behind covered parts.symm

/-! Choices as a whole -/

/-- A round goes on to the last bit, and then from the first usable bit up to where it began. -/
theorem round_eq_append (bitCount cursor : Nat) :
    round bitCount cursor =
      List.range' (start bitCount cursor) (bitCount - start bitCount cursor) ++
        List.range' firstUsable (start bitCount cursor - firstUsable) := by
  have first : firstUsable = 1 := rfl
  have begins : firstUsable ≤ start bitCount cursor ∧
      (start bitCount cursor < bitCount ∨ start bitCount cursor = firstUsable) := by
    rw [start]
    split <;> omega
  obtain ⟨usable, inside⟩ := begins
  have parts : List.range' firstUsable (bitCount - firstUsable) =
      List.range' firstUsable (start bitCount cursor - firstUsable) ++
        List.range' (start bitCount cursor) (bitCount - start bitCount cursor) := by
    have stops : firstUsable + (start bitCount cursor - firstUsable) = start bitCount cursor := by omega
    nth_rewrite 2 [← stops]
    rw [List.range'_append_1]
    congr 1
    omega
  have turned := List.rotate_append_length_eq
    (List.range' firstUsable (start bitCount cursor - firstUsable))
    (List.range' (start bitCount cursor) (bitCount - start bitCount cursor))
  rw [List.length_range'] at turned
  rw [round, parts, turned]

theorem choose_eq_none {wanted : Nat} :
    choose bitmap bitCount cursor wanted = none ↔ clearUsable bitmap bitCount < wanted := by
  rw [choose_eq]
  split
  · next few => exact iff_of_true rfl few
  · next enough => exact iff_of_false (by simp) enough

theorem of_choose {wanted : Nat} {choice : Choice}
    (chosen : choose bitmap bitCount cursor wanted = some choice) :
    wanted ≤ clearUsable bitmap bitCount ∧
      choice.bits = (offers bitmap bitCount cursor).take wanted ∧
      choice.cursor = cursorBehind bitCount cursor choice.bits := by
  rw [choose_eq] at chosen
  split at chosen
  · cases chosen
  · next enough =>
    cases chosen
    exact ⟨Nat.not_lt.mp enough, rfl, rfl⟩

/-- A choice behind another one gives the rest of what one choice of both gives. -/
theorem choose_add {wanted : Nat} {choice : Choice} (covered : bitCount ≤ 8 * bitmap.length)
    (chosen : choose bitmap bitCount cursor wanted = some choice) (more : Nat) :
    choose bitmap bitCount cursor (wanted + more) =
      (choose (choice.bits.foldl set bitmap) bitCount choice.cursor more).map
        fun rest => ⟨choice.bits ++ rest.bits, rest.cursor⟩ := by
  obtain ⟨enough, isBits, isCursor⟩ := of_choose chosen
  have others := @offers_taken bitmap bitCount cursor wanted covered enough
  dsimp only at others
  rw [← isBits, ← isCursor] at others
  have left : clearUsable (choice.bits.foldl set bitmap) bitCount =
      clearUsable bitmap bitCount - wanted := by
    rw [← length_offers _ _ choice.cursor, others, List.length_drop, length_offers]
  rw [choose_eq, choose_eq, left, others]
  by_cases few : clearUsable bitmap bitCount < wanted + more
  · rw [if_pos few, if_pos (by omega)]
    rfl
  · rw [if_neg few, if_neg (by omega), Option.map_some, List.take_add, cursorBehind_append, ← isBits,
      ← isCursor]

/-- The choice of bits: nothing when there are too few clear bits, and otherwise the first ones on a
round from the cursor, with the cursor behind the last of them. Two choices in a row, with the bits of
the first one set in between, come to one choice of both. -/
theorem choose_exact (covered : bitCount ≤ 8 * bitmap.length) :
    let first := if 1 ≤ cursor ∧ cursor < bitCount then cursor else 1
    let visits := List.range' first (bitCount - first) ++ List.range' 1 (first - 1)
    let next (bit : Nat) := if bit + 1 < bitCount then bit + 1 else 1
    (∀ wanted, 1 ≤ wanted →
      (choose bitmap bitCount cursor wanted = none ↔
        ((List.range' 1 (bitCount - 1)).filter fun bit => !get bitmap bit).length < wanted) ∧
      ∀ choice, choose bitmap bitCount cursor wanted = some choice →
        choice.bits = (visits.filter fun bit => !get bitmap bit).take wanted ∧
        choice.bits.length = wanted ∧
        ∃ last, choice.bits.getLast? = some last ∧ choice.cursor = next last) ∧
    ∀ wanted choice, choose bitmap bitCount cursor wanted = some choice → ∀ more,
      choose bitmap bitCount cursor (wanted + more) =
        (choose (choice.bits.foldl set bitmap) bitCount choice.cursor more).map
          fun rest => ⟨choice.bits ++ rest.bits, rest.cursor⟩ := by
  intro first visits next
  have isRound : round bitCount cursor = visits := round_eq_append bitCount cursor
  refine ⟨fun wanted positive => ⟨?_, fun choice chosen => ?_⟩,
    fun wanted choice chosen => choose_add covered chosen⟩
  · rw [choose_eq_none, clearUsable, List.countP_eq_length_filter]
  · obtain ⟨enough, isBits, isCursor⟩ := of_choose chosen
    have length : choice.bits.length = wanted := by
      rw [isBits, List.length_take, length_offers]
      exact Nat.min_eq_left enough
    have some : choice.bits ≠ [] := List.ne_nil_of_length_pos (length ▸ positive)
    refine ⟨by rw [isBits, offers, isRound], length, _, List.getLast?_eq_some_getLast some, ?_⟩
    rw [isCursor, cursorBehind, List.getLast?_eq_some_getLast some]
    have lowest : firstUsable = 1 := rfl
    dsimp only [Option.map_some, Option.getD_some, next]
    rw [successor]
    split <;> split <;> omega

/-- A round that wraps: of twelve bits the second and the last ones are chosen, and then two more. -/
theorem choose_exact_wraps :
    let bitmap : Bytes := [0xB5, 0x06]
    let taken := ([11, 1].foldl set bitmap)
    12 ≤ 8 * bitmap.length ∧ choose bitmap 12 9 2 = some ⟨[11, 1], 2⟩ ∧
      choose taken 12 2 2 = some ⟨[3, 6], 7⟩ ∧ choose bitmap 12 9 4 = some ⟨[11, 1, 3, 6], 7⟩ := by
  intro bitmap taken
  have chosen : choose bitmap 12 9 2 = some ⟨[11, 1], 2⟩ := by decide +kernel
  have others : choose taken 12 2 2 = some ⟨[3, 6], 7⟩ := by decide +kernel
  obtain ⟨-, goesOn⟩ := @choose_exact bitmap 12 9 (by decide)
  refine ⟨by decide, chosen, others, ?_⟩
  rw [goesOn 2 _ chosen 2]
  change (choose taken 12 2 2).map _ = _
  rw [others]
  rfl

end ImageFs.FirstFit
