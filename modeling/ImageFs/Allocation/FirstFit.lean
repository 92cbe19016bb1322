import ImageFs.Allocation.Bitmap

/-!
Choosing clear bits of a bitmap: the first ones that a round from a cursor meets. Bit 0 is reserved
and never visited, and no bit is visited twice.
-/

namespace ImageFs.FirstFit

/-- The first bit that may be handed out. -/
abbrev firstUsable : Nat := 1

/-- The bits that were chosen, and the cursor that the next choice starts from. -/
structure Choice where
  bits : List Nat
  cursor : Nat
deriving DecidableEq, Repr

/-- The bit that is visited after `bit`. -/
def successor (bitCount bit : Nat) : Nat :=
  if bitCount ≤ bit + 1 then firstUsable else bit + 1

/-- The bit that a round from the cursor begins with. -/
def start (bitCount cursor : Nat) : Nat :=
  if firstUsable ≤ cursor ∧ cursor < bitCount then cursor else firstUsable

/-- The first `wanted` clear bits among `visits` many from `bit` on, or fewer if there are not so
many. -/
def scan (bitmap : Bytes) (bitCount : Nat) : Nat → Nat → Nat → List Nat
  | _, _, 0 => []
  | 0, _, _ + 1 => []
  | visits + 1, bit, wanted + 1 =>
      if Bitmap.get bitmap bit then
        scan bitmap bitCount visits (successor bitCount bit) (wanted + 1)
      else bit :: scan bitmap bitCount visits (successor bitCount bit) wanted

/-- Chooses `wanted` clear bits, or nothing when there are fewer. -/
def choose (bitmap : Bytes) (bitCount cursor wanted : Nat) : Option Choice :=
  if wanted = 0 then some ⟨[], cursor⟩
  else if bitCount - firstUsable < wanted then none
  else
    let bits := scan bitmap bitCount (bitCount - firstUsable) (start bitCount cursor) wanted
    if bits.length < wanted then none
    else bits.getLast?.map fun last => ⟨bits, successor bitCount last⟩

end ImageFs.FirstFit
