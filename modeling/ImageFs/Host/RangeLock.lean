import ImageFs.Error

/-!
Advisory locks on byte ranges of a file. Each open description of the file is one owner. A request
conflicts with overlapping locks of other owners unless both are shared, and replaces the owner's
own locks on the range.
-/

namespace ImageFs

inductive LockKind where
  | shared
  | exclusive
deriving DecidableEq, Repr

structure ByteRange where
  start : Nat
  length : Nat
deriving DecidableEq, Repr

/-- The end of the range, or the largest 64-bit offset when the end lies behind it. -/
def ByteRange.stop (range : ByteRange) : Nat :=
  min (range.start + range.length) (Limit.word64 - 1)

/-- Positions from `first` up to and without `stop`. -/
structure Span where
  first : Nat
  stop : Nat
deriving DecidableEq, Repr

/-- The positions that a lock on the range covers. A range of length zero reaches to the last
offset that the host can express. -/
def ByteRange.span (range : ByteRange) : Except FsError Span :=
  if Limit.hostOffset ≤ range.start then .error (.misfit (.lockStart range.start))
  else if Limit.hostOffset ≤ range.length then .error (.misfit (.lockLength range.length))
  else if range.length = 0 then .ok ⟨range.start, Limit.hostOffset⟩
  else if Limit.hostOffset < range.start + range.length then .error (.host .overflow)
  else .ok ⟨range.start, range.start + range.length⟩

/-! Held locks -/

structure HeldLock where
  owner : Nat
  kind : LockKind
  span : Span
deriving DecidableEq, Repr

namespace HeldLock

def overlaps (lock : HeldLock) (span : Span) : Bool :=
  lock.span.first < span.stop && span.first < lock.span.stop

def conflicts (lock : HeldLock) (owner : Nat) (kind : LockKind) (span : Span) : Bool :=
  lock.owner != owner && lock.overlaps span &&
    (lock.kind = .exclusive || kind = .exclusive)

/-- What is left of a lock outside the span: a part before it and a part behind it. -/
def outside (lock : HeldLock) (span : Span) : List HeldLock :=
  if lock.overlaps span then
    (if lock.span.first < span.first then
      [{ lock with span := ⟨lock.span.first, span.first⟩ }] else []) ++
    (if span.stop < lock.span.stop then
      [{ lock with span := ⟨span.stop, lock.span.stop⟩ }] else [])
  else [lock]

end HeldLock

/-! The locks on one file -/

abbrev LockTable := List HeldLock

namespace LockTable

def release (table : LockTable) (owner : Nat) (span : Span) : LockTable :=
  table.flatMap fun lock => if lock.owner = owner then lock.outside span else [lock]

/-- Drops all locks of an owner, as happens when its description of the file is closed. -/
def dropOwner (table : LockTable) (owner : Nat) : LockTable :=
  table.filter fun lock => lock.owner ≠ owner

/-- The table after the request, or `none` when another owner stands in its way. -/
def request (table : LockTable) (owner : Nat) (kind : LockKind) (span : Span) :
    Option LockTable :=
  if table.any (·.conflicts owner kind span) then none
  else some ({ owner, kind, span } :: table.release owner span)

end LockTable

end ImageFs
