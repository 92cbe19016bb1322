import ImageFs.Backing

/-!
An open description of the host file. Its length is the one that the file had when it was opened:
accesses are checked against it, also when the file has changed since.
-/

namespace ImageFs

/-- The owner is what locks taken through this description are held by. -/
structure Device where
  owner : Nat
  length : Nat
deriving DecidableEq, Repr

namespace Device

variable (device : Device)

def checkBounds (access : Access) (offset count : Nat) : Except FsError Unit :=
  if Limit.word64 ≤ offset + count then .error (.misfit (.rangeOverflow access))
  else if device.length < offset + count then
    .error (.misfit (.outOfBounds access offset count device.length))
  else .ok ()

/-- Reads exactly `count` bytes. A file that has become too short for that is a host error. -/
def read (offset count : Nat) : Query Bytes := do
  device.checkBounds .read offset count
  fun backing =>
    if 0 < count ∧ backing.content.size < offset + count then
      .error (.failed (.host .shortRead))
    else .ok (backing.content.read offset count)

def write (offset : Nat) (bytes : Bytes) : Update Unit := do
  device.checkBounds .write offset bytes.length
  fun backing => (.ok (), { backing with content := backing.content.write offset bytes })

def readWord (offset : Nat) : Query Nat := do
  let bytes ← device.read offset 8
  return bytes.toNat

def writeWord (offset value : Nat) : Update Unit :=
  device.write offset (.ofNat 8 value)

/-! Locks -/

/-- Asks for a lock. A request that may not wait is answered with `false` when another owner stands
in its way. -/
def lock (range : ByteRange) (kind : LockKind) (wait : Bool) : Update Bool := do
  let span ← range.span
  fun backing =>
    match backing.locks.request device.owner kind span with
    | some locks => (.ok true, { backing with locks })
    | none => if wait then (.error .blocked, backing) else (.ok false, backing)

def acquire (range : ByteRange) (kind : LockKind) : Update Unit := do
  let _ ← device.lock range kind true

def unlock (range : ByteRange) : Update Unit := do
  let span ← range.span
  fun backing => (.ok (), { backing with locks := backing.locks.release device.owner span })

/-- Runs `body` while holding a lock. -/
def withLock {α : Type} (range : ByteRange) (kind : LockKind) (body : Update α) : Update α := do
  device.acquire range kind
  body.ensuring (device.unlock range)

/-- Gives up every lock of this description, as closing it does. -/
def close : Update Unit :=
  fun backing => (.ok (), { backing with locks := backing.locks.dropOwner device.owner })

end Device

end ImageFs
