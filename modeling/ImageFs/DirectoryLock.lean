import ImageFs.Volume.Guard
import ImageFs.Volume.Format

/-!
The lock on the directory tree: shared for lookups and file access, exclusive for changes of the
tree. A counter in the anchor block tells how many parties hold the lock or wait for it; the lock
itself is one on the anchor's inode record. The first party to register takes the lock while it
still has the counter, so it never waits; the others register first and wait without the counter.
-/

namespace ImageFs

structure DirectoryLock where
  device : Device
  counterBlock : Nat
  counter : ByteRange
  anchor : ByteRange
deriving DecidableEq, Repr

namespace DirectoryLock

def ofVolume (volume : Volume) : Except FsError DirectoryLock := do
  let block := volume.geometry.anchorBlock
  let start ← volume.blockOffset block
  let anchor ← volume.inodeRange InodeNumber.anchor
  return { device := volume.device, counterBlock := block, counter := ⟨start, 8⟩, anchor }

variable (lock : DirectoryLock) {α : Type}

def readHolders : Query Nat :=
  lock.device.readWord lock.counter.start

def writeHolders (count : Nat) : Update Unit :=
  lock.device.writeWord lock.counter.start count

def withCounter (kind : LockKind) (body : Update α) : Update α :=
  lock.device.withLock lock.counter kind body

/-- The parties that hold the lock or wait for it. -/
def holders : Update Nat :=
  lock.withCounter .shared lock.readHolders

/-! The steps of taking and giving up the lock -/

/-- Asks for the lock on the anchor. -/
def request (kind : LockKind) (wait : Bool) : Update Bool :=
  lock.device.lock lock.anchor kind wait

/-- Counts one more holder. The first holder makes an attempt on the anchor at once, and the
answer tells whether it succeeded. -/
def registerWith (attempt : Update Bool) : Update Bool :=
  lock.withCounter .exclusive do
    let before ← lock.readHolders
    if Limit.word64 ≤ before + 1 then throw (.corrupt lock.counterBlock .tooManyHolders)
    lock.writeHolders (before + 1)
    if before = 0 then
      try attempt
      catch error =>
        lock.writeHolders before
        throw error
    else return false

/-- Counts one holder less. -/
def decrement : Update Unit :=
  lock.withCounter .exclusive do
    let before ← lock.readHolders
    if before ≠ 0 then lock.writeHolders (before - 1)

def unregister : Update Unit := do
  let _ ← lock.decrement.attempt

/-- Takes the lock by an attempt that does not wait and, unless that succeeds, one that waits. -/
def acquireWith (attempt waiting : Update Bool) : Update Unit := do
  let fast ← lock.registerWith attempt
  if !fast then
    try
      let _ ← waiting
    catch error =>
      lock.unregister
      throw error

def acquire (kind : LockKind) : Update Unit :=
  lock.acquireWith (lock.request kind false) (lock.request kind true)

/-- Takes the lock only if it is free for this kind, and tells whether it did. A refused attempt
is counted out again; one that fails is not. -/
def tryAcquireWith (attempt : Update Bool) : Update Bool := do
  let fast ← lock.registerWith attempt
  if fast then return true
  if ← attempt then return true
  lock.unregister
  return false

def tryAcquire (kind : LockKind) : Update Bool :=
  lock.tryAcquireWith (lock.request kind false)

/-- Gives up the lock. The holder is counted out also when unlocking the anchor fails. -/
def release : Update Unit := do
  let unlocked ← (lock.device.unlock lock.anchor).attempt
  let decremented ← lock.decrement.attempt
  unlocked
  decremented

/-- Runs `body` while holding the lock. -/
def hold (kind : LockKind) (body : Update α) : Update α := do
  lock.acquire kind
  body.ensuring lock.release

end DirectoryLock

namespace Volume

/-- Runs `body` while holding the lock on the directory tree. -/
def withDirectoryLock {α : Type} (volume : Volume) (kind : LockKind) (body : Update α) :
    Update α := do
  let lock ← DirectoryLock.ofVolume volume
  lock.hold kind body

end Volume

end ImageFs
