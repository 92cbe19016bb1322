import ImageFs.Proofs.OwnLocks

/-!
Descriptions of the file that are there for their locks alone: they ask for ranges and give them up, and
take and give up the lock on the directory tree. Main statement: such a deal changes nothing of the file
but the count of holders, which stays that of the guards, and no locks but those of the one who deals.
-/

namespace ImageFs

/-- What a description does that is there for its locks: it asks for a range or gives one up, it takes
the directory lock as a guard, or it gives a guard up. The lists name the owner of each guard. -/
inductive Volume.Deals (store : Volume) : List Nat → Backing → List Nat → Backing → Prop where
  | lock {guards : List Nat} {before after : Backing} {range : ByteRange} {kind : LockKind}
      {wait : Bool} {answer : Except Halt Bool}
      (ran : store.device.lock range kind wait before = (answer, after))
      (ends : answer ≠ .error .blocked) : Deals store guards before guards after
  | unlock {guards : List Nat} {before after : Backing} {range : ByteRange}
      {answer : Except Halt Unit} (ran : store.device.unlock range before = (answer, after)) :
      Deals store guards before guards after
  | acquire {guards : List Nat} {before after : Backing} {lock : DirectoryLock} {kind : LockKind}
      (made : DirectoryLock.ofVolume store = .ok lock)
      (ran : lock.acquire kind before = (.ok (), after)) :
      Deals store guards before (store.device.owner :: guards) after
  | acquireFails {guards : List Nat} {before after : Backing} {lock : DirectoryLock}
      {kind : LockKind} {halt : Halt} (made : DirectoryLock.ofVolume store = .ok lock)
      (ran : lock.acquire kind before = (.error halt, after)) (ends : halt ≠ .blocked) :
      Deals store guards before guards after
  | tryAcquire {guards : List Nat} {before after : Backing} {lock : DirectoryLock} {kind : LockKind}
      (made : DirectoryLock.ofVolume store = .ok lock)
      (ran : lock.tryAcquire kind before = (.ok true, after)) :
      Deals store guards before (store.device.owner :: guards) after
  | tryAcquireFails {guards : List Nat} {before after : Backing} {lock : DirectoryLock}
      {kind : LockKind} {answer : Except Halt Bool} (made : DirectoryLock.ofVolume store = .ok lock)
      (ran : lock.tryAcquire kind before = (answer, after)) (refused : answer ≠ .ok true)
      (ends : answer ≠ .error .blocked) : Deals store guards before guards after
  | release {guards : List Nat} {before after : Backing} {lock : DirectoryLock}
      {answer : Except Halt Unit} (made : DirectoryLock.ofVolume store = .ok lock)
      (holds : store.device.owner ∈ guards) (ran : lock.release before = (answer, after))
      (ends : answer ≠ .error .blocked) :
      Deals store guards before (guards.erase store.device.owner) after

/-- What dealing with locks leaves of a file: all but the count of holders, which is that of the guards,
and the locks of the one who deals. -/
structure Backing.Regards (geometry : Geometry) (owner : Nat) (guards : List Nat)
    (before after : Backing) : Prop where
  size : after.content.size = before.content.size
  disk : Disk.of geometry after.content = Disk.of geometry before.content
  holders : after.content.holders geometry = guards.length
  locks : after.locks.dropOwner owner = before.locks.dropOwner owner

namespace Backing.Regards

variable {store : Volume} {guards : List Nat} {before after : Backing}

theorem of_content (counts : before.content.holders store.geometry = guards.length)
    (content : after.content = before.content)
    (locks : after.locks.dropOwner store.device.owner = before.locks.dropOwner store.device.owner) :
    before.Regards store.geometry store.device.owner guards after where
  size := by rw [content]
  disk := by rw [content]
  holders := by rw [content, counts]
  locks := locks

theorem of_counted (long : store.geometry.imageLength ≤ before.content.size)
    (bound : guards.length < Limit.word64)
    (content : after.content = DirectoryLock.counted store before.content guards.length)
    (locks : after.locks.dropOwner store.device.owner = before.locks.dropOwner store.device.owner) :
    before.Regards store.geometry store.device.owner guards after where
  size := by rw [content, DirectoryLock.size_counted long]
  disk := by rw [content, DirectoryLock.disk_counted]
  holders := by rw [content, DirectoryLock.holders_counted bound]
  locks := locks

end Backing.Regards

/-! How taking the lock ends -/

namespace DirectoryLock

variable {store : Volume} {content : Content} {table : LockTable} {kind : LockKind} {after : Backing}
  (lockable : store.geometry.imageLength ≤ Limit.hostOffset)
  (long : store.geometry.imageLength ≤ content.size)

include lockable long

/-- Whoever need not wait has the lock and is counted, or the counter was at its end. -/
theorem of_acquire {answer : Except Halt Unit}
    (ran : store.directoryLock.acquire kind ⟨content, table⟩ = (answer, after))
    (ends : answer ≠ .error .blocked) :
    after.locks.dropOwner store.device.owner = table.dropOwner store.device.owner ∧
      (answer = .ok () ∧ content.holders store.geometry + 1 < Limit.word64 ∧
          after.content = counted store content (content.holders store.geometry + 1) ∨
        answer ≠ .ok () ∧ after.content = content) := by
  by_cases bound : content.holders store.geometry + 1 < Limit.word64
  · obtain ⟨taken, counts, locks⟩ := Update.Ends.of_run (acquire_ends lockable long bound) ran ends
    exact ⟨locks, .inl ⟨taken, bound, counts⟩⟩
  · obtain ⟨rfl, same, locks⟩ :=
      Update.Ends.of_run (acquire_full lockable long (Nat.not_lt.mp bound)) ran ends
    exact ⟨locks, .inr ⟨(fun impossible => by cases impossible), same⟩⟩

/-- An attempt that takes the lock counts one holder more, and any other one leaves the count. -/
theorem of_tryAcquire {answer : Except Halt Bool}
    (ran : store.directoryLock.tryAcquire kind ⟨content, table⟩ = (answer, after))
    (ends : answer ≠ .error .blocked) :
    after.locks.dropOwner store.device.owner = table.dropOwner store.device.owner ∧
      (answer = .ok true ∧ content.holders store.geometry + 1 < Limit.word64 ∧
          after.content = counted store content (content.holders store.geometry + 1) ∨
        answer ≠ .ok true ∧ after.content = content) := by
  by_cases bound : content.holders store.geometry + 1 < Limit.word64
  · obtain ⟨answered, counts, locks⟩ :=
      Update.Ends.of_run (tryAcquire_ends lockable long bound) ran ends
    cases isTaken : taken store (table.dropOwner store.device.owner) kind with
    | true =>
        rw [isTaken] at answered counts
        exact ⟨locks, .inr ⟨answered.trans_ne (fun impossible => by cases impossible), counts⟩⟩
    | false =>
        rw [isTaken] at answered counts
        exact ⟨locks, .inl ⟨answered, bound, counts⟩⟩
  · obtain ⟨rfl, same, locks⟩ :=
      Update.Ends.of_run (tryAcquire_full lockable long (Nat.not_lt.mp bound)) ran ends
    exact ⟨locks, .inr ⟨(fun impossible => by cases impossible), same⟩⟩

end DirectoryLock

/-- However a deal ends, there are as many holders as guards. -/
theorem Volume.Deals.regards {store : Volume} {guards guards' : List Nat} {before after : Backing}
    (lockable : store.geometry.imageLength ≤ Limit.hostOffset)
    (long : store.geometry.imageLength ≤ before.content.size)
    (counts : before.content.holders store.geometry = guards.length)
    (deals : store.Deals guards before guards' after) :
    before.Regards store.geometry store.device.owner guards' after := by
  obtain ⟨content, table⟩ := before
  dsimp only at long counts
  have isLock {lock : DirectoryLock} (made : DirectoryLock.ofVolume store = .ok lock) :
      lock = store.directoryLock :=
    Except.ok.inj (made.symm.trans store.directoryLock_of_volume)
  cases deals with
  | lock ran ends =>
      obtain ⟨same, locks⟩ := Device.lock_leaves ran
      exact .of_content counts same locks
  | unlock ran =>
      obtain ⟨same, locks⟩ := Device.unlock_leaves ran
      exact .of_content counts same locks
  | acquire made ran =>
      cases isLock made
      obtain ⟨locks, ⟨-, bound, one⟩ | ⟨impossible, -⟩⟩ :=
        DirectoryLock.of_acquire lockable long ran fun impossible => by cases impossible
      · rw [counts] at one bound
        exact .of_counted long bound one locks
      · exact absurd rfl impossible
  | acquireFails made ran ends =>
      cases isLock made
      obtain ⟨locks, ⟨impossible, -⟩ | ⟨-, same⟩⟩ :=
        DirectoryLock.of_acquire lockable long ran fun blocked => ends (Except.error.inj blocked)
      · cases impossible
      · exact .of_content counts same locks
  | tryAcquire made ran =>
      cases isLock made
      obtain ⟨locks, ⟨-, bound, one⟩ | ⟨impossible, -⟩⟩ :=
        DirectoryLock.of_tryAcquire lockable long ran fun impossible => by cases impossible
      · rw [counts] at one bound
        exact .of_counted long bound one locks
      · exact absurd rfl impossible
  | tryAcquireFails made ran refused ends =>
      cases isLock made
      obtain ⟨locks, ⟨granted, -⟩ | ⟨-, same⟩⟩ := DirectoryLock.of_tryAcquire lockable long ran ends
      · exact absurd granted refused
      · exact .of_content counts same locks
  | release made holds ran ends =>
      cases isLock made
      have some : 0 < guards.length := List.length_pos_of_mem holds
      have one : (guards.erase store.device.owner).length = guards.length - 1 :=
        List.length_erase_of_mem holds
      have bound : content.holders store.geometry < Limit.word64 := Disk.holders_lt content
      obtain ⟨-, same, locks⟩ :=
        Update.Ends.of_run (DirectoryLock.release_ends lockable long (by omega)) ran ends
      refine .of_counted long (by omega) ?_ locks
      rw [one, ← counts]
      exact same

/-- Whoever has a guard had it before or has just taken it. -/
theorem Volume.Deals.holder {store : Volume} {guards guards' : List Nat} {before after : Backing}
    (deals : store.Deals guards before guards' after) {owner : Nat} (holds : owner ∈ guards') :
    owner = store.device.owner ∨ owner ∈ guards := by
  cases deals with
  | acquire made ran => exact List.mem_cons.mp holds
  | tryAcquire made ran => exact List.mem_cons.mp holds
  | release made before ran ends => exact .inr (List.mem_of_mem_erase holds)
  | _ => exact .inr holds

end ImageFs
