import ImageFs.Proofs.Access

/-!
Operations between which the image rests: nobody holds a lock on it and the count of holders is zero.
Main statement: what runs under the directory lock finds the lock free and leaves the image at rest.
-/

namespace ImageFs

variable {α β : Type}

theorem Device.withLock_apply {device : Device} {range : ByteRange} {kind : LockKind}
    {body : Update α} {backing locked after final : Backing} {value : α}
    (acquired : device.acquire range kind backing = (.ok (), locked))
    (ends : body locked = (.ok value, after))
    (unlocked : device.unlock range after = (.ok (), final)) :
    device.withLock range kind body backing = (.ok value, final) := by
  rw [Device.withLock, Update.bind_ok acquired, Update.ensuring, ends]
  dsimp only
  rw [unlocked]

/-- Nobody uses the file. -/
structure Volume.AtRest (volume : Volume) (backing : Backing) : Prop where
  long : volume.geometry.imageLength ≤ backing.content.size
  lockable : volume.geometry.imageLength ≤ Limit.hostOffset
  locks : backing.locks = []
  holders : backing.content.holders volume.geometry = 0

theorem Volume.AtRest.ready {volume : Volume} {backing : Backing} (rest : volume.AtRest backing) :
    volume.Ready backing where
  long := rest.long
  lockable := rest.lockable
  own := by
    rw [rest.locks]
    intro lock member
    cases member

/-- From a file at rest that shows the disk `before`, the update ends with the answer, and leaves the
file at rest and with the disk `after`. -/
def Performs (volume : Volume) (update : Update α) (before : Disk) (answer : Except FsError α)
    (after : Disk) : Prop :=
  ∀ backing, volume.AtRest backing → Disk.of volume.geometry backing.content = before →
    ∃ final, update backing = (answer.mapError .failed, final) ∧ volume.AtRest final ∧
      final.content.size = backing.content.size ∧
      Disk.of volume.geometry final.content = after

namespace Performs

variable {volume : Volume} {before middle after : Disk}

theorem of_moves {update : Update α} {answer : Except FsError α}
    (moves : Moves volume update before 0 answer after 0) :
    Performs volume update before answer after := by
  intro backing rest shows
  obtain ⟨final, ends, keeps, shows', counts⟩ := moves backing rest.ready shows rest.holders
  have within := keeps.locks
  rw [rest.locks] at within
  exact ⟨final, ends, ⟨keeps.ready.long, rest.lockable, within.eq_nil, counts⟩, keeps.size, shows'⟩

theorem bind {update : Update α} {next : α → Update β} {value : α} {answer : Except FsError β}
    (first : Performs volume update before (.ok value) middle)
    (second : Performs volume (next value) middle answer after) :
    Performs volume (update >>= next) before answer after := by
  intro backing rest shows
  obtain ⟨between, ends, rest', size, shows'⟩ := first backing rest shows
  obtain ⟨final, ends', rest'', size', shows''⟩ := second between rest' shows'
  exact ⟨final, by rw [Update.bind_ok ends, ends'], rest'', size'.trans size, shows''⟩

theorem bind_error {update : Update α} {next : α → Update β} {error : FsError}
    (first : Performs volume update before (.error error) after) :
    Performs volume (update >>= next) before (.error error) after := by
  intro backing rest shows
  obtain ⟨final, ends, facts⟩ := first backing rest shows
  exact ⟨final, Update.bind_error ends, facts⟩

end Performs

/-! The lock on the directory tree -/

namespace Volume

variable (volume : Volume)

def directoryLock : DirectoryLock where
  device := volume.device
  counterBlock := volume.geometry.anchorBlock
  counter := ⟨volume.geometry.anchorBlock * volume.geometry.blockSize, 8⟩
  anchor := ⟨Area.first volume.geometry (.record InodeNumber.anchor), recordLength⟩

theorem directoryLock_of_volume : DirectoryLock.ofVolume volume = .ok volume.directoryLock := by
  have table := volume.geometry.four_le_inodeCount
  have anchorValid : InodeNumber.anchor < volume.geometry.inodeCount :=
    Nat.lt_of_lt_of_le (by decide) table
  simp only [DirectoryLock.ofVolume, inodeRange,
    volume.blockOffset_of_isData volume.geometry.isData_anchorBlock,
    volume.inodeOffset_of_lt anchorValid]
  rfl

end Volume

namespace DirectoryLock

variable {volume : Volume} {disk : Disk} {holders : Nat}

theorem counter_end_le :
    volume.directoryLock.counter.start + 8 ≤ volume.geometry.imageLength :=
  Area.stop_le_imageLength .holders trivial

theorem counter_start_pos : 0 < volume.directoryLock.counter.start := by
  have start := volume.geometry.two_le_dataStart
  have minimum := volume.geometry.minimum
  exact Nat.mul_pos (by rw [Geometry.anchorBlock]; omega) (by omega)

theorem readHolders_apply {backing : Backing} (ready : volume.Ready backing) :
    volume.directoryLock.readHolders backing = .ok (backing.content.holders volume.geometry) :=
  Query.bind_ok (volume.read_apply ready counter_end_le)

theorem writeHolders_apply (backing : Backing) (count : Nat) :
    volume.directoryLock.writeHolders count backing =
      (.ok (), { backing with
        content := backing.content.write
          (volume.geometry.anchorBlock * volume.geometry.blockSize) (.ofNat 8 count) }) :=
  volume.write_apply backing (by simp; exact counter_end_le)

theorem readHolders_moves :
    Moves volume (volume.directoryLock.readHolders : Update Nat) disk holders (.ok holders)
      disk holders := by
  intro backing ready shows counts
  refine ⟨backing, ?_, .refl ready, shows, counts⟩
  rw [Update.lift_apply, readHolders_apply ready, counts]
  rfl

theorem writeHolders_moves {count : Nat} (bound : count < Limit.word64) :
    Moves volume (volume.directoryLock.writeHolders count) disk holders (.ok ()) disk count := by
  intro backing ready shows counts
  have long := ready.long
  have inside : volume.geometry.anchorBlock * volume.geometry.blockSize + 8 ≤
      volume.geometry.imageLength := counter_end_le
  have fits : volume.geometry.anchorBlock * volume.geometry.blockSize +
      (Bytes.ofNat 8 count).length ≤ backing.content.size := by
    rw [Bytes.length_ofNat]
    omega
  have size := backing.content.size_write_of_fits fits
  exact ⟨_, writeHolders_apply backing count, ⟨⟨by rw [size]; exact long, ready.lockable, ready.own⟩,
    size, .refl _⟩, by rw [Disk.of_write_holders, shows], Disk.holders_write _ bound⟩

theorem decrement_moves (bound : holders < Limit.word64) :
    Moves volume volume.directoryLock.decrement disk (holders + 1) (.ok ()) disk holders := by
  refine Moves.withLock counter_start_pos (Nat.succ_pos 7) counter_end_le ?_
  refine readHolders_moves.bind ?_
  rw [if_pos (Nat.succ_ne_zero holders)]
  exact writeHolders_moves bound

theorem holders_moves :
    Moves volume volume.directoryLock.holders disk holders (.ok holders) disk holders :=
  Moves.withLock counter_start_pos (Nat.succ_pos 7) counter_end_le readHolders_moves

/-! Taking a free lock and giving it up -/

def held (volume : Volume) (range : ByteRange) (kind : LockKind) : HeldLock where
  owner := volume.device.owner
  kind
  span := ⟨range.start, range.start + range.length⟩

theorem counter_span (lockable : volume.geometry.imageLength ≤ Limit.hostOffset) :
    volume.directoryLock.counter.span = .ok (held volume volume.directoryLock.counter .shared).span :=
  ByteRange.span_of_le _ counter_start_pos (Nat.succ_pos 7) (Nat.le_trans counter_end_le lockable)

theorem anchor_stop_le :
    volume.directoryLock.anchor.start + recordLength ≤ volume.directoryLock.counter.start :=
  Area.record_end_le volume.geometry
    (Nat.lt_of_lt_of_le (by decide) volume.geometry.four_le_inodeCount)

theorem anchor_span (lockable : volume.geometry.imageLength ≤ Limit.hostOffset) :
    volume.directoryLock.anchor.span = .ok (held volume volume.directoryLock.anchor .shared).span := by
  have behind := @anchor_stop_le volume
  have inside := @counter_end_le volume
  have minimum := volume.geometry.minimum
  have bitmapEnd := volume.geometry.bitmap_le
  have start : volume.geometry.bitmapOffset = volume.geometry.blockSize := rfl
  refine ByteRange.span_of_le _ ?_ (Nat.succ_pos 255) ?_
  · simp only [Volume.directoryLock, Area.first]
    omega
  · exact Nat.le_trans (Nat.le_trans behind (by omega)) lockable

theorem own_counter (kind : LockKind) :
    LockTable.Own [held volume volume.directoryLock.counter kind] volume.device.owner := by
  intro lock member
  cases List.mem_singleton.mp member
  exact ⟨rfl, Nat.lt_add_of_pos_right (Nat.succ_pos 7)⟩

theorem own_anchor (kind : LockKind) {table : LockTable} (own : table.Own volume.device.owner) :
    LockTable.Own (held volume volume.directoryLock.anchor kind :: table) volume.device.owner := by
  intro lock member
  rcases List.mem_cons.mp member with rfl | member
  · exact ⟨rfl, Nat.lt_add_of_pos_right (Nat.succ_pos 255)⟩
  · exact own lock member

theorem counter_outside_anchor (kind kind' : LockKind) :
    (held volume volume.directoryLock.counter kind).outside
        (held volume volume.directoryLock.anchor kind').span =
      [held volume volume.directoryLock.counter kind] :=
  HeldLock.outside_of_apart (.inr anchor_stop_le)

theorem anchor_outside_counter (kind kind' : LockKind) :
    (held volume volume.directoryLock.anchor kind).outside
        (held volume volume.directoryLock.counter kind').span =
      [held volume volume.directoryLock.anchor kind] :=
  HeldLock.outside_of_apart (.inl anchor_stop_le)

theorem request_beside_counter (lockable : volume.geometry.imageLength ≤ Limit.hostOffset)
    (kind kind' : LockKind) (content : Content) :
    volume.directoryLock.request kind false
        ⟨content, [held volume volume.directoryLock.counter kind']⟩ =
      (.ok true, ⟨content, [held volume volume.directoryLock.anchor kind,
        held volume volume.directoryLock.counter kind']⟩) := by
  let anchorLock := held volume volume.directoryLock.anchor kind
  refine Device.lock_granted (anchor_span lockable) ?_ false
  refine (LockTable.request_of_own (own_counter kind') kind anchorLock.span).trans ?_
  have released : LockTable.release [held volume volume.directoryLock.counter kind']
      volume.device.owner anchorLock.span = [held volume volume.directoryLock.counter kind'] := by
    rw [LockTable.release_of_own (own_counter kind'), List.flatMap_singleton, counter_outside_anchor]
  exact congrArg (fun rest => some (anchorLock :: rest)) released

theorem unlock_counter (lockable : volume.geometry.imageLength ≤ Limit.hostOffset)
    (kind kind' : LockKind) (content : Content) :
    volume.device.unlock volume.directoryLock.counter
        ⟨content, [held volume volume.directoryLock.anchor kind,
          held volume volume.directoryLock.counter kind']⟩ =
      (.ok (), ⟨content, [held volume volume.directoryLock.anchor kind]⟩) := by
  have own := own_anchor kind (@own_counter volume kind')
  have gone : (held volume volume.directoryLock.counter kind').outside
      (held volume volume.directoryLock.counter .shared).span = [] :=
    HeldLock.outside_self (Nat.lt_add_of_pos_right (Nat.succ_pos 7))
  have released : LockTable.release [held volume volume.directoryLock.anchor kind,
      held volume volume.directoryLock.counter kind'] volume.device.owner
        (held volume volume.directoryLock.counter .shared).span =
      [held volume volume.directoryLock.anchor kind] := by
    rw [LockTable.release_of_own own, List.flatMap_cons, List.flatMap_singleton,
      anchor_outside_counter, gone]
    rfl
  rw [Device.unlock_apply (counter_span lockable)]
  exact congrArg (fun locks => (Except.ok (), Backing.mk content locks)) released

/-- The first holder takes the lock while it has the counter. -/
theorem acquire_of_atRest {backing : Backing} (rest : volume.AtRest backing)
    (shows : Disk.of volume.geometry backing.content = disk) (kind : LockKind) :
    ∃ content, volume.directoryLock.acquire kind backing =
        (.ok (), ⟨content, [held volume volume.directoryLock.anchor kind]⟩) ∧
      content.size = backing.content.size ∧ Disk.of volume.geometry content = disk ∧
      content.holders volume.geometry = 1 := by
  have fits : volume.geometry.anchorBlock * volume.geometry.blockSize +
      (Bytes.ofNat 8 1).length ≤ backing.content.size := by
    have inside := @counter_end_le volume
    have long := rest.long
    rw [Bytes.length_ofNat]
    exact Nat.le_trans inside long
  refine ⟨backing.content.write (volume.geometry.anchorBlock * volume.geometry.blockSize)
    (.ofNat 8 1), ?_, backing.content.size_write_of_fits fits,
    by rw [Disk.of_write_holders, shows], Disk.holders_write _ (by decide)⟩
  let counterLock := held volume volume.directoryLock.counter .exclusive
  have counterGranted : volume.device.acquire volume.directoryLock.counter .exclusive backing =
      (.ok (), { backing with locks := [counterLock] }) := by
    refine @Update.bind_ok _ _ _ _ backing _ true ?_
    refine Device.lock_granted (counter_span rest.lockable) ?_ true
    rw [rest.locks]
    rfl
  have noHolders : (volume.directoryLock.readHolders : Update Nat) ⟨backing.content, [counterLock]⟩ =
      (.ok 0, ⟨backing.content, [counterLock]⟩) := by
    have counted := @readHolders_apply volume ⟨backing.content, [counterLock]⟩
      ⟨rest.long, rest.lockable, own_counter .exclusive⟩
    rw [rest.holders] at counted
    rw [Update.lift_apply, counted]
  have registered : volume.directoryLock.registerWith (volume.directoryLock.request kind false)
      backing = (.ok true, ⟨backing.content.write
        (volume.geometry.anchorBlock * volume.geometry.blockSize) (.ofNat 8 1),
          [held volume volume.directoryLock.anchor kind]⟩) := by
    have counted := @writeHolders_apply volume ⟨backing.content, [counterLock]⟩ 1
    refine Device.withLock_apply counterGranted ?_ (unlock_counter rest.lockable kind .exclusive _)
    refine (Update.bind_ok noHolders).trans ?_
    rw [if_neg (by decide)]
    refine (Update.bind_ok counted).trans ?_
    exact Update.tryCatch_ok (request_beside_counter rest.lockable kind .exclusive _)
  exact Update.bind_ok registered

/-- Giving the lock up counts the holder out and leaves no lock. -/
theorem release_of_within {backing : Backing} {kind : LockKind} (ready : volume.Ready backing)
    (within : backing.locks.Within [held volume volume.directoryLock.anchor kind])
    (shows : Disk.of volume.geometry backing.content = disk)
    (counts : backing.content.holders volume.geometry = holders + 1) :
    ∃ content, volume.directoryLock.release backing = (.ok (), ⟨content, []⟩) ∧
      content.size = backing.content.size ∧ Disk.of volume.geometry content = disk ∧
      content.holders volume.geometry = holders := by
  let anchorLock := held volume volume.directoryLock.anchor kind
  let free := backing.locks.release volume.device.owner anchorLock.span
  have none : free = [] := by
    refine LockTable.Within.eq_nil (LockTable.Within.release ?_ ready.own within)
    intro lock member
    cases member
  have unlocked : volume.directoryLock.device.unlock volume.directoryLock.anchor backing =
      (.ok (), { backing with locks := free }) :=
    Device.unlock_apply (anchor_span ready.lockable)
  have ready' : volume.Ready { backing with locks := free } :=
    ⟨ready.long, ready.lockable, ready.own.release _⟩
  have bound : holders < Limit.word64 := by
    have counted := @Disk.holders_lt volume.geometry backing.content
    rw [counts] at counted
    exact Nat.lt_of_succ_lt counted
  obtain ⟨⟨content, locks⟩, ends, keeps, shows', counts'⟩ :=
    decrement_moves bound _ ready' shows counts
  obtain rfl : locks = [] := LockTable.Within.eq_nil (none ▸ keeps.locks)
  refine ⟨content, ?_, keeps.size, shows', counts'⟩
  have unlockedAttempt : (volume.directoryLock.device.unlock volume.directoryLock.anchor).attempt
      backing = (.ok (.ok ()), { backing with locks := free }) := Update.attempt_ok unlocked
  have decrementedAttempt : volume.directoryLock.decrement.attempt { backing with locks := free } =
      (.ok (.ok ()), ⟨content, []⟩) := Update.attempt_ok ends
  exact (Update.bind_ok unlockedAttempt).trans (Update.bind_ok decrementedAttempt)

end DirectoryLock

namespace Performs

variable {volume : Volume} {before after : Disk}

theorem withDirectoryLock (kind : LockKind) {body : Update α} {answer : Except FsError α}
    (leads : Leads volume body before answer after) :
    Performs volume (volume.withDirectoryLock kind body) before answer after := by
  intro backing rest shows
  obtain ⟨content, acquired, size, shows', counts⟩ :=
    DirectoryLock.acquire_of_atRest rest shows kind
  let anchorLock := DirectoryLock.held volume volume.directoryLock.anchor kind
  have ready : volume.Ready ⟨content, [anchorLock]⟩ :=
    ⟨size ▸ rest.long, rest.lockable, DirectoryLock.own_anchor kind fun _ member => by cases member⟩
  obtain ⟨between, ends, keeps, shows'', counts'⟩ := leads 1 _ ready shows' counts
  obtain ⟨content', released, size', shows''', none⟩ :=
    DirectoryLock.release_of_within keeps.ready keeps.locks shows'' counts'
  refine ⟨⟨content', []⟩, ?_, ⟨size' ▸ keeps.ready.long, rest.lockable, rfl, none⟩,
    size'.trans (keeps.size.trans size), shows'''⟩
  rw [Volume.withDirectoryLock, volume.directoryLock_of_volume]
  change (volume.directoryLock.hold kind body) backing = _
  rw [DirectoryLock.hold, Update.bind_ok acquired, Update.ensuring, ends]
  cases answer <;> simp only [Except.mapError, released]

end Performs

end ImageFs
