import ImageFs.Proofs.Bystanders

/-!
Files on which a volume can hand out blocks and take them back, whatever their bytes are and whatever
other locks are on them. Main statement: what neither takes locks nor looks at them does on such a file
what it does on one without locks.
-/

namespace ImageFs

variable {α β : Type}

namespace LockTable

variable {table locks : LockTable} {owner : Nat} {kind : LockKind} {span : Span}

/-- What an owner releases or is granted never stands in its own way. -/
theorem hinders_release (free : table.hinders owner kind span = false) (released : Span) :
    (table.release owner released).hinders owner kind span = false := by
  rw [hinders, List.any_eq_false] at free ⊢
  intro lock member
  obtain ⟨old, isOld, isPart⟩ := List.mem_flatMap.mp member
  split at isPart
  · next own =>
    have ofOwner := (mem_outside isPart).1.trans own
    simp [HeldLock.conflicts, ofOwner]
  · rw [List.mem_singleton.mp isPart]
    exact free old isOld

theorem hinders_cons_own (free : table.hinders owner kind span = false) (kind' : LockKind)
    (span' : Span) :
    LockTable.hinders (⟨owner, kind', span'⟩ :: table) owner kind span = false := by
  rw [hinders] at free ⊢
  rw [List.any_cons, free]
  simp [HeldLock.conflicts]

end LockTable

namespace Volume

/-- The positions of the cursor field. -/
def cursorSpan : Span :=
  ⟨cursorRange.start, cursorRange.start + cursorRange.length⟩

theorem span_cursorRange : cursorRange.span = .ok cursorSpan :=
  ByteRange.span_of_le _ (by decide) (by decide) (by decide)

/-- The host lets the volume use the file: the image lies within the file and within what the host can
address, and nobody else has locked the cursor. The bytes may be anything. -/
structure Usable (volume : Volume) (backing : Backing) : Prop where
  long : volume.geometry.imageLength ≤ backing.content.size
  addressable : volume.geometry.imageLength ≤ Limit.hostOffset
  unhindered : backing.locks.hinders volume.device.owner .exclusive cursorSpan = false

/-- Without the locks on it the file is ready. -/
theorem Usable.ready {volume : Volume} {backing : Backing} (usable : volume.Usable backing) :
    volume.Ready ⟨backing.content, []⟩ where
  long := usable.long
  lockable := usable.addressable
  own lock member := by cases member

end Volume

/-- The file stays usable and keeps its length and its count of holders, and shows the disk. -/
structure Backing.Becomes (volume : Volume) (backing final : Backing) (disk : Disk) : Prop where
  usable : volume.Usable final
  size : final.content.size = backing.content.size
  holders : final.content.holders volume.geometry = backing.content.holders volume.geometry
  shows : Disk.of volume.geometry final.content = disk

namespace Backing.Becomes

variable {volume : Volume} {backing middle final : Backing} {disk disk' : Disk}

theorem trans (first : backing.Becomes volume middle disk)
    (second : middle.Becomes volume final disk') : backing.Becomes volume final disk' :=
  ⟨second.usable, second.size.trans first.size, second.holders.trans first.holders, second.shows⟩

/-- A file that shows the same disk as before has not changed. -/
theorem content_eq_of_same
    (same : backing.Becomes volume final (Disk.of volume.geometry backing.content)) :
    final.content = backing.content :=
  Disk.content_eq same.size same.holders same.shows

end Backing.Becomes

/-- From every usable file that shows the disk `before`, the update ends with the answer and leaves a
usable file with the disk `after`. -/
def Settles (volume : Volume) (update : Update α) (before : Disk) (answer : Except FsError α)
    (after : Disk) : Prop :=
  ∀ backing, volume.Usable backing → Disk.of volume.geometry backing.content = before →
    ∃ final, update backing = (answer.mapError .failed, final) ∧
      backing.Becomes volume final after

variable {volume : Volume} {before middle after : Disk}

/-- On a usable file a query answers as on one without locks. -/
theorem Answers.of_usable {query : Query α} {answer : Except FsError α} {backing : Backing}
    (answers : Answers volume query (Disk.of volume.geometry backing.content) answer)
    (blind : query.Blind) (usable : volume.Usable backing) :
    query backing = answer.mapError .failed := by
  rw [← answers ⟨backing.content, []⟩ usable.ready rfl]
  exact blind backing.content backing.locks []

namespace Settles

theorem of_leads {update : Update α} {answer : Except FsError α}
    (leads : Leads volume update before answer after)
    (beside : ∀ others, update.Beside others) : Settles volume update before answer after := by
  intro backing usable shows
  obtain ⟨final, ends, keeps, shows', counts⟩ :=
    leads _ ⟨backing.content, []⟩ usable.ready shows rfl
  have ends' := beside backing.locks ⟨backing.content, []⟩
  rw [ends] at ends'
  have locks : (final.beside backing.locks).locks = backing.locks := by
    rw [Backing.beside, keeps.locks.eq_nil, List.nil_append]
  refine ⟨final.beside backing.locks, ends', ⟨?_, usable.addressable, ?_⟩, keeps.size, counts, shows'⟩
  · exact keeps.ready.long
  · rw [locks]
    exact usable.unhindered

theorem pure (value : α) : Settles volume (Pure.pure value) before (.ok value) before :=
  of_leads (.pure value) fun _ _ => rfl

theorem except {computed answer : Except FsError α} (equal : computed = answer) :
    Settles volume (liftM computed : Update α) before answer before :=
  of_leads (.except equal) fun _ _ => rfl

theorem bind {update : Update α} {next : α → Update β} {value : α} {answer : Except FsError β}
    (first : Settles volume update before (.ok value) middle)
    (second : Settles volume (next value) middle answer after) :
    Settles volume (update >>= next) before answer after := by
  intro backing usable shows
  obtain ⟨between, ends, becomes⟩ := first backing usable shows
  obtain ⟨final, ends', becomes'⟩ := second between becomes.usable becomes.shows
  exact ⟨final, by rw [Update.bind_ok ends, ends'], becomes.trans becomes'⟩

theorem bind_error {update : Update α} {next : α → Update β} {error : FsError}
    (first : Settles volume update before (.error error) after) :
    Settles volume (update >>= next) before (.error error) after := by
  intro backing usable shows
  obtain ⟨final, ends, becomes⟩ := first backing usable shows
  exact ⟨final, Update.bind_error ends, becomes⟩

theorem ite_neg {condition : Prop} [Decidable condition] {yes no : Update α}
    {answer : Except FsError α} (fails : ¬ condition)
    (branch : Settles volume no before answer after) :
    Settles volume (if condition then yes else no) before answer after := by
  rwa [if_neg fails]

theorem attempt {update : Update α} {answer : Except FsError α}
    (first : Settles volume update before answer after) :
    Settles volume update.attempt before (.ok answer) after := by
  intro backing usable shows
  obtain ⟨final, ends, becomes⟩ := first backing usable shows
  refine ⟨final, ?_, becomes⟩
  rw [Update.attempt, ends]
  cases answer <;> rfl

/-- The lock on the cursor is granted, and gone when the body has ended. -/
theorem withCursor {body : Update α} {answer : Except FsError α}
    (settles : Settles volume body before answer after) :
    Settles volume (volume.withCursor body) before answer after := by
  intro backing usable shows
  let locks : LockTable := ⟨volume.device.owner, .exclusive, Volume.cursorSpan⟩ ::
    backing.locks.release volume.device.owner Volume.cursorSpan
  have acquired : volume.device.acquire Volume.cursorRange .exclusive backing =
      (.ok (), { backing with locks }) :=
    Device.acquire_granted Volume.span_cursorRange (LockTable.request_of_free usable.unhindered)
  have usable' : volume.Usable { backing with locks } :=
    ⟨usable.long, usable.addressable, LockTable.hinders_cons_own
      (LockTable.hinders_release usable.unhindered _) _ _⟩
  obtain ⟨final, ends, becomes⟩ := settles { backing with locks } usable' shows
  have unlocked : volume.device.unlock Volume.cursorRange final = (.ok (), { final with
      locks := final.locks.release volume.device.owner Volume.cursorSpan }) :=
    Device.unlock_apply Volume.span_cursorRange
  refine ⟨{ final with locks := final.locks.release volume.device.owner Volume.cursorSpan }, ?_,
    ⟨becomes.usable.long, becomes.usable.addressable,
      LockTable.hinders_release becomes.usable.unhindered _⟩,
    becomes.size, becomes.holders, becomes.shows⟩
  rw [Volume.withCursor, Device.withLock, Update.bind_ok acquired,
    Update.ensuring_apply ends (by cases answer <;> simp [Except.mapError]) (by simp [unlocked]),
    unlocked]

end Settles

end ImageFs
