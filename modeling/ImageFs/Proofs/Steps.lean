import Mathlib.Data.List.Basic
import ImageFs.DirectoryLock
import ImageFs.Image.Check
import ImageFs.Proofs.Disk

/-!
Computations on a file as steps from one disk to the next. A query answers, and an update leads from
a disk to a disk, on every file that shows the disk and on which nobody else holds a lock. What runs
under a lock leaves no lock behind, and what runs under the directory lock leaves the count of
holders as it was.
-/

namespace ImageFs

/-! Locks that are left behind -/

namespace HeldLock

theorem outside_of_apart {lock : HeldLock} {span : Span}
    (apart : lock.span.stop ≤ span.first ∨ span.stop ≤ lock.span.first) :
    lock.outside span = [lock] := by
  rw [outside, if_neg]
  simp only [overlaps, Bool.and_eq_true, decide_eq_true_eq]
  omega

theorem outside_self {lock : HeldLock} (proper : lock.span.first < lock.span.stop) :
    lock.outside lock.span = [] := by
  simp [outside, overlaps, proper]

end HeldLock

namespace LockTable

/-- Each lock after lies within a lock before. -/
def Within (after before : LockTable) : Prop :=
  ∀ lock ∈ after, ∃ cover ∈ before,
    cover.span.first ≤ lock.span.first ∧ lock.span.stop ≤ cover.span.stop

/-- Each lock is the owner's and covers a position. -/
def Own (table : LockTable) (owner : Nat) : Prop :=
  ∀ lock ∈ table, lock.owner = owner ∧ lock.span.first < lock.span.stop

theorem Within.refl (table : LockTable) : table.Within table :=
  fun lock member => ⟨lock, member, Nat.le_refl _, Nat.le_refl _⟩

theorem Within.trans {first second third : LockTable} (later : third.Within second)
    (earlier : second.Within first) : third.Within first := by
  intro lock member
  obtain ⟨middle, middleMember, start, stop⟩ := later lock member
  obtain ⟨cover, coverMember, start', stop'⟩ := earlier middle middleMember
  exact ⟨cover, coverMember, Nat.le_trans start' start, Nat.le_trans stop stop'⟩

theorem Within.eq_nil {table : LockTable} (within : table.Within []) : table = [] := by
  cases table with
  | nil => rfl
  | cons lock rest =>
      obtain ⟨_, member, _⟩ := within lock List.mem_cons_self
      cases member

theorem mem_outside {lock part : HeldLock} {span : Span} (member : part ∈ lock.outside span) :
    part.owner = lock.owner ∧ lock.span.first ≤ part.span.first ∧
      part.span.stop ≤ lock.span.stop ∧
      (lock.span.first < lock.span.stop → part.span.first < part.span.stop) ∧
      (lock.span.first < lock.span.stop →
        ¬ (span.first ≤ part.span.first ∧ part.span.stop ≤ span.stop)) := by
  rw [HeldLock.outside] at member
  split at member
  · next overlaps =>
    simp only [HeldLock.overlaps, Bool.and_eq_true, decide_eq_true_eq] at overlaps
    rcases List.mem_append.mp member with left | right
    · split at left
      · cases List.mem_singleton.mp left
        refine ⟨rfl, Nat.le_refl _, ?_, ?_, ?_⟩ <;> simp only <;> omega
      · cases left
    · split at right
      · cases List.mem_singleton.mp right
        refine ⟨rfl, ?_, Nat.le_refl _, ?_, ?_⟩ <;> simp only <;> omega
      · cases right
  · next apart =>
    cases List.mem_singleton.mp member
    simp only [HeldLock.overlaps, Bool.and_eq_true, decide_eq_true_eq] at apart
    refine ⟨rfl, Nat.le_refl _, Nat.le_refl _, id, ?_⟩
    omega

theorem release_of_own {table : LockTable} {owner : Nat} (own : table.Own owner) (span : Span) :
    table.release owner span = table.flatMap (·.outside span) := by
  refine List.flatMap_congr fun lock member => ?_
  rw [if_pos (own lock member).1]

theorem mem_release {table : LockTable} {owner : Nat} {span : Span} (own : table.Own owner)
    {part : HeldLock} (member : part ∈ table.release owner span) :
    ∃ lock ∈ table, part ∈ lock.outside span := by
  rw [release_of_own own] at member
  exact List.mem_flatMap.mp member

theorem Own.release {table : LockTable} {owner : Nat} (own : table.Own owner) (span : Span) :
    (table.release owner span).Own owner := by
  intro part member
  obtain ⟨lock, lockMember, partMember⟩ := mem_release own member
  obtain ⟨sameOwner, _, _, proper, _⟩ := mem_outside partMember
  exact ⟨sameOwner.trans (own lock lockMember).1, proper (own lock lockMember).2⟩

theorem within_release {table : LockTable} {owner : Nat} (own : table.Own owner) (span : Span) :
    (table.release owner span).Within table := by
  intro part member
  obtain ⟨lock, lockMember, partMember⟩ := mem_release own member
  obtain ⟨_, start, stop, _⟩ := mem_outside partMember
  exact ⟨lock, lockMember, start, stop⟩

theorem request_of_own {table : LockTable} {owner : Nat} (own : table.Own owner) (kind : LockKind)
    (span : Span) :
    table.request owner kind span = some ({ owner, kind, span } :: table.release owner span) := by
  have free : table.any (·.conflicts owner kind span) = false := by
    rw [List.any_eq_false]
    intro lock member
    simp [HeldLock.conflicts, (own lock member).1]
  rw [request, free]
  rfl

/-- Releasing what was requested leaves no more locks than there were. -/
theorem Within.release {before after : LockTable} {owner : Nat} {kind : LockKind} {span : Span}
    (own : before.Own owner) (own' : after.Own owner)
    (within : after.Within ({ owner, kind, span } :: before.release owner span)) :
    (after.release owner span).Within before := by
  intro part member
  obtain ⟨lock, lockMember, partMember⟩ := mem_release own' member
  obtain ⟨_, start, stop, proper, outside⟩ := mem_outside partMember
  obtain ⟨cover, coverMember, start', stop'⟩ := within lock lockMember
  have proper' := (own' lock lockMember).2
  rcases List.mem_cons.mp coverMember with rfl | coverMember
  · refine absurd ⟨?_, ?_⟩ (outside proper')
    · exact Nat.le_trans start' start
    · exact Nat.le_trans stop stop'
  · obtain ⟨old, oldMember, start'', stop''⟩ := within_release own span cover coverMember
    exact ⟨old, oldMember, by omega, by omega⟩

end LockTable

theorem ByteRange.span_of_le (range : ByteRange) (positive : 0 < range.start)
    (proper : 0 < range.length) (inside : range.start + range.length ≤ Limit.hostOffset) :
    range.span = .ok ⟨range.start, range.start + range.length⟩ := by
  rw [span, if_neg (by omega), if_neg (by omega), if_neg (by omega), if_neg (by omega)]

theorem Except.mapError_eq_ok_iff {ε ε' α : Type} {answer : Except ε α} {wrap : ε → ε'} {value : α} :
    answer.mapError wrap = .ok value ↔ answer = .ok value := by
  cases answer <;> simp [Except.mapError]

theorem Update.tryCatch_ok {α : Type} {update : Update α} {handler : FsError → Update α}
    {backing after : Backing} {value : α} (answer : update backing = (.ok value, after)) :
    (tryCatch update handler) backing = (.ok value, after) := by
  dsimp only [tryCatch, tryCatchThe, MonadExceptOf.tryCatch]
  rw [answer]

theorem Update.tryCatch_error {α : Type} {update : Update α} {handler : FsError → Update α}
    {backing after : Backing} {error : FsError}
    (answer : update backing = (.error (.failed error), after)) :
    (tryCatch update handler) backing = handler error after := by
  dsimp only [tryCatch, tryCatchThe, MonadExceptOf.tryCatch]
  rw [answer]

theorem Update.tryCatch_crashed {α : Type} {update : Update α} {handler : FsError → Update α}
    {backing after : Backing} {cause : Crash}
    (answer : update backing = (.error (.crashed cause), after)) :
    (tryCatch update handler) backing = (.error (.crashed cause), after) := by
  dsimp only [tryCatch, tryCatchThe, MonadExceptOf.tryCatch]
  rw [answer]

theorem Update.tryCatch_blocked {α : Type} {update : Update α} {handler : FsError → Update α}
    {backing after : Backing} (answer : update backing = (.error .blocked, after)) :
    (tryCatch update handler) backing = (.error .blocked, after) := by
  dsimp only [tryCatch, tryCatchThe, MonadExceptOf.tryCatch]
  rw [answer]

theorem Update.attempt_ok {α : Type} {update : Update α} {backing after : Backing} {value : α}
    (answer : update backing = (.ok value, after)) :
    update.attempt backing = (.ok (.ok value), after) := by
  rw [Update.attempt, answer]

theorem Update.ensuring_apply {α : Type} {update : Update α} {cleanup : Update Unit}
    {backing between : Backing} {answer : Except Halt α} (ends : update backing = (answer, between))
    (runs : answer ≠ .error .blocked) (cleans : (cleanup between).1 ≠ .error .blocked) :
    update.ensuring cleanup backing = (answer, (cleanup between).2) := by
  rw [Update.ensuring, ends]
  split
  · next stuck => exact absurd (congrArg Prod.fst stuck) runs
  · next same =>
    cases same
    split
    · next last stuck => exact absurd (congrArg Prod.fst stuck) cleans
    · next last _ same => rw [same]

theorem Update.exists_of_bind_ok {α β : Type} {update : Update α} {next : α → Update β}
    {backing after : Backing} {value : β} (ends : (update >>= next) backing = (.ok value, after)) :
    ∃ between backing', update backing = (.ok between, backing') ∧
      next between backing' = (.ok value, after) := by
  rw [Update.bind_apply] at ends
  split at ends
  · next between backing' first => exact ⟨between, backing', first, ends⟩
  · cases ends

theorem Update.exists_of_ensuring_ok {α : Type} {update : Update α} {cleanup : Update Unit}
    {backing after : Backing} {value : α}
    (ends : update.ensuring cleanup backing = (.ok value, after)) :
    ∃ between, update backing = (.ok value, between) := by
  rw [Update.ensuring] at ends
  split at ends
  · cases ends
  · next answer between _ first =>
    split at ends
    · cases ends
    · cases ends
      exact ⟨between, first⟩

theorem Device.lock_granted {device : Device} {range : ByteRange} {kind : LockKind} {span : Span}
    {backing : Backing} {locks : LockTable} (isSpan : range.span = .ok span)
    (granted : backing.locks.request device.owner kind span = some locks) (wait : Bool) :
    device.lock range kind wait backing = (.ok true, { backing with locks }) := by
  have spanned : (liftM range.span : Update Span) backing = (.ok span, backing) := by
    rw [isSpan]
    rfl
  refine (Update.bind_ok spanned).trans ?_
  rw [granted]

theorem Device.acquire_granted {device : Device} {range : ByteRange} {kind : LockKind} {span : Span}
    {backing : Backing} {locks : LockTable} (isSpan : range.span = .ok span)
    (granted : backing.locks.request device.owner kind span = some locks) :
    device.acquire range kind backing = (.ok (), { backing with locks }) :=
  @Update.bind_ok _ _ _ _ _ _ true (lock_granted isSpan granted true)

theorem Device.unlock_apply {device : Device} {range : ByteRange} {span : Span} {backing : Backing}
    (isSpan : range.span = .ok span) : device.unlock range backing =
      (.ok (), { backing with locks := backing.locks.release device.owner span }) := by
  rw [unlock, isSpan]
  rfl

theorem Device.lock_refused {device : Device} {range : ByteRange} {kind : LockKind} {span : Span}
    {backing : Backing} (isSpan : range.span = .ok span)
    (refused : backing.locks.request device.owner kind span = none) (wait : Bool) :
    device.lock range kind wait backing =
      (if wait then (.error .blocked, backing) else (.ok false, backing)) := by
  have spanned : (liftM range.span : Update Span) backing = (.ok span, backing) := by
    rw [isSpan]
    rfl
  refine (Update.bind_ok spanned).trans ?_
  rw [refused]

/-- Where nobody else holds a lock every request is granted, and releasing it leaves no more locks
than there were. -/
theorem Device.lock_of_own (device : Device) {range : ByteRange} (kind : LockKind) (wait : Bool)
    {span : Span} (isSpan : range.span = .ok span) (proper : span.first < span.stop)
    {backing : Backing} (own : backing.locks.Own device.owner) :
    ∃ locks : LockTable, device.lock range kind wait backing = (.ok true, { backing with locks }) ∧
      locks.Own device.owner ∧
      ∀ after : LockTable, after.Own device.owner → after.Within locks →
        (after.release device.owner span).Within backing.locks := by
  refine ⟨⟨device.owner, kind, span⟩ :: backing.locks.release device.owner span, ?_, ?_, ?_⟩
  · exact Device.lock_granted isSpan (LockTable.request_of_own own kind span) wait
  · intro lock member
    rcases List.mem_cons.mp member with rfl | member
    · exact ⟨rfl, proper⟩
    · exact own.release span lock member
  · intro after own' within
    exact within.release own own'

namespace Volume

/-- The file has its full length, all locks on it are of this volume's description, and the ranges
of the image can be locked. -/
structure Ready (volume : Volume) (backing : Backing) : Prop where
  long : volume.geometry.imageLength ≤ backing.content.size
  lockable : volume.geometry.imageLength ≤ Limit.hostOffset
  own : backing.locks.Own volume.device.owner

end Volume

/-- What every operation keeps of a file. -/
structure Backing.Keeps (volume : Volume) (backing final : Backing) : Prop where
  ready : volume.Ready final
  size : final.content.size = backing.content.size
  locks : final.locks.Within backing.locks

theorem Backing.Keeps.refl {volume : Volume} {backing : Backing} (ready : volume.Ready backing) :
    backing.Keeps volume backing :=
  ⟨ready, rfl, .refl _⟩

theorem Backing.Keeps.trans {volume : Volume} {first second third : Backing}
    (earlier : first.Keeps volume second) (later : second.Keeps volume third) :
    first.Keeps volume third :=
  ⟨later.ready, later.size.trans earlier.size, later.locks.trans earlier.locks⟩

variable {α β : Type}

/-! Answers -/

/-- On every file that shows the disk, the query ends with the answer. -/
def Answers (volume : Volume) (query : Query α) (disk : Disk) (answer : Except FsError α) : Prop :=
  ∀ backing, volume.Ready backing → Disk.of volume.geometry backing.content = disk →
    query backing = answer.mapError .failed

namespace Answers

variable {volume : Volume} {disk : Disk}

theorem pure (value : α) : Answers volume (Pure.pure value) disk (.ok value) :=
  fun _ _ _ => rfl

theorem throw (error : FsError) :
    Answers volume (MonadExcept.throw error : Query α) disk (.error error) :=
  fun _ _ _ => rfl

theorem except {computed answer : Except FsError α} (equal : computed = answer) :
    Answers volume (liftM computed : Query α) disk answer := by
  subst equal
  exact fun _ _ _ => rfl

theorem bind {query : Query α} {next : α → Query β} {value : α} {answer : Except FsError β}
    (first : Answers volume query disk (.ok value))
    (second : Answers volume (next value) disk answer) :
    Answers volume (query >>= next) disk answer := by
  intro backing ready shows
  rw [Query.bind_ok (first backing ready shows)]
  exact second backing ready shows

theorem bind_error {query : Query α} {next : α → Query β} {error : FsError}
    (first : Answers volume query disk (.error error)) :
    Answers volume (query >>= next) disk (.error error) := by
  intro backing ready shows
  exact Query.bind_error (first backing ready shows)

theorem ite_pos {condition : Prop} [Decidable condition] {yes no : Query α}
    {answer : Except FsError α} (holds : condition) (branch : Answers volume yes disk answer) :
    Answers volume (if condition then yes else no) disk answer := by
  rw [if_pos holds]
  exact branch

theorem ite_neg {condition : Prop} [Decidable condition] {yes no : Query α}
    {answer : Except FsError α} (fails : ¬ condition) (branch : Answers volume no disk answer) :
    Answers volume (if condition then yes else no) disk answer := by
  rw [if_neg fails]
  exact branch

theorem map {query : Query α} {value : α} (function : α → β)
    (first : Answers volume query disk (.ok value)) :
    Answers volume (function <$> query) disk (.ok (function value)) := by
  rw [← bind_pure_comp]
  exact first.bind (pure _)

theorem damageOr {query : Query α} {value : α} (first : Answers volume query disk (.ok value)) :
    Answers volume query.damageOr disk (.ok (.ok value)) := by
  intro backing ready shows
  have mapped := first.map (fun value => (.ok value : Except Damage α)) backing ready shows
  simp only [Query.damageOr, tryCatchThe, MonadExceptOf.tryCatch]
  rw [mapped]
  rfl

theorem mapM {query : α → Query β} {function : α → β} {list : List α}
    (each : ∀ item ∈ list, Answers volume (query item) disk (.ok (function item))) :
    Answers volume (list.mapM query) disk (.ok (list.map function)) := by
  induction list with
  | nil => exact pure []
  | cons item rest induction =>
      rw [List.mapM_cons]
      refine (each item List.mem_cons_self).bind ?_
      refine (induction fun other member => each other (List.mem_cons_of_mem _ member)).bind ?_
      exact pure _

end Answers

/-! Moves -/

/-- From every file that shows the disk `before` and the count `holders`, the update ends with the
answer and leaves the disk `after` and the count `holders'`. -/
def Moves (volume : Volume) (update : Update α) (before : Disk) (holders : Nat)
    (answer : Except FsError α) (after : Disk) (holders' : Nat) : Prop :=
  ∀ backing, volume.Ready backing → Disk.of volume.geometry backing.content = before →
    backing.content.holders volume.geometry = holders →
    ∃ final, update backing = (answer.mapError .failed, final) ∧ backing.Keeps volume final ∧
      Disk.of volume.geometry final.content = after ∧
      final.content.holders volume.geometry = holders'

/-- The update leads from one disk to the other and leaves the count of holders alone. -/
def Leads (volume : Volume) (update : Update α) (before : Disk) (answer : Except FsError α)
    (after : Disk) : Prop :=
  ∀ holders, Moves volume update before holders answer after holders

namespace Moves

variable {volume : Volume} {before middle after : Disk} {holders holders' holders'' : Nat}

theorem bind {update : Update α} {next : α → Update β} {value : α} {answer : Except FsError β}
    (first : Moves volume update before holders (.ok value) middle holders')
    (second : Moves volume (next value) middle holders' answer after holders'') :
    Moves volume (update >>= next) before holders answer after holders'' := by
  intro backing ready shows counts
  obtain ⟨between, ends, keeps, shows', counts'⟩ := first backing ready shows counts
  obtain ⟨final, ends', keeps', shows'', counts''⟩ := second between keeps.ready shows' counts'
  refine ⟨final, ?_, keeps.trans keeps', shows'', counts''⟩
  rw [Update.bind_ok ends, ends']

theorem bind_error {update : Update α} {next : α → Update β} {error : FsError}
    (first : Moves volume update before holders (.error error) after holders') :
    Moves volume (update >>= next) before holders (.error error) after holders' := by
  intro backing ready shows counts
  obtain ⟨final, ends, rest⟩ := first backing ready shows counts
  exact ⟨final, Update.bind_error ends, rest⟩

theorem attempt {update : Update α} {answer : Except FsError α}
    (first : Moves volume update before holders answer after holders') :
    Moves volume update.attempt before holders (.ok answer) after holders' := by
  intro backing ready shows counts
  obtain ⟨final, ends, rest⟩ := first backing ready shows counts
  refine ⟨final, ?_, rest⟩
  rw [Update.attempt, ends]
  cases answer <;> rfl

theorem tryCatch_ok {update : Update α} {handler : FsError → Update α} {value : α}
    (first : Moves volume update before holders (.ok value) after holders') :
    Moves volume (tryCatch update handler) before holders (.ok value) after holders' := by
  intro backing ready shows counts
  obtain ⟨final, ends, rest⟩ := first backing ready shows counts
  exact ⟨final, Update.tryCatch_ok ends, rest⟩

theorem tryCatch_error {update : Update α} {handler : FsError → Update α} {error : FsError}
    {answer : Except FsError α}
    (first : Moves volume update before holders (.error error) middle holders')
    (second : Moves volume (handler error) middle holders' answer after holders'') :
    Moves volume (tryCatch update handler) before holders answer after holders'' := by
  intro backing ready shows counts
  obtain ⟨between, ends, keeps, shows', counts'⟩ := first backing ready shows counts
  obtain ⟨final, ends', keeps', shows'', counts''⟩ := second between keeps.ready shows' counts'
  refine ⟨final, ?_, keeps.trans keeps', shows'', counts''⟩
  exact (Update.tryCatch_error ends).trans ends'

theorem withLock {range : ByteRange} {kind : LockKind} {body : Update α}
    {answer : Except FsError α} (positive : 0 < range.start) (proper : 0 < range.length)
    (inside : range.start + range.length ≤ volume.geometry.imageLength)
    (moves : Moves volume body before holders answer after holders') :
    Moves volume (volume.device.withLock range kind body) before holders answer after holders' := by
  intro backing ready shows counts
  have lockable := ready.lockable
  have span : range.span = .ok ⟨range.start, range.start + range.length⟩ :=
    range.span_of_le positive proper (by omega)
  obtain ⟨locks, locked, own, undone⟩ :=
    volume.device.lock_of_own kind true span (by simp only; omega) ready.own
  obtain ⟨final, ends, keeps, shows', counts'⟩ :=
    moves { backing with locks } ⟨ready.long, ready.lockable, own⟩ shows counts
  refine ⟨{ final with locks := final.locks.release volume.device.owner _ }, ?_,
    ⟨⟨keeps.ready.long, lockable, keeps.ready.own.release _⟩, keeps.size,
      undone final.locks keeps.ready.own keeps.locks⟩, shows', counts'⟩
  have acquired : volume.device.acquire range kind backing = (.ok (), { backing with locks }) :=
    Update.bind_ok locked
  rw [Device.withLock, Update.bind_ok acquired, Update.ensuring, ends]
  cases answer <;> simp only [Except.mapError, Device.unlock, span] <;> rfl

end Moves

namespace Leads

variable {volume : Volume} {before middle after : Disk}

theorem query {query : Query α} {answer : Except FsError α}
    (answers : Answers volume query before answer) :
    Leads volume (liftM query : Update α) before answer before :=
  fun _ backing ready shows counts =>
    ⟨backing, by rw [Update.lift_apply, answers backing ready shows], .refl ready, shows, counts⟩

theorem pure (value : α) : Leads volume (Pure.pure value) before (.ok value) before :=
  fun _ backing ready shows counts => ⟨backing, rfl, .refl ready, shows, counts⟩

theorem throw (error : FsError) :
    Leads volume (MonadExcept.throw error : Update α) before (.error error) before :=
  fun _ backing ready shows counts => ⟨backing, rfl, .refl ready, shows, counts⟩

theorem except {computed answer : Except FsError α} (equal : computed = answer) :
    Leads volume (liftM computed : Update α) before answer before := by
  subst equal
  exact fun _ backing ready shows counts => ⟨backing, rfl, .refl ready, shows, counts⟩

theorem bind {update : Update α} {next : α → Update β} {value : α} {answer : Except FsError β}
    (first : Leads volume update before (.ok value) middle)
    (second : Leads volume (next value) middle answer after) :
    Leads volume (update >>= next) before answer after :=
  fun holders => (first holders).bind (second holders)

theorem bind_error {update : Update α} {next : α → Update β} {error : FsError}
    (first : Leads volume update before (.error error) after) :
    Leads volume (update >>= next) before (.error error) after :=
  fun holders => (first holders).bind_error

theorem ending {update : Update α} {answer : Except FsError α}
    (leads : Leads volume update before answer middle) (same : middle = after) :
    Leads volume update before answer after :=
  same ▸ leads

theorem returning {update : Update α} {value : α}
    (first : Leads volume update before (.ok value) after) (other : β) :
    Leads volume (do let _ ← update; return other) before (.ok other) after :=
  first.bind (pure other)

theorem ite_pos {condition : Prop} [Decidable condition] {yes no : Update α}
    {answer : Except FsError α} (holds : condition) (branch : Leads volume yes before answer after) :
    Leads volume (if condition then yes else no) before answer after := by
  rw [if_pos holds]
  exact branch

theorem ite_neg {condition : Prop} [Decidable condition] {yes no : Update α}
    {answer : Except FsError α} (fails : ¬ condition)
    (branch : Leads volume no before answer after) :
    Leads volume (if condition then yes else no) before answer after := by
  rw [if_neg fails]
  exact branch

theorem attempt {update : Update α} {answer : Except FsError α}
    (first : Leads volume update before answer after) :
    Leads volume update.attempt before (.ok answer) after :=
  fun holders => (first holders).attempt

theorem tryCatch_ok {update : Update α} {handler : FsError → Update α} {value : α}
    (first : Leads volume update before (.ok value) after) :
    Leads volume (tryCatch update handler) before (.ok value) after :=
  fun holders => (first holders).tryCatch_ok

theorem tryCatch_error {update : Update α} {handler : FsError → Update α} {error : FsError}
    {answer : Except FsError α} (first : Leads volume update before (.error error) middle)
    (second : Leads volume (handler error) middle answer after) :
    Leads volume (tryCatch update handler) before answer after :=
  fun holders => (first holders).tryCatch_error (second holders)

theorem withLock {range : ByteRange} {kind : LockKind} {body : Update α}
    {answer : Except FsError α} (positive : 0 < range.start) (proper : 0 < range.length)
    (inside : range.start + range.length ≤ volume.geometry.imageLength)
    (leads : Leads volume body before answer after) :
    Leads volume (volume.device.withLock range kind body) before answer after :=
  fun holders => (leads holders).withLock positive proper inside

end Leads

end ImageFs
